import SvgIcon.Value.Display

/-!
The text that stands for a value.  Only a text can be shown as nothing, and that only if it is empty.
A value that is too long to be shown counts as true.
-/

namespace SvgIcon

namespace Double

theorem layoutDecimal_ne_nil (layout : NumberLayout) (d : Decimal) :
    layoutDecimal layout d ≠ [] := by
  rw [layoutDecimal]
  simp only
  split
  · split <;> simp
  · simp

theorem text_ne_nil (x : Double) : x.text ≠ [] := by
  cases x with
  | nan => simp [text]
  | infinite negative => simp [text]
  | finite negative rank =>
    rw [text]
    refine List.append_ne_nil_of_right_ne_nil _ ?_
    split
    · simp
    · exact layoutDecimal_ne_nil plainLayout (shortest rank)

end Double

theorem Day.text_ne_empty (d : Day) : d.text ≠ "" := by
  show padded 4 d.year ++ "-" ++ padded 2 d.month ++ "-" ++ padded 2 d.day ≠ ""
  simp [String.append_eq_empty_iff]

theorem TimeOfDay.text_ne_empty (t : TimeOfDay) : t.text ≠ "" := by
  show padded 2 t.hour ++ ":" ++ padded 2 t.minute ++ ":" ++ padded 2 t.second ++ _ ≠ ""
  simp [String.append_eq_empty_iff]

theorem Moment.text_ne_empty (m : Moment) : m.text ≠ "" := by
  cases m with
  | day d => exact d.text_ne_empty
  | time t => exact t.text_ne_empty
  | «local» d t => simp [Moment.text, String.append_eq_empty_iff]
  | zoned d t offset => simp [Moment.text, String.append_eq_empty_iff]

namespace Value

theorem written_int_ne_nil (i : Int) : written (int i) ≠ [] := by
  rw [written]
  cases i with
  | ofNat n =>
    show (toString n).toList ≠ []
    rw [Nat.toString_eq_repr, Nat.toList_repr]
    exact Nat.toDigits_ne_nil
  | negSucc n =>
    show ("-" ++ toString (n + 1)).toList ≠ []
    simp

theorem display_ne_empty {v : Value} (h : v.truthy) : v.display ≠ "" := by
  have hwritten : ∀ s : List Char, s ≠ [] → String.ofList s ≠ "" := fun s =>
    mt String.ofList_eq_empty_iff.1
  cases v with
  | null => exact absurd h Bool.false_ne_true
  | bool b => cases b <;> exact hwritten _ (by simp [written])
  | int i => exact hwritten _ (written_int_ne_nil i)
  | float x => exact hwritten _ (by rw [written]; exact x.text_ne_nil)
  | text s =>
    have hs : s ≠ "" := by simpa [truthy] using h
    exact hs
  | moment m => exact m.text_ne_empty
  | array items => exact hwritten _ (by simp [written])
  | object fields => exact hwritten _ (by simp [written])

/-- What cannot be written is neither zero nor empty. -/
theorem truthy_of_not_isShort {v : Value} (h : v.isShort = false) : v.truthy = true := by
  cases v with
  | int i =>
    have hne : i ≠ 0 := by
      rintro rfl
      exact absurd h (by decide +kernel)
    exact decide_eq_true hne
  | moment m => rfl
  | array items =>
    cases items with
    | nil => exact absurd h (by decide)
    | cons => rfl
  | object fields =>
    cases fields with
    | nil => exact absurd h (by decide)
    | cons => rfl
  | _ => exact absurd h (by simp [isShort, defects])

end Value
end SvgIcon
