import SvgIcon.Text.Blank
import SvgIcon.Text.Word

/-!
How the character classes lie to each other.
-/

namespace SvgIcon
namespace Text

/-- What holds of every character of a text is decided along the text.  There is an instance that
goes through all characters instead, and it would be found first. -/
instance (priority := 1500) decidableAllOf (s : List Char) (p : Char → Prop) [DecidablePred p] :
    Decidable (∀ c ∈ s, p c) :=
  List.decidableBAll p s

theorem isUpper_iff_toNat {c : Char} : c.isUpper = true ↔ 65 ≤ c.toNat ∧ c.toNat ≤ 90 :=
  decide_eq_true_iff

theorem isLower_iff_toNat {c : Char} : c.isLower = true ↔ 97 ≤ c.toNat ∧ c.toNat ≤ 122 := by
  have hlower : c.isLower = (decide (97 ≤ c.toNat) && decide (c.toNat ≤ 122)) := rfl
  rw [hlower, Bool.and_eq_true, decide_eq_true_eq, decide_eq_true_eq]

theorem isWord_of_isAsciiLetter {c : Char} (h : isAsciiLetter c = true) : isWord c = true := by
  have hsmall : c.toNat < 128 := by
    simp only [isAsciiLetter, Bool.or_eq_true, Bool.and_eq_true, decide_eq_true_eq] at h
    omega
  simp [isWord, isAlphanumeric, hsmall, h]

theorem isWord_of_isAsciiDigit {c : Char} (h : isAsciiDigit c = true) : isWord c = true := by
  have hsmall : c.toNat < 128 := by
    simp only [isAsciiDigit, Bool.and_eq_true, decide_eq_true_eq] at h
    omega
  simp [isWord, isAlphanumeric, hsmall, h]

theorem blankRanges_apart :
    ∀ r ∈ blankRanges, ∀ q ∈ alphanumericRanges, r.2 < q.1 ∨ q.2 < r.1 := by
  decide +kernel

/-- No character of a word is blank. -/
theorem isBlank_eq_false_of_isWord {c : Char} (h : isWord c = true) : isBlank c = false := by
  rw [← Bool.not_eq_true]
  intro hblank
  obtain ⟨r, hr, hlow, hhigh⟩ := Ranges.hold_iff.1 hblank
  simp only [isWord, isAlphanumeric, Bool.or_eq_true, decide_eq_true_eq] at h
  rcases h with rfl | h
  · revert hblank
    decide
  · split at h
    · simp only [isAsciiLetter, isAsciiDigit, Bool.or_eq_true, Bool.and_eq_true,
        decide_eq_true_eq] at h
      simp only [blankRanges, List.mem_cons, List.not_mem_nil, or_false] at hr
      rcases hr with rfl | rfl | rfl | rfl | rfl | rfl | rfl | rfl | rfl | rfl <;> omega
    · obtain ⟨q, hq, hlow', hhigh'⟩ := Ranges.hold_iff.1 h
      have hapart := blankRanges_apart r hr q hq
      omega

end Text
end SvgIcon
