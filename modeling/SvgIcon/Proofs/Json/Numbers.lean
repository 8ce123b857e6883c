import SvgIcon.Json.Reader
import SvgIcon.Json.Writer
import SvgIcon.Proofs.Number.Digits
import SvgIcon.Proofs.Number.Rounding

/-!
Numbers in JSON text.  A number is read from its whole part, its fraction and its exponent, of which
each ends where the next begins.  Whichever way a number is laid out, the same number is read.
-/

namespace SvgIcon
namespace Json

open Text

/-! ## Where a value ends -/

/-- A text that may follow a value: no character of a number stands at its front. -/
def Stops (rest : List Char) : Prop := ∀ c ∈ rest.head?, c ∈ [',', ' ', '\n', ']', '\x7d']

theorem Stops.nil : Stops [] := by simp [Stops]

theorem Stops.cons {c : Char} (h : c ∈ [',', ' ', '\n', ']', '\x7d']) (s : List Char) :
    Stops (c :: s) := by
  intro c' hc'
  rw [← Option.some.inj hc']
  exact h

/-- The front of a text is outside a class of characters. -/
def Without (p : Char → Bool) (s : List Char) : Prop := ∀ c ∈ s.head?, p c = false

theorem Stops.without {rest : List Char} (h : Stops rest) {p : Char → Bool}
    (hp : [',', ' ', '\n', ']', '\x7d'].all (!p ·) = true) : Without p rest := by
  intro c hc
  simpa using List.all_eq_true.1 hp c (h c hc)

theorem takeWhile_digits {digits rest : List Char} (h : AllDigits digits)
    (hrest : Without isAsciiDigit rest) : (digits ++ rest).takeWhile isAsciiDigit = digits := by
  rw [List.takeWhile_append_of_pos h]
  cases rest with
  | nil => simp
  | cons c rest => simp [hrest c rfl]

theorem dropWhile_digits {digits rest : List Char} (h : AllDigits digits)
    (hrest : Without isAsciiDigit rest) : (digits ++ rest).dropWhile isAsciiDigit = rest := by
  rw [List.dropWhile_append_of_pos h]
  cases rest with
  | nil => rfl
  | cons c rest => simp [hrest c rfl]

/-! ## The parts of a number -/

/-- Digits that are read to their end as the whole part of a number. -/
structure Whole (digits : List Char) : Prop where
  allDigits : AllDigits digits
  ne_nil : digits ≠ []
  alone : digits.head? = some '0' → digits = ['0']

theorem Whole.zero : Whole ['0'] := ⟨.zeros 1, by decide, fun _ => rfl⟩

theorem Whole.of_head {digits : List Char} (h : AllDigits digits) (hne : digits ≠ [])
    (hhead : digits.head? ≠ some '0') : Whole digits :=
  ⟨h, hne, fun hzero => absurd hzero hhead⟩

theorem Whole.of_toDigits (n : Nat) : Whole (Nat.toDigits 10 n) := by
  by_cases hn : n = 0
  · rw [hn, Nat.toDigits_zero]
    exact .zero
  · exact .of_head (Numeral.allDigits_toDigits n) Nat.toDigits_ne_nil (Numeral.head?_toDigits hn)

variable {whole after digits tail rest : List Char}

theorem fraction_point (h : AllDigits after) (hne : after ≠ [])
    (hrest : Without isAsciiDigit rest) :
    fraction ('.' :: (after ++ rest)) = (some after, rest) := by
  rw [fraction, takeWhile_digits h hrest, dropWhile_digits h hrest, if_neg (by simpa using hne)]

theorem fraction_none (h : Without (· = '.') rest) : fraction rest = (none, rest) := by
  rw [fraction]
  rintro s rfl
  exact absurd (h '.' rfl) (by decide)

theorem exponent_none (h : Without (fun c => c = 'e' || c = 'E') rest) :
    exponent rest = (none, rest) := by
  cases rest with
  | nil => rfl
  | cons e s => exact if_neg (by simpa using h e rfl)

theorem exponent_some (negative : Bool) (h : AllDigits digits) (hne : digits ≠ [])
    (hrest : Without isAsciiDigit rest) :
    exponent ('e' :: (if negative then '-' else '+') :: (digits ++ rest)) =
      (some (if negative then -(Numeral.value digits : Int) else Numeral.value digits), rest) := by
  have hsign : Numeral.sign ((if negative then '-' else '+') :: (digits ++ rest)) =
      (negative, digits ++ rest) := by
    cases negative <;> rfl
  simp only [exponent, hsign, takeWhile_digits h hrest, dropWhile_digits h hrest]
  simp [hne]

/-- The number that its parts stand for. -/
theorem number_eq (negative : Bool) {digits : Option (List Char)} {power : Option Int}
    {back : List Char} (hwhole : Whole whole) (htail : Without isAsciiDigit tail)
    (hfraction : fraction tail = (digits, back)) (hexponent : exponent back = (power, rest)) :
    number negative (whole ++ tail) =
      if digits.isNone && power.isNone then
        if Numeral.maxDigits < whole.length then .error .tooManyDigits
        else .ok (.int (if negative then -(Numeral.value whole : Int) else Numeral.value whole), rest)
      else
        .ok (.float (Double.ofDecimal negative (Numeral.value (whole ++ digits.getD []))
          (power.getD 0 - (digits.getD []).length)), rest) := by
  have hpart : (if (whole ++ tail).head? = some '0' then ['0']
      else (whole ++ tail).takeWhile isAsciiDigit) = whole := by
    rw [takeWhile_digits hwhole.allDigits htail]
    split
    · rename_i hzero
      obtain ⟨c, digits, rfl⟩ := List.exists_cons_of_ne_nil hwhole.ne_nil
      exact (hwhole.alone hzero).symm
    · rfl
  have hne : whole.isEmpty = false := by simpa using hwhole.ne_nil
  simp only [number, hpart, hne, List.drop_left, hfraction, hexponent]
  rfl

/-- A whole number with few enough digits. -/
theorem number_whole (negative : Bool) (hwhole : Whole whole)
    (hlength : whole.length ≤ Numeral.maxDigits) (hrest : Stops rest) :
    number negative (whole ++ rest) =
      .ok (.int (if negative then -(Numeral.value whole : Int) else Numeral.value whole), rest) := by
  rw [number_eq negative hwhole (hrest.without (by decide)) (fraction_none (hrest.without (by decide)))
    (exponent_none (hrest.without (by decide)))]
  simp only [Option.isNone_none, Bool.and_self, if_true]
  rw [if_neg (by omega)]

/-- A number with a point and without an exponent. -/
theorem number_point (negative : Bool) (hwhole : Whole whole) (hafter : AllDigits after)
    (hne : after ≠ []) (hrest : Stops rest) :
    number negative (whole ++ '.' :: (after ++ rest)) =
      .ok (.float (Double.ofDecimal negative (Numeral.value (whole ++ after)) (-after.length)),
        rest) := by
  rw [number_eq negative hwhole (by simp [Without, isAsciiDigit])
    (fraction_point hafter hne (hrest.without (by decide)))
    (exponent_none (hrest.without (by decide)))]
  simp

/-- A number with an exponent, and with a point if digits follow it. -/
theorem number_scientific (negative below : Bool) (hwhole : Whole whole) (hafter : AllDigits after)
    (hdigits : AllDigits digits) (hne : digits ≠ []) (hrest : Stops rest) :
    number negative (whole ++ ((if after = [] then [] else '.' :: after) ++
        'e' :: (if below then '-' else '+') :: (digits ++ rest))) =
      .ok (.float (Double.ofDecimal negative (Numeral.value (whole ++ after))
        ((if below then -(Numeral.value digits : Int) else Numeral.value digits) - after.length)),
        rest) := by
  have hexponent := exponent_some below hdigits hne (hrest.without (p := isAsciiDigit) (by decide))
  by_cases hnil : after = []
  · rw [if_pos hnil, hnil, List.nil_append, number_eq negative hwhole (by simp [Without, isAsciiDigit])
      (fraction_none (by simp [Without])) hexponent]
    simp
  · rw [if_neg hnil, List.cons_append, number_eq negative hwhole (by simp [Without, isAsciiDigit])
      (fraction_point hafter hnil (by simp [Without, isAsciiDigit])) hexponent]
    simp

/-! ## Layouts -/

/-- Digits behind a point and zeros. -/
theorem number_fractional (negative : Bool) (hdigits : AllDigits digits) (hne : digits ≠ [])
    (zeros : Nat) (hrest : Stops rest) :
    number negative ("0.".toList ++ List.replicate zeros '0' ++ digits ++ rest) =
      .ok (.float (Double.ofDecimal negative (Numeral.value digits) (-(zeros + digits.length))),
        rest) := by
  have hafter : AllDigits (List.replicate zeros '0' ++ digits) := (AllDigits.zeros zeros).append hdigits
  have hvalue : Numeral.value (['0'] ++ (List.replicate zeros '0' ++ digits)) =
      Numeral.value digits := by
    rw [show ['0'] = List.replicate 1 '0' from rfl, Numeral.value_zeros_append,
      Numeral.value_zeros_append]
  have hread := number_point negative .zero hafter (by simp [hne]) hrest
  rw [hvalue, List.length_append, List.length_replicate] at hread
  simpa using hread

/-- Digits that are filled up with zeros to the given number of places. -/
theorem number_filled (negative : Bool) (hdigits : Whole digits) (hhead : digits.head? ≠ some '0')
    {places : Nat} (hplaces : digits.length ≤ places) (hrest : Stops rest) :
    number negative (digits ++ List.replicate (places - digits.length) '0' ++ ".0".toList ++ rest) =
      .ok (.float (Double.ofDecimal negative (Numeral.value digits) (places - digits.length)),
        rest) := by
  obtain ⟨c, others, hcons⟩ := List.exists_cons_of_ne_nil hdigits.ne_nil
  have hwhole : Whole (digits ++ List.replicate (places - digits.length) '0') := by
    refine .of_head (hdigits.allDigits.append (.zeros _)) (by simp [hcons]) ?_
    rw [hcons] at hhead ⊢
    exact hhead
  have hread := number_point negative hwhole (.zeros 1) (by decide) hrest
  have hvalue : Numeral.value (digits ++ List.replicate (places - digits.length) '0' ++
      List.replicate 1 '0') = Numeral.value digits * 10 ^ (places - digits.length + 1) := by
    rw [List.append_assoc, List.replicate_append_replicate, Numeral.value_append_zeros]
  have hexponent : (-(List.replicate 1 '0').length : Int) =
      (places - digits.length : Int) - (places - digits.length + 1 : Nat) := by
    simp only [List.length_replicate]
    omega
  rw [hvalue, hexponent, Double.ofDecimal_shift] at hread
  simpa using hread

/-- Digits with a point among them, behind the given number of places. -/
theorem number_pointed (negative : Bool) (hdigits : Whole digits) (hhead : digits.head? ≠ some '0')
    {places : Nat} (hplaces : 0 < places) (hlength : places < digits.length) (hrest : Stops rest) :
    number negative (digits.take places ++ ['.'] ++ digits.drop places ++ rest) =
      .ok (.float (Double.ofDecimal negative (Numeral.value digits) (places - digits.length)),
        rest) := by
  have hwhole : Whole (digits.take places) := by
    refine .of_head (fun d hd => hdigits.allDigits d (List.mem_of_mem_take hd)) ?_ ?_
    · refine List.ne_nil_of_length_pos ?_
      rw [List.length_take]
      omega
    · rwa [List.head?_take, if_neg (Nat.ne_of_gt hplaces)]
  have hafter : digits.drop places ≠ [] := by simpa using hlength
  have hread := number_point negative hwhole
    (fun d hd => hdigits.allDigits d (List.mem_of_mem_drop hd)) hafter hrest
  have hexponent : (-((digits.drop places).length : Int)) = places - digits.length := by
    rw [List.length_drop]
    omega
  rw [List.take_append_drop, hexponent] at hread
  simpa using hread

/-- Digits with a point behind the given number of places, filled up with zeros. -/
theorem number_positional (negative : Bool) (hdigits : Whole digits)
    (hhead : digits.head? ≠ some '0') {places : Nat} (hplaces : 0 < places) (hrest : Stops rest) :
    number negative (digits.take places ++ List.replicate (places - digits.length) '0' ++ ['.'] ++
        (if digits.length ≤ places then ['0'] else digits.drop places) ++ rest) =
      .ok (.float (Double.ofDecimal negative (Numeral.value digits) (places - digits.length)),
        rest) := by
  by_cases hall : digits.length ≤ places
  · rw [if_pos hall, List.take_of_length_le hall]
    simpa using number_filled negative hdigits hhead hall hrest
  · have hlength : places < digits.length := Nat.lt_of_not_le hall
    rw [if_neg hall, Nat.sub_eq_zero_of_le (Nat.le_of_lt hlength)]
    simpa using number_pointed negative hdigits hhead hplaces hlength hrest

/-- Digits with a point behind the first and an exponent. -/
theorem number_exponential (negative : Bool) (hdigits : Whole digits)
    (hhead : digits.head? ≠ some '0') (first : Int) (width : Nat) (hrest : Stops rest) :
    number negative (digits.take 1 ++ (if digits.length ≤ 1 then [] else '.' :: digits.drop 1) ++
        ['e', if first < 0 then '-' else '+'] ++
        List.replicate (width - (Double.digitText first.natAbs).length) '0' ++
        Double.digitText first.natAbs ++ rest) =
      .ok (.float (Double.ofDecimal negative (Numeral.value digits) (first + 1 - digits.length)),
        rest) := by
  obtain ⟨c, others, rfl⟩ := List.exists_cons_of_ne_nil hdigits.ne_nil
  have hwhole : Whole [c] :=
    .of_head (fun d hd => hdigits.allDigits d (by simp_all)) (by simp) hhead
  have hothers : AllDigits others := fun d hd => hdigits.allDigits d (List.mem_cons_of_mem c hd)
  have hread := number_scientific negative (decide (first < 0)) hwhole hothers
    ((AllDigits.zeros (width - (Double.digitText first.natAbs).length)).append
      (Numeral.allDigits_toDigits first.natAbs))
    (List.append_ne_nil_of_right_ne_nil _ Nat.toDigits_ne_nil) hrest
  rw [← Double.digitText] at hread
  have hvalue : Numeral.value (List.replicate (width - (Double.digitText first.natAbs).length) '0' ++
      Double.digitText first.natAbs) = first.natAbs := by
    rw [Numeral.value_zeros_append, Double.digitText, Numeral.value_toDigits]
  have hexponent : (if decide (first < 0) = true then -(first.natAbs : Int) else first.natAbs) -
      others.length = first + 1 - (c :: others).length := by
    rw [List.length_cons]
    by_cases hnegative : first < 0
    · rw [if_pos (decide_eq_true hnegative)]
      omega
    · rw [if_neg fun hless => hnegative (of_decide_eq_true hless)]
      omega
  rw [hvalue, hexponent] at hread
  have hnil : (others = []) = ((c :: others).length ≤ 1) := by simp
  simp only [hnil, decide_eq_true_eq] at hread
  simpa using hread

/-- A number is its significant digits and zeros behind them. -/
structure Spelled (n : Nat) (digits : List Char) (zeros : Nat) : Prop where
  whole : Whole digits
  head : digits.head? ≠ some '0'
  length : (Double.digitText n).length = digits.length + zeros
  value : Numeral.value digits * 10 ^ zeros = n

theorem spelled_significant {n : Nat} (hn : n ≠ 0) :
    ∃ zeros, Spelled n (Double.significant (Double.digitText n)) zeros := by
  obtain ⟨hne, zeros, hall⟩ := Double.significant_append (Nat.toDigits_ne_nil (b := 10) (n := n))
  have hdigits := Numeral.allDigits_toDigits n
  have hhead := Numeral.head?_toDigits hn
  have hvalue := Numeral.value_toDigits n
  have hlength := congrArg List.length hall
  rw [hall] at hdigits hhead hvalue
  rw [Numeral.value_append_zeros] at hvalue
  rw [List.length_append, List.length_replicate] at hlength
  have hfront : (Double.significant (Nat.toDigits 10 n)).head? ≠ some '0' := by
    obtain ⟨c, others, hcons⟩ := List.exists_cons_of_ne_nil hne
    rw [hcons] at hhead ⊢
    exact hhead
  exact ⟨zeros, .of_head hdigits.left hne hfront, hfront, hlength, hvalue⟩

/-- Whichever way a decimal is laid out, it is read as the number that it stands for. -/
theorem number_layoutDecimal (layout : Double.NumberLayout) (negative : Bool) {d : Double.Decimal}
    (hd : d.digits ≠ 0) (hrest : Stops rest) :
    number negative (Double.layoutDecimal layout d ++ rest) =
      .ok (.float (Double.ofDecimal negative d.digits d.exponent), rest) := by
  obtain ⟨zeros, hspelled⟩ := spelled_significant hd
  rw [Double.layoutDecimal]
  generalize Double.significant (Double.digitText d.digits) = digits at hspelled ⊢
  have hlength := hspelled.length
  have hne := List.length_pos_iff.2 hspelled.whole.ne_nil
  have hshift : Double.ofDecimal negative (Numeral.value digits) (d.exponent + zeros) =
      Double.ofDecimal negative d.digits d.exponent := by
    rw [← Double.ofDecimal_shift negative _ zeros, hspelled.value]
    congr 1
    omega
  split
  · split
    · rw [number_fractional negative hspelled.whole.allDigits hspelled.whole.ne_nil _ hrest, ← hshift]
      congr 4
      omega
    · rw [number_positional negative hspelled.whole hspelled.head (by omega) hrest, ← hshift]
      congr 4
      omega
  · rw [number_exponential negative hspelled.whole hspelled.head _ _ hrest, ← hshift]
    congr 4
    omega

end Json
end SvgIcon
