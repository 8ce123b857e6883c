import Mathlib.Algebra.Group.Nat.Defs
import SvgIcon.Number.Decimal
import SvgIcon.Number.Numeral

/-!
Written digits and what they stand for.  Zeros in front change nothing, a zero behind is a factor of
ten, and a number other than zero is written without zeros in front.
-/

namespace SvgIcon

/-- A text of decimal digits. -/
def AllDigits (s : List Char) : Prop := ∀ c ∈ s, Text.isAsciiDigit c = true

theorem AllDigits.append {a b : List Char} (ha : AllDigits a) (hb : AllDigits b) :
    AllDigits (a ++ b) := by
  intro c hc
  rcases List.mem_append.1 hc with hc | hc
  · exact ha c hc
  · exact hb c hc

theorem AllDigits.left {a b : List Char} (h : AllDigits (a ++ b)) : AllDigits a :=
  fun c hc => h c (List.mem_append_left _ hc)

theorem AllDigits.zeros (n : Nat) : AllDigits (List.replicate n '0') := by
  intro c hc
  rw [(List.mem_replicate.1 hc).2]
  decide

namespace Numeral

theorem value_eq_ofDigitChars (s : List Char) : value s = Nat.ofDigitChars 10 s 0 := rfl

theorem value_append (a b : List Char) : value (a ++ b) = value a * 10 ^ b.length + value b := by
  rw [value_eq_ofDigitChars, Nat.ofDigitChars_append, Nat.ofDigitChars_eq_ofDigitChars_zero,
    Nat.mul_comm]
  rfl

theorem value_zeros (n : Nat) : value (List.replicate n '0') = 0 := by
  rw [value_eq_ofDigitChars, Nat.ofDigitChars_replicate_zero, Nat.mul_zero]

theorem value_zeros_append (n : Nat) (s : List Char) :
    value (List.replicate n '0' ++ s) = value s := by
  rw [value_append, value_zeros, Nat.zero_mul, Nat.zero_add]

theorem value_append_zeros (s : List Char) (n : Nat) :
    value (s ++ List.replicate n '0') = value s * 10 ^ n := by
  rw [value_append, value_zeros, List.length_replicate, Nat.add_zero]

theorem value_lt {s : List Char} (h : AllDigits s) : value s < 10 ^ s.length := by
  induction s with
  | nil => decide
  | cons c s ih =>
    have hrest := ih fun d hd => h d (List.mem_cons_of_mem c hd)
    have hc := h c List.mem_cons_self
    simp only [Text.isAsciiDigit, Bool.and_eq_true, decide_eq_true_eq] at hc
    have hfirst : value [c] * 10 ^ s.length ≤ 9 * 10 ^ s.length := by
      refine Nat.mul_le_mul_right _ ?_
      show 10 * 0 + (c.toNat - 48) ≤ 9
      omega
    rw [← List.singleton_append, value_append, List.singleton_append, List.length_cons, Nat.pow_succ]
    omega

theorem fits_iff {i : Int} : fits i = true ↔ i.natAbs < 10 ^ maxDigits := by
  rw [fits, decide_eq_true_iff, firstTooLong, Nat.pow_eq]

theorem fits_of_small {i : Int} (h : i.natAbs < 10 ^ 4) : fits i = true :=
  fits_iff.2 (Nat.lt_of_lt_of_le h (Nat.pow_le_pow_right (by omega) (by decide)))

theorem value_toDigits (n : Nat) : value (Nat.toDigits 10 n) = n :=
  Nat.ofDigitChars_ten_toDigits

theorem allDigits_toDigits (n : Nat) : AllDigits (Nat.toDigits 10 n) := by
  intro c hc
  have hdigit := Char.isDigit_iff_toNat.1
    (Nat.isDigit_of_mem_toDigits (by omega) (Nat.le_refl 10) hc)
  simpa [Text.isAsciiDigit] using hdigit

theorem head?_toDigits {n : Nat} (hn : n ≠ 0) : (Nat.toDigits 10 n).head? ≠ some '0' := by
  induction n using Nat.strongRecOn with
  | ind n ih =>
    rw [Nat.toDigits_eq_if (by omega)]
    split
    · simpa using hn
    · have hfront := ih (n / 10) (by omega) (by omega)
      cases hdigits : Nat.toDigits 10 (n / 10) with
      | nil => exact absurd hdigits Nat.toDigits_ne_nil
      | cons c s => simpa [hdigits] using hfront

end Numeral

namespace Double

/-- Only zeros are left out at the end of digits, and at least one digit is kept. -/
theorem significant_append {digits : List Char} (hne : digits ≠ []) :
    significant digits ≠ [] ∧ ∃ n, digits = significant digits ++ List.replicate n '0' := by
  obtain ⟨n, hzeros⟩ : ∃ n, digits.reverse.takeWhile (· = '0') = List.replicate n '0' :=
    ⟨_, List.eq_replicate_iff.2
      ⟨rfl, fun c hc => by simpa using (List.all_eq_true.1 List.all_takeWhile c hc)⟩⟩
  have hdigits : digits =
      (digits.reverse.dropWhile (· = '0')).reverse ++ List.replicate n '0' := by
    have hsplit := congrArg List.reverse
      (List.takeWhile_append_dropWhile (p := (· = '0')) (l := digits.reverse))
    rw [List.reverse_append, hzeros, List.reverse_replicate, List.reverse_reverse] at hsplit
    exact hsplit.symm
  rw [significant]
  split
  · rename_i hkept
    rw [hkept, List.nil_append] at hdigits
    cases n with
    | zero => exact absurd hdigits hne
    | succ n => exact ⟨by simp, n, hdigits⟩
  · rename_i kept hnil
    exact ⟨hnil, n, hdigits⟩

end Double
end SvgIcon
