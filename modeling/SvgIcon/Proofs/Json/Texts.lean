import SvgIcon.Json.Reader
import SvgIcon.Json.Writer

/-!
Texts in JSON.  Every character of a text is written as itself, behind a backslash, or as one or two
units in hexadecimal, and read back as the one character that it was.
-/

namespace SvgIcon

namespace Numeral

theorem hexValue?_digitChar : ∀ d < 16, hexValue? (Nat.digitChar d) = some d := by decide

theorem valueIn_append (base : Nat) (a : List Char) (c : Char) :
    valueIn base (a ++ [c]) = base * valueIn base a + (hexValue? c).getD 0 := by
  simp [valueIn]

theorem hexDigits_read (n : Nat) :
    (Nat.toDigits 16 n).all isHexDigit = true ∧ valueIn 16 (Nat.toDigits 16 n) = n := by
  induction n using Nat.strongRecOn with
  | ind n ih =>
    rw [Nat.toDigits_eq_if (by omega)]
    split
    · rename_i hsmall
      simp [isHexDigit, valueIn, hexValue?_digitChar n hsmall]
    · obtain ⟨hall, hvalue⟩ := ih (n / 16) (by omega)
      have hlast := hexValue?_digitChar (n % 16) (Nat.mod_lt n (by omega))
      rw [List.all_append, hall, valueIn_append, hvalue, hlast]
      simp only [List.all_cons, isHexDigit, hlast]
      simp [Nat.div_add_mod]

theorem valueIn_zeros_append (base zeros : Nat) (s : List Char) :
    valueIn base (List.replicate zeros '0' ++ s) = valueIn base s := by
  have hzeros : valueIn base (List.replicate zeros '0') = 0 := by
    induction zeros with
    | zero => rfl
    | succ zeros ih =>
      rw [List.replicate_succ', valueIn_append, ih]
      rfl
  rw [valueIn, List.foldl_append, ← valueIn, hzeros]
  rfl

/-- Four hexadecimal digits of a unit are read back. -/
theorem hexNumber?_hexDigits {n : Nat} (hn : n < 0x10000) :
    ∃ a b c d, Text.hexDigits 4 n = [a, b, c, d] ∧ hexNumber? [a, b, c, d] = some n := by
  obtain ⟨hall, hvalue⟩ := hexDigits_read n
  have hlength : (Nat.toDigits 16 n).length ≤ 4 :=
    (Nat.length_toDigits_le_iff (by omega) (by omega)).2 hn
  have hfour : (Text.hexDigits 4 n).length = 4 := by
    simp only [Text.hexDigits, List.length_append, List.length_replicate]
    omega
  have hread : hexNumber? (Text.hexDigits 4 n) = some n := by
    rw [hexNumber?, Text.hexDigits, valueIn_zeros_append, hvalue, if_pos]
    rw [List.all_append, hall, Bool.and_true, List.all_eq_true]
    intro c hc
    rw [(List.mem_replicate.1 hc).2]
    decide
  obtain ⟨a, b, c, d, hdigits⟩ : ∃ a b c d, Text.hexDigits 4 n = [a, b, c, d] := by
    rcases hdigits : Text.hexDigits 4 n with _ | ⟨a, _ | ⟨b, _ | ⟨c, _ | ⟨d, _ | ⟨e, s⟩⟩⟩⟩⟩ <;>
      simp_all
  exact ⟨a, b, c, d, hdigits, hdigits ▸ hread⟩

end Numeral

namespace Json

/-- A character in front of what a text is read as. -/
def push (c : Char) (read : List Char × List Char) : List Char × List Char := (c :: read.1, read.2)

variable {c e : Char} {n : Nat} {asciiOnly : Bool}

theorem textFrom_plain (hquote : c ≠ '"') (hslash : c ≠ '\\') (hcontrol : ¬ c.toNat < 32)
    (tail : List Char) : textFrom none (c :: tail) = (textFrom none tail).map (push c) := by
  have hunit : ∀ (a b d f : Char) (rest : List Char), c = '\\' →
      tail = 'u' :: a :: b :: d :: f :: rest → False := fun _ _ _ _ _ hc _ => hslash hc
  cases tail with
  | nil =>
    rw [textFrom.eq_4 _ _ hunit, if_neg hquote, if_neg hslash, if_neg hcontrol]
    rfl
  | cons d tail =>
    rw [textFrom.eq_3 _ _ _ _ hunit, if_neg hquote, if_neg hslash, if_neg hcontrol]
    cases textFrom none (d :: tail) <;> rfl

theorem textFrom_quote (tail : List Char) : textFrom none ('"' :: tail) = .ok ([], tail) := by
  cases tail with
  | nil => rfl
  | cons d tail =>
    rw [textFrom]
    · rfl
    · intro _ _ _ _ _ hc _
      exact absurd hc (by decide)

theorem textFrom_escaped (h : escaped? e = some c) (tail : List Char) :
    textFrom none ('\\' :: e :: tail) = (textFrom none tail).map (push c) := by
  have hunit : e ≠ 'u' := by
    rintro rfl
    rw [show escaped? 'u' = none by decide] at h
    exact absurd h (by simp)
  rw [textFrom]
  · simp only [Option.isSome_none, Bool.false_eq_true, if_false, h, wanted]
    cases textFrom none tail <;> rfl
  · intro a b d f rest _ hrest
    exact hunit (List.cons.inj hrest).1

theorem textFrom_unit (hn : n < 0x10000) (hhigh : isHighUnit n = false)
    (hchar : unitChar n = .ok c) (tail : List Char) :
    textFrom none (unitEscape n ++ tail) = (textFrom none tail).map (push c) := by
  obtain ⟨a, b, d, f, hdigits, hread⟩ := Numeral.hexNumber?_hexDigits hn
  rw [unitEscape, hdigits]
  show textFrom none ('\\' :: 'u' :: a :: b :: d :: f :: tail) = _
  rw [textFrom, hread]
  simp only [wanted, bind, Except.bind, hhigh, hchar]
  cases textFrom none tail <;> rfl

theorem isHighUnit_iff : isHighUnit n = true ↔ 0xD800 ≤ n ∧ n < 0xDC00 := by
  rw [isHighUnit, Bool.and_eq_true, decide_eq_true_eq, decide_eq_true_eq]

theorem isLowUnit_iff : isLowUnit n = true ↔ 0xDC00 ≤ n ∧ n < 0xE000 := by
  rw [isLowUnit, Bool.and_eq_true, decide_eq_true_eq, decide_eq_true_eq]

theorem textFrom_pair {high low : Nat} (hhigh : isHighUnit high = true)
    (hlow : isLowUnit low = true) (tail : List Char) :
    textFrom none (unitEscape high ++ unitEscape low ++ tail) = (textFrom none tail).map
      (push (Char.ofNat (0x10000 + (high - 0xD800) * 0x400 + (low - 0xDC00)))) := by
  have hhighBound : high < 0x10000 := Nat.lt_trans (isHighUnit_iff.1 hhigh).2 (by omega)
  have hlowBound : low < 0x10000 := Nat.lt_trans (isLowUnit_iff.1 hlow).2 (by omega)
  obtain ⟨a, b, d, f, hdigits, hread⟩ := Numeral.hexNumber?_hexDigits hhighBound
  obtain ⟨a', b', d', f', hdigits', hread'⟩ := Numeral.hexNumber?_hexDigits hlowBound
  rw [unitEscape, unitEscape, hdigits, hdigits']
  show textFrom none ('\\' :: 'u' :: a :: b :: d :: f :: '\\' :: 'u' :: a' :: b' :: d' :: f' :: tail) = _
  rw [textFrom, hread]
  simp only [wanted, bind, Except.bind, hhigh, if_true]
  rw [textFrom, hread']
  simp only [wanted, bind, Except.bind, hlow, if_true]
  cases textFrom none tail <;> rfl

/-- No character is half of a pair. -/
theorem isHighUnit_toNat (c : Char) : isHighUnit c.toNat = false := by
  have hvalid : c.toNat < 0xD800 ∨ 0xDFFF < c.toNat ∧ c.toNat < 0x110000 := c.valid
  rw [Bool.eq_false_iff, Ne, isHighUnit_iff]
  omega

theorem isLowUnit_toNat (c : Char) : isLowUnit c.toNat = false := by
  have hvalid : c.toNat < 0xD800 ∨ 0xDFFF < c.toNat ∧ c.toNat < 0x110000 := c.valid
  rw [Bool.eq_false_iff, Ne, isLowUnit_iff]
  omega

theorem textFrom_single (hsmall : c.toNat < 0x10000) (tail : List Char) :
    textFrom none (unitEscape c.toNat ++ tail) = (textFrom none tail).map (push c) := by
  have hchar : unitChar c.toNat = .ok c := by
    rw [unitChar, isHighUnit_toNat, isLowUnit_toNat]
    exact congrArg Except.ok (Char.ofNat_toNat c)
  exact textFrom_unit hsmall (isHighUnit_toNat c) hchar tail

theorem textFrom_double (hlarge : 0x10000 ≤ c.toNat) (tail : List Char) :
    textFrom none (unitEscape (0xD800 + (c.toNat - 0x10000) / 0x400) ++
        unitEscape (0xDC00 + (c.toNat - 0x10000) % 0x400) ++ tail) =
      (textFrom none tail).map (push c) := by
  have hvalid : c.toNat < 0xD800 ∨ 0xDFFF < c.toNat ∧ c.toNat < 0x110000 := c.valid
  have hback : 0x10000 + (0xD800 + (c.toNat - 0x10000) / 0x400 - 0xD800) * 0x400 +
      (0xDC00 + (c.toNat - 0x10000) % 0x400 - 0xDC00) = c.toNat := by omega
  rw [textFrom_pair (isHighUnit_iff.2 (by omega)) (isLowUnit_iff.2 (by omega)), hback,
    Char.ofNat_toNat]

/-- Reading a written character gives the character back. -/
theorem textFrom_charText (asciiOnly : Bool) (c : Char) (tail : List Char) :
    textFrom none (charText asciiOnly c ++ tail) = (textFrom none tail).map (push c) := by
  by_cases hletter : c ∈ ['"', '\\', '\n', '\r', '\t', '\x08', '\x0c']
  · simp only [List.mem_cons, List.not_mem_nil, or_false] at hletter
    rcases hletter with rfl | rfl | rfl | rfl | rfl | rfl | rfl <;>
      exact textFrom_escaped (by decide) tail
  · simp only [List.mem_cons, List.not_mem_nil, or_false, not_or] at hletter
    simp only [charText, hletter, if_false]
    split
    · exact textFrom_single (by omega) tail
    rename_i hcontrol
    split
    · split
      · rename_i hsmall
        exact textFrom_single hsmall tail
      · rename_i hlarge
        exact textFrom_double (by omega) tail
    · exact textFrom_plain hletter.1 hletter.2.1 hcontrol tail

/-- A written text is read back up to its closing quote. -/
theorem textFrom_written (asciiOnly : Bool) (s rest : List Char) :
    textFrom none (s.flatMap (charText asciiOnly) ++ '"' :: rest) = .ok (s, rest) := by
  induction s with
  | nil => exact textFrom_quote rest
  | cons c s ih =>
    rw [List.flatMap_cons, List.append_assoc, textFrom_charText, ih]
    rfl

end Json
end SvgIcon
