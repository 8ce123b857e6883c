import Mathlib.Data.List.Basic
import SvgIcon.Markup.Style
import SvgIcon.Number.Digits
import SvgIcon.Proofs.Text.Passes

/-!
The object literals of inline styles, read as a script reads them.  A text in single quotes is read
up to the first quote that no backslash stands before, and an escape is always longer than what it
stands for; so the values of a style are read as they were written exactly if none of them holds a
character that means something else in a text.
-/

namespace SvgIcon
namespace Script

open Text

/-! ## Texts in quotes -/

/-- A code point in units of sixteen bits. -/
def unitsOfCode (n : Nat) : List Nat :=
  if n < 0x10000 then [n] else [0xD800 + (n - 0x10000) / 0x400, 0xDC00 + (n - 0x10000) % 0x400]

/-- A text as the units that a script holds it in. -/
def units (s : List Char) : List Nat := s.flatMap fun c => unitsOfCode c.toNat

def isLineEnd (c : Char) : Bool := c = '\n' || c = '\r' || c = '\u2028' || c = '\u2029'

def spaceRanges : Ranges := [
  (0x9, 0xD), (0x20, 0x20), (0xA0, 0xA0), (0x1680, 0x1680), (0x2000, 0x200A), (0x2028, 0x2029),
  (0x202F, 0x202F), (0x205F, 0x205F), (0x3000, 0x3000), (0xFEFF, 0xFEFF)]

/-- White space and line ends. -/
def isSpace (c : Char) : Bool := spaceRanges.hold c.toNat

/-- The code point of a single letter behind a backslash; a letter without a meaning of its own
stands for itself. -/
def letterCode (c : Char) : Nat :=
  if c = 'b' then 0x8
  else if c = 't' then 0x9
  else if c = 'n' then 0xA
  else if c = 'v' then 0xB
  else if c = 'f' then 0xC
  else if c = 'r' then 0xD
  else c.toNat

/-- What stands behind `\u`: four digits, or digits in braces that number a code point. -/
def codeEscape? : List Char → Option (List Nat × Nat)
  | '\x7b' :: s =>
    let digits := s.takeWhile (· ≠ '\x7d')
    if s.contains '\x7d' && !digits.isEmpty then do
      let n ← Numeral.hexNumber? digits
      if n ≤ 0x10FFFF then some (unitsOfCode n, digits.length + 2) else none
    else none
  | a :: b :: c :: d :: _ => (Numeral.hexNumber? [a, b, c, d]).map fun n => ([n], 4)
  | _ => none

/-- Two digits behind `\x`. -/
def unitEscape? : List Char → Option (List Nat × Nat)
  | a :: b :: _ => (Numeral.hexNumber? [a, b]).map fun n => ([n], 2)
  | _ => none

/-- What stands behind a backslash: the units it stands for, and how many characters it takes.  The
end of a line stands for nothing, and no digit but a lone zero may stand there. -/
def escape? : List Char → Option (List Nat × Nat)
  | [] => none
  | c :: s =>
    if isLineEnd c then some ([], if c = '\r' ∧ s.head? = some '\n' then 2 else 1)
    else if c = 'u' then (codeEscape? s).map fun (us, n) => (us, n + 1)
    else if c = 'x' then (unitEscape? s).map fun (us, n) => (us, n + 1)
    else if isAsciiDigit c then
      if c = '0' ∧ s.head?.all (fun d => !isAsciiDigit d) then some ([0], 1) else none
    else some (unitsOfCode (letterCode c), 1)

/-- What may stand for itself in a text in single quotes. -/
def isPlain (c : Char) : Bool := c ≠ '\'' && c ≠ '\\' && c ≠ '\n' && c ≠ '\r'

/-- The rest of a text behind its opening quote, and what follows the closing one.  So many
characters have been read already as parts of an escape. -/
def stringFrom? : Nat → List Char → Option (List Nat × List Char)
  | _, [] => none
  | covered + 1, _ :: s => stringFrom? covered s
  | 0, c :: s =>
    if c = '\'' then some ([], s)
    else if c = '\\' then do
      let (us, n) ← escape? s
      let (more, rest) ← stringFrom? n s
      return (us ++ more, rest)
    else if isPlain c then do
      let (more, rest) ← stringFrom? 0 s
      return (unitsOfCode c.toNat ++ more, rest)
    else none

/-! ## Object literals -/

/-- The letters beyond ASCII that names may start with, and those that names may go on with. -/
structure Alphabet where
  start : Char → Bool
  part : Char → Bool
  part_of_start : ∀ c, start c = true → part c = true
  solid : ∀ c, part c = true → isSpace c = false

/-- A property: its name, and the units of its value. -/
abbrev Property := List Char × List Nat

namespace Alphabet

variable (alphabet : Alphabet)

def isStart (c : Char) : Bool :=
  if c.toNat < 128 then isAsciiLetter c || c = '$' || c = '_' else alphabet.start c

def isPart (c : Char) : Bool :=
  if c.toNat < 128 then isAsciiLetter c || isAsciiDigit c || c = '$' || c = '_'
  else alphabet.part c

def isIdentifier : List Char → Bool
  | [] => false
  | c :: s => alphabet.isStart c && s.all alphabet.isPart

/-- `name: 'value'` -/
def property? (s : List Char) : Option (Property × List Char) :=
  let name := s.takeWhile alphabet.isPart
  if alphabet.isIdentifier name then do
    let s ← after? [':'] ((s.dropWhile alphabet.isPart).dropWhile isSpace)
    let s ← after? ['\''] (s.dropWhile isSpace)
    let (value, rest) ← stringFrom? 0 s
    return ((name, value), rest)
  else none

/-- What stands behind a property: a comma and the others, or the closing brace. -/
def others? (read : List Char → Option (List Property × List Char)) (s : List Char) :
    Option (List Property × List Char) :=
  match after? [','] (s.dropWhile isSpace) with
  | some rest => read rest
  | none => (after? ['\x7d'] (s.dropWhile isSpace)).map fun rest => ([], rest)

/-- The properties of an object, at most so many, up to the closing brace. -/
def properties? : Nat → List Char → Option (List Property × List Char)
  | 0, _ => none
  | n + 1, s =>
    match after? ['\x7d'] (s.dropWhile isSpace) with
    | some rest => some ([], rest)
    | none => do
      let (p, s) ← alphabet.property? (s.dropWhile isSpace)
      let (ps, rest) ← others? (properties? n) s
      return (p :: ps, rest)

/-- `style={…}` with the literal of an object in the braces. -/
def style? (s : List Char) : Option (List Property) := do
  let s ← after? "style=\x7b".toList s
  let s ← after? ['\x7b'] (s.dropWhile isSpace)
  let (ps, s) ← alphabet.properties? s.length s
  let s ← after? ['\x7d'] (s.dropWhile isSpace)
  if s.all isSpace then some ps else none

end Alphabet

/-! ## How long an escape is -/

theorem length_unitsOfCode_pos (n : Nat) : 0 < (unitsOfCode n).length := by
  unfold unitsOfCode
  split <;> simp

theorem length_unitsOfCode_le (n : Nat) : (unitsOfCode n).length ≤ 2 := by
  unfold unitsOfCode
  split <;> simp

theorem units_append (a b : List Char) : units (a ++ b) = units a ++ units b :=
  List.flatMap_append

theorem units_cons (c : Char) (s : List Char) : units (c :: s) = unitsOfCode c.toNat ++ units s :=
  List.flatMap_cons

theorem length_le_units (s : List Char) : s.length ≤ (units s).length := by
  induction s with
  | nil => exact Nat.le_refl _
  | cons c s ih =>
    have hpos := length_unitsOfCode_pos c.toNat
    rw [units_cons, List.length_append, List.length_cons]
    omega

/-- A quote is one unit, and no other character has this unit among its own. -/
theorem count_unitsOfCode (c : Char) :
    (unitsOfCode c.toNat).count 39 = if c = '\'' then 1 else 0 := by
  by_cases hc : c = '\''
  · subst hc
    decide
  · have hcode : c.toNat ≠ 39 := fun h => hc (Char.toNat_inj.1 h)
    rw [if_neg hc, List.count_eq_zero, unitsOfCode]
    split
    · simpa using hcode.symm
    · simp only [List.mem_cons, List.not_mem_nil, or_false, not_or]
      omega

theorem count_units (s : List Char) : (units s).count 39 = s.count '\'' := by
  induction s with
  | nil => rfl
  | cons c s ih =>
    rw [units_cons, List.count_append, count_unitsOfCode, ih, List.count_cons]
    simp only [beq_iff_eq]
    omega

/-- The text of an escape behind its backslash stands for no more units than it has itself, and
hides no quote. -/
structure Escape (e : List Char) (us : List Nat) : Prop where
  filled : e ≠ []
  length : us.length ≤ (units e).length
  quotes : e.count '\'' ≤ us.count 39

theorem Escape.of_notMem {e : List Char} {us : List Nat} (hne : e ≠ []) (hquote : '\'' ∉ e)
    (hlength : us.length ≤ e.length) : Escape e us where
  filled := hne
  length := Nat.le_trans hlength (length_le_units e)
  quotes := by
    rw [List.count_eq_zero.2 hquote]
    exact Nat.zero_le _

theorem notMem_of_hexNumber? {ds : List Char} {n : Nat} (h : Numeral.hexNumber? ds = some n) :
    '\'' ∉ ds := by
  intro hmem
  unfold Numeral.hexNumber? at h
  split at h
  · rename_i hall
    exact absurd (List.all_eq_true.1 hall _ hmem) (by decide)
  · exact absurd h (by simp)

theorem exists_of_codeEscape? {s : List Char} {us : List Nat} {n : Nat}
    (h : codeEscape? s = some (us, n)) :
    ∃ e r, s = e ++ r ∧ e.length = n ∧ '\'' ∉ e ∧ us.length ≤ e.length := by
  unfold codeEscape? at h
  split at h
  · rename_i s
    simp only at h
    split at h
    · rename_i hbrace
      simp only [Bool.and_eq_true, List.contains_iff_mem] at hbrace
      obtain ⟨ds, r, rfl, hds⟩ := List.eq_append_cons_of_mem hbrace.1
      rw [takeWhile_ne hds] at h
      obtain ⟨m, hm, hcode⟩ := Option.bind_eq_some_iff.1 h
      split at hcode
      · obtain ⟨rfl, rfl⟩ := Prod.mk.inj (Option.some.inj hcode)
        refine ⟨'\x7b' :: (ds ++ ['\x7d']), r, by simp, by simp, ?_, ?_⟩
        · simpa using notMem_of_hexNumber? hm
        · have hle := length_unitsOfCode_le m
          simp only [List.length_cons, List.length_append, List.length_nil]
          omega
      · exact absurd hcode (by simp)
    · exact absurd h (by simp)
  · rename_i a b c d r _
    obtain ⟨m, hm, hcode⟩ := Option.map_eq_some_iff.1 h
    obtain ⟨rfl, rfl⟩ := Prod.mk.inj hcode
    exact ⟨[a, b, c, d], r, rfl, rfl, notMem_of_hexNumber? hm, by simp⟩
  · exact absurd h (by simp)

theorem exists_of_unitEscape? {s : List Char} {us : List Nat} {n : Nat}
    (h : unitEscape? s = some (us, n)) :
    ∃ e r, s = e ++ r ∧ e.length = n ∧ '\'' ∉ e ∧ us.length ≤ e.length := by
  unfold unitEscape? at h
  split at h
  · rename_i a b r
    obtain ⟨m, hm, heq⟩ := Option.map_eq_some_iff.1 h
    obtain ⟨rfl, rfl⟩ := Prod.mk.inj heq
    exact ⟨[a, b], r, rfl, rfl, notMem_of_hexNumber? hm, by simp⟩
  · exact absurd h (by simp)

theorem escape_letter (c : Char) : Escape [c] (unitsOfCode (letterCode c)) := by
  have hsmall : ∀ n < 0x80, (unitsOfCode n).length ≤ (units [c]).length := fun n hn => by
    have hle := length_le_units [c]
    rw [unitsOfCode, if_pos (by omega)]
    simpa using hle
  refine ⟨by simp, ?_, ?_⟩
  · unfold letterCode
    split_ifs
    all_goals first
      | exact hsmall _ (by decide)
      | simp [units]
  · by_cases hc : c = '\''
    · subst hc
      decide
    · rw [List.count_eq_zero.2 (by simpa using Ne.symm hc)]
      exact Nat.zero_le _

theorem exists_of_escape? {s : List Char} {us : List Nat} {n : Nat}
    (h : escape? s = some (us, n)) : ∃ e r, s = e ++ r ∧ e.length = n ∧ Escape e us := by
  cases s with
  | nil => exact absurd h (by simp [escape?])
  | cons c s =>
    rw [escape?] at h
    split_ifs at h with hline hcrlf hu hx hdigit hzero
    · obtain ⟨rfl, rfl⟩ := Prod.mk.inj (Option.some.inj h)
      obtain ⟨rfl, hhead⟩ := hcrlf
      obtain ⟨r, rfl⟩ := List.head?_eq_some_iff.1 hhead
      exact ⟨['\r', '\n'], r, rfl, rfl, .of_notMem (by simp) (by decide) (by simp)⟩
    · obtain ⟨rfl, rfl⟩ := Prod.mk.inj (Option.some.inj h)
      refine ⟨[c], s, rfl, rfl, .of_notMem (by simp) ?_ (by simp)⟩
      intro hmem
      obtain rfl := List.mem_singleton.1 hmem
      exact absurd hline (by decide)
    · obtain ⟨⟨vs, m⟩, hcode, heq⟩ := Option.map_eq_some_iff.1 h
      obtain ⟨rfl, rfl⟩ := Prod.mk.inj heq
      obtain ⟨e, r, rfl, rfl, hquote, hlength⟩ := exists_of_codeEscape? hcode
      subst hu
      exact ⟨'u' :: e, r, rfl, rfl, .of_notMem (by simp) (by simpa using hquote)
        (by simp only [List.length_cons]; omega)⟩
    · obtain ⟨⟨vs, m⟩, hcode, heq⟩ := Option.map_eq_some_iff.1 h
      obtain ⟨rfl, rfl⟩ := Prod.mk.inj heq
      obtain ⟨e, r, rfl, rfl, hquote, hlength⟩ := exists_of_unitEscape? hcode
      subst hx
      exact ⟨'x' :: e, r, rfl, rfl, .of_notMem (by simp) (by simpa using hquote)
        (by simp only [List.length_cons]; omega)⟩
    · obtain ⟨rfl, rfl⟩ := Prod.mk.inj (Option.some.inj h)
      obtain ⟨rfl, _⟩ := hzero
      exact ⟨['0'], s, rfl, rfl, .of_notMem (by simp) (by decide) (by simp)⟩
    · obtain ⟨rfl, rfl⟩ := Prod.mk.inj (Option.some.inj h)
      exact ⟨[c], s, rfl, rfl, escape_letter c⟩

/-! ## What a text in quotes is read as -/

/-- The body of a text in quotes, and the units it stands for. -/
inductive Spells : List Char → List Nat → Prop
  | nil : Spells [] []
  | plain {c : Char} {s : List Char} {us : List Nat} (hc : isPlain c = true) (h : Spells s us) :
      Spells (c :: s) (unitsOfCode c.toNat ++ us)
  | escape {e s : List Char} {vs us : List Nat} (he : Escape e vs) (h : Spells s us) :
      Spells ('\\' :: (e ++ s)) (vs ++ us)

def Plain (s : List Char) : Prop := ∀ c ∈ s, isPlain c = true

instance : DecidablePred Plain := fun _ => inferInstanceAs (Decidable (∀ c ∈ _, _))

theorem Spells.length_le {s : List Char} {us : List Nat} (h : Spells s us) :
    us.length ≤ (units s).length := by
  induction h with
  | nil => exact Nat.le_refl _
  | plain hc h ih =>
    rw [units_cons, List.length_append, List.length_append]
    omega
  | escape he h ih =>
    have hlength := he.length
    rw [units_cons, units_append, List.length_append, List.length_append, List.length_append]
    omega

/-- An escape is longer than what it stands for. -/
theorem Spells.plain_of_length {s : List Char} {us : List Nat} (h : Spells s us)
    (hlength : us.length = (units s).length) : Plain s := by
  induction h with
  | nil => exact fun c hc => absurd hc List.not_mem_nil
  | plain hc h ih =>
    rw [units_cons, List.length_append, List.length_append] at hlength
    have hrest := ih (by omega)
    intro d hd
    rcases List.mem_cons.1 hd with rfl | hd
    · exact hc
    · exact hrest d hd
  | escape he h ih =>
    have hpos := length_unitsOfCode_pos ('\\' : Char).toNat
    have hle := he.length
    have hrest := h.length_le
    rw [units_cons, units_append, List.length_append, List.length_append, List.length_append]
      at hlength
    omega

theorem Spells.count_le {s : List Char} {us : List Nat} (h : Spells s us) :
    s.count '\'' ≤ us.count 39 := by
  induction h with
  | nil => exact Nat.le_refl _
  | @plain c s us hc h ih =>
    rw [List.count_append, count_unitsOfCode, List.count_cons]
    simp only [beq_iff_eq]
    omega
  | escape he h ih =>
    have hquotes := he.quotes
    rw [List.count_cons, List.count_append, List.count_append, if_neg (by decide)]
    omega

theorem stringFrom?_drop (n : Nat) (s : List Char) :
    stringFrom? n s = stringFrom? 0 (s.drop n) := by
  induction n generalizing s with
  | zero => rfl
  | succ n ih =>
    cases s with
    | nil => rfl
    | cons c s => exact ih s

theorem exists_of_stringFrom? {s r : List Char} {us : List Nat}
    (h : stringFrom? 0 s = some (us, r)) : ∃ body, s = body ++ '\'' :: r ∧ Spells body us := by
  induction hlength : s.length using Nat.strongRecOn generalizing s us with
  | ind n ih =>
    cases s with
    | nil => exact absurd h (by simp [stringFrom?])
    | cons c s =>
      rw [stringFrom?] at h
      split_ifs at h with hquote hslash hplain
      · obtain ⟨rfl, rfl⟩ := Prod.mk.inj (Option.some.inj h)
        exact ⟨[], by rw [hquote]; rfl, .nil⟩
      · obtain ⟨⟨vs, m⟩, hescape, hrest⟩ := Option.bind_eq_some_iff.1 h
        obtain ⟨⟨more, rest⟩, hmore, heq⟩ := Option.bind_eq_some_iff.1 hrest
        obtain ⟨rfl, rfl⟩ := Prod.mk.inj (Option.some.inj heq)
        obtain ⟨e, t, rfl, rfl, he⟩ := exists_of_escape? hescape
        rw [stringFrom?_drop, List.drop_left] at hmore
        obtain ⟨body, rfl, hbody⟩ := ih t.length (by
          rw [← hlength, List.length_cons, List.length_append]
          omega) hmore rfl
        refine ⟨'\\' :: (e ++ body), by rw [hslash]; simp, .escape he hbody⟩
      · obtain ⟨⟨more, rest⟩, hmore, heq⟩ := Option.bind_eq_some_iff.1 h
        obtain ⟨rfl, rfl⟩ := Prod.mk.inj (Option.some.inj heq)
        obtain ⟨body, rfl, hbody⟩ :=
          ih s.length (by rw [← hlength, List.length_cons]; omega) hmore rfl
        exact ⟨c :: body, rfl, .plain hplain hbody⟩

theorem stringFrom?_plain {v : List Char} (h : Plain v) (r : List Char) :
    stringFrom? 0 (v ++ '\'' :: r) = some (units v, r) := by
  induction v with
  | nil => rfl
  | cons c v ih =>
    have hc := h c List.mem_cons_self
    have hv := ih fun d hd => h d (List.mem_cons_of_mem c hd)
    have hquote : c ≠ '\'' := by
      rintro rfl
      exact absurd hc (by decide)
    have hslash : c ≠ '\\' := by
      rintro rfl
      exact absurd hc (by decide)
    rw [List.cons_append, stringFrom?, if_neg hquote, if_neg hslash, if_pos hc, hv]
    rfl

/-- A text that is read as it was written holds no quote, backslash or line end, and the reader
stops where it should. -/
theorem plain_of_stringFrom? {v t r : List Char}
    (h : stringFrom? 0 (v ++ '\'' :: t) = some (units v, r)) : Plain v ∧ r = t := by
  obtain ⟨body, hsplit, hbody⟩ := exists_of_stringFrom? h
  have hlength := hbody.length_le
  have hcount := hbody.count_le
  rw [count_units] at hcount
  rcases List.append_eq_append_iff.1 hsplit with ⟨w, rfl, hw⟩ | ⟨w, rfl, hw⟩
  · -- the body goes on behind the quote only if this quote is read as part of it
    cases w with
    | nil =>
      rw [List.append_nil] at hbody
      exact ⟨hbody.plain_of_length rfl, (List.cons.inj hw).2.symm⟩
    | cons d w =>
      obtain ⟨rfl, _⟩ := List.cons.inj hw
      rw [List.count_append, List.count_cons_self] at hcount
      omega
  · -- a shorter body has fewer units than it stands for
    cases w with
    | nil =>
      rw [List.append_nil] at hbody ⊢
      exact ⟨hbody.plain_of_length rfl, (List.cons.inj hw).2⟩
    | cons d w =>
      have hpos := length_unitsOfCode_pos d.toNat
      rw [units_append, units_cons, List.length_append, List.length_append] at hlength
      omega

/-! ## Names -/

namespace Alphabet

variable {alphabet : Alphabet}

theorem isPart_of_isStart {c : Char} (h : alphabet.isStart c = true) :
    alphabet.isPart c = true := by
  unfold isStart at h
  unfold isPart
  split_ifs at h ⊢
  · simp only [Bool.or_eq_true] at h ⊢
    rcases h with (h | h) | h
    · exact Or.inl (Or.inl (Or.inl h))
    · exact Or.inl (Or.inr h)
    · exact Or.inr h
  · exact alphabet.part_of_start c h

theorem isSpace_ascii {c : Char} (h : isSpace c = true) (hascii : c.toNat < 128) :
    c.toNat ≤ 32 := by
  obtain ⟨⟨low, high⟩, hmem, hlow, hhigh⟩ := Ranges.hold_iff.1 h
  simp only [spaceRanges, List.mem_cons, Prod.mk.injEq, List.not_mem_nil, or_false] at hmem
  omega

/-- Neither a blank nor a mark is part of a name. -/
theorem isPart_apart {c : Char} (h : alphabet.isPart c = true) :
    isSpace c = false ∧ c ∉ [':', ',', '\x7d'] := by
  unfold isPart at h
  split_ifs at h with hascii
  · have hmark : c ∉ [':', ',', '\x7d'] := by
      intro hmem
      simp only [List.mem_cons, List.not_mem_nil, or_false] at hmem
      rcases hmem with rfl | rfl | rfl <;> exact absurd h (by decide)
    have hcode : 32 < c.toNat := by
      simp only [Bool.or_eq_true, decide_eq_true_eq, isAsciiLetter, isAsciiDigit,
        Bool.and_eq_true] at h
      rcases h with ((hletter | hdigit) | rfl) | rfl
      · omega
      · omega
      · decide
      · decide
    refine ⟨?_, hmark⟩
    rw [← Bool.not_eq_true]
    intro hspace
    have hle := isSpace_ascii hspace hascii
    omega
  · refine ⟨alphabet.solid c h, ?_⟩
    intro hmem
    simp only [List.mem_cons, List.not_mem_nil, or_false] at hmem
    rcases hmem with rfl | rfl | rfl <;> exact absurd (by decide) hascii

theorem isPart_of_mem {name : List Char} (h : alphabet.isIdentifier name = true) :
    ∀ c ∈ name, alphabet.isPart c = true := by
  cases name with
  | nil => exact fun c hc => absurd hc List.not_mem_nil
  | cons d name =>
    simp only [isIdentifier, Bool.and_eq_true, List.all_eq_true] at h
    intro c hc
    rcases List.mem_cons.1 hc with rfl | hc
    · exact isPart_of_isStart h.1
    · exact h.2 c hc

/-- A name is read up to the colon behind it, and then the text is read. -/
theorem property?_name {name : List Char} (h : alphabet.isIdentifier name = true) (t : List Char) :
    alphabet.property? (name ++ (": '".toList ++ t)) =
      (stringFrom? 0 t).map fun read => ((name, read.1), read.2) := by
  have hall := isPart_of_mem h
  have hcolon : ∀ c ∈ (": '".toList ++ t).head?, alphabet.isPart c = false := by
    intro c hc
    obtain rfl : ':' = c := by simpa using hc
    rw [← Bool.not_eq_true]
    exact fun hpart => (isPart_apart hpart).2 (by decide)
  rw [property?, takeWhile_append_of_head hall hcolon, dropWhile_append_of_head hall hcolon]
  simp only [h, if_true]
  show (stringFrom? 0 t).bind _ = _
  cases stringFrom? 0 t <;> rfl

end Alphabet

end Script

namespace Markup

open Text Script

/-! ## The literal of a style -/

namespace Declaration

/-- The property that a declaration is to be read as. -/
def property (d : Declaration) : Property := (d.key, units d.value)

/-- The entries of a literal, its closing brace, and what stands behind that. -/
def literal (ds : List Declaration) (t : List Char) : List Char :=
  join ", ".toList (ds.map entry) ++ (" \x7d".toList ++ t)

/-- What stands behind a value in front of other entries. -/
def behind (ds : List Declaration) (t : List Char) : List Char :=
  if ds.isEmpty then " \x7d".toList ++ t else ", ".toList ++ literal ds t

theorem literal_cons (d : Declaration) (ds : List Declaration) (t : List Char) :
    literal (d :: ds) t = d.key ++ (": '".toList ++ (d.value ++ '\'' :: behind ds t)) := by
  cases ds with
  | nil => simp [literal, behind, join, entry]
  | cons e es => simp [literal, behind, join, entry]

theorem length_le_literal (ds : List Declaration) (t : List Char) :
    ds.length < (literal ds t).length := by
  induction ds with
  | nil => simp [literal, join]
  | cons d ds ih =>
    have hbehind : ds.length < (behind ds t).length := by
      unfold behind
      split
      · rename_i hnil
        simp [List.isEmpty_iff.1 hnil]
      · simp only [List.length_append]
        omega
    rw [literal_cons]
    simp only [List.length_append, List.length_cons]
    omega

end Declaration

section
variable {alphabet : Alphabet}

theorem others?_behind (read : List Char → Option (List Property × List Char))
    (ds : List Declaration) (t : List Char) :
    Alphabet.others? read (Declaration.behind ds t) =
      if ds.isEmpty then some ([], t) else read (' ' :: Declaration.literal ds t) := by
  cases ds with
  | nil => rfl
  | cons d ds => rfl

/-- The entry in front is read, and then the others. -/
theorem properties?_cons {d : Declaration} (hkey : alphabet.isIdentifier d.key = true)
    (ds : List Declaration) (n : Nat) (t : List Char) :
    alphabet.properties? (n + 1) (' ' :: Declaration.literal (d :: ds) t) =
      (stringFrom? 0 (d.value ++ '\'' :: Declaration.behind ds t)).bind fun read =>
        (Alphabet.others? (alphabet.properties? n) read.2).map fun more =>
          ((d.key, read.1) :: more.1, more.2) := by
  -- the first character of the key is neither a blank nor the closing brace
  obtain ⟨c, k, hcons⟩ : ∃ c k, d.key = c :: k := by
    cases hd : d.key with
    | nil => exact absurd (hd ▸ hkey) (by simp [Alphabet.isIdentifier])
    | cons c k => exact ⟨c, k, rfl⟩
  have hc := Alphabet.isPart_apart (Alphabet.isPart_of_mem hkey c (by simp [hcons]))
  have hskip : (' ' :: Declaration.literal (d :: ds) t).dropWhile isSpace =
      Declaration.literal (d :: ds) t := by
    rw [List.dropWhile_cons_of_pos (by decide), Declaration.literal_cons, hcons, List.cons_append,
      List.dropWhile_cons_of_neg (by simp [hc.1])]
  have hnone : after? ['\x7d'] (Declaration.literal (d :: ds) t) = none := by
    rw [Declaration.literal_cons, hcons]
    exact after?_cons_ne fun heq => hc.2 (by simp [← heq])
  rw [Alphabet.properties?, hskip, hnone, Declaration.literal_cons, Alphabet.property?_name hkey]
  cases stringFrom? 0 (d.value ++ '\'' :: Declaration.behind ds t) with
  | none => rfl
  | some read =>
    show (Alphabet.others? (alphabet.properties? n) read.2).bind _ =
      (Alphabet.others? (alphabet.properties? n) read.2).map _
    cases Alphabet.others? (alphabet.properties? n) read.2 <;> rfl

/-- The properties of a literal are read back, and nothing is read of what stands behind it, exactly
if every value is plain. -/
theorem properties?_literal {ds : List Declaration}
    (hkeys : ∀ d ∈ ds, alphabet.isIdentifier d.key = true) {n : Nat} (hn : ds.length < n)
    (t r : List Char) :
    alphabet.properties? n (' ' :: Declaration.literal ds t) =
        some (ds.map Declaration.property, r) ↔ (∀ d ∈ ds, Plain d.value) ∧ r = t := by
  induction ds generalizing n with
  | nil =>
    obtain ⟨n, rfl⟩ := Nat.exists_eq_succ_of_ne_zero (by omega : n ≠ 0)
    have hread : alphabet.properties? (n + 1) (' ' :: Declaration.literal [] t) =
        some ([], t) := rfl
    simp [hread, eq_comm]
  | cons d ds ih =>
    obtain ⟨n, rfl⟩ := Nat.exists_eq_succ_of_ne_zero (by omega : n ≠ 0)
    have hothers : Alphabet.others? (alphabet.properties? n) (Declaration.behind ds t) =
        some (ds.map Declaration.property, r) ↔ (∀ e ∈ ds, Plain e.value) ∧ r = t := by
      rw [others?_behind]
      cases ds with
      | nil => simp [eq_comm]
      | cons e es =>
        rw [List.length_cons] at hn
        exact ih (fun f hf => hkeys f (List.mem_cons_of_mem d hf)) (by omega)
    rw [properties?_cons (hkeys d List.mem_cons_self)]
    constructor
    · intro h
      obtain ⟨⟨us, rest⟩, hstring, hrest⟩ := Option.bind_eq_some_iff.1 h
      obtain ⟨⟨ps, r'⟩, hmore, heq⟩ := Option.map_eq_some_iff.1 hrest
      obtain ⟨hps, rfl⟩ := Prod.mk.inj heq
      obtain ⟨hproperty, rfl⟩ := List.cons.inj hps
      obtain rfl : us = units d.value := (Prod.mk.inj hproperty).2
      obtain ⟨hplain, rfl⟩ := plain_of_stringFrom? hstring
      obtain ⟨hothersPlain, hr⟩ := hothers.1 hmore
      exact ⟨List.forall_mem_cons.2 ⟨hplain, hothersPlain⟩, hr⟩
    · rintro ⟨hplain, rfl⟩
      obtain ⟨hd, hds⟩ := List.forall_mem_cons.1 hplain
      rw [stringFrom?_plain hd, Option.bind_some, hothers.2 ⟨hds, rfl⟩]
      rfl

theorem style?_open (l : List Char) :
    alphabet.style? ("style=\x7b".toList ++ '\x7b' :: l) =
      (alphabet.properties? l.length l).bind fun read =>
        (after? ['\x7d'] (read.2.dropWhile isSpace)).bind fun s =>
          if s.all isSpace then some read.1 else none := by
  rw [Alphabet.style?, after?_append]
  rfl

end

/-- A style whose keys are names is read, as the literal of an object that it is written as, to be
the declarations that it holds exactly if none of their values has a quote, a backslash or the end
of a line in it. -/
theorem style?_styleLiteral (alphabet : Alphabet) (style : List Char)
    (h : ∀ d ∈ parseStyle style, alphabet.isIdentifier d.key = true) :
    alphabet.style? (styleLiteral style) =
        some ((parseStyle style).map fun d => (d.key, units d.value)) ↔
      ∀ d ∈ parseStyle style, Plain d.value := by
  have htext : styleLiteral style = "style=\x7b".toList ++
      '\x7b' :: ' ' :: Declaration.literal (parseStyle style) ['\x7d'] := by
    have hsplit : ∀ {a a' b b' : List Char} (s : List Char), a = a' ++ ['\x7b', ' '] →
        b = b' ++ ['\x7d'] → a ++ s ++ b = a' ++ '\x7b' :: ' ' :: (s ++ (b' ++ ['\x7d'])) := by
      rintro a a' b b' s rfl rfl
      simp
    exact hsplit _ (by decide) (by decide)
  have hlength := Declaration.length_le_literal (parseStyle style) ['\x7d']
  have hread := properties?_literal h (Nat.lt_succ_of_lt hlength) ['\x7d']
  rw [htext, style?_open, List.length_cons]
  constructor
  · intro hsame
    obtain ⟨⟨ps, s⟩, hps, hrest⟩ := Option.bind_eq_some_iff.1 hsame
    obtain ⟨s', _, hend⟩ := Option.bind_eq_some_iff.1 hrest
    split at hend
    · obtain rfl := Option.some.inj hend
      exact ((hread s).1 hps).1
    · exact absurd hend (by simp)
  · intro hplain
    rw [(hread ['\x7d']).2 ⟨hplain, rfl⟩]
    rfl

/-- Names of ASCII characters only. -/
def asciiNames : Alphabet where
  start _ := false
  part _ := false
  part_of_start _ h := h
  solid _ h := absurd h (by decide)

/-- Commas, colons, braces and slashes in values, and a key that becomes a name. -/
def separators : List Char := "stroke-width: 1,5 \x7ba\x7d;; fill : url(x://y),é ;opacity".toList

theorem style?_styleLiteral_separators :
    (∀ d ∈ parseStyle separators, asciiNames.isIdentifier d.key = true) ∧
      (∀ d ∈ parseStyle separators, Plain d.value) ∧
      asciiNames.style? (styleLiteral separators) =
        some ((parseStyle separators).map fun d => (d.key, units d.value)) ∧
      parseStyle separators = [⟨"strokeWidth".toList, "1,5 \x7ba\x7d".toList⟩,
        ⟨"fill".toList, "url(x://y),é".toList⟩] := by
  have hkeys : ∀ d ∈ parseStyle separators, asciiNames.isIdentifier d.key = true := by
    decide +kernel
  have hplain : ∀ d ∈ parseStyle separators, Plain d.value := by
    decide +kernel
  exact ⟨hkeys, hplain, (style?_styleLiteral asciiNames separators hkeys).2 hplain,
    by decide +kernel⟩

/-- A quote in a value ends the text in quotes: `font-family: 'Arial'` becomes
`fontFamily: ''Arial''`, which is no text. -/
theorem style?_styleLiteral_quotes :
    (∀ d ∈ parseStyle "font-family: 'Arial'".toList, asciiNames.isIdentifier d.key = true) ∧
      styleLiteral "font-family: 'Arial'".toList =
        "style=\x7b\x7b fontFamily: ''Arial'' \x7d\x7d".toList ∧
      asciiNames.style? (styleLiteral "font-family: 'Arial'".toList) = none := by
  decide +kernel

end Markup
end SvgIcon
