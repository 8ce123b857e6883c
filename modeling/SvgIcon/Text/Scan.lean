/-!
Scanning a text from the left.  `rewrite` replaces what a recogniser finds, leftmost first and
without overlap.  It walks the text once and counts down the characters that a replacement
has covered, so it is structural on the text and reduces; `rewriteFrom_eq_drop` gives back
the reading "continue behind the match".
-/

namespace SvgIcon
namespace Text

/-- What follows `start` in the text, if the text begins with it. -/
def after? : List Char → List Char → Option (List Char)
  | [], s => some s
  | _ :: _, [] => none
  | p :: ps, c :: s => if p = c then after? ps s else none

theorem after?_eq_some_iff {start s rest : List Char} :
    after? start s = some rest ↔ s = start ++ rest := by
  induction start generalizing s with
  | nil => simp [after?, eq_comm]
  | cons p ps ih =>
    cases s with
    | nil => simp [after?]
    | cons c s =>
      by_cases h : p = c
      · subst h; simp [after?, ih]
      · have h' : ¬c = p := fun e => h e.symm
        simp [after?, h, h']

/-- A recogniser looks at the front of a text.  It answers how many characters it takes there
and what is to stand in their place. -/
abbrev Recogniser := List Char → Option (Nat × List Char)

/-- `rewrite` for a text whose first `covered` characters have been replaced already. -/
def rewriteFrom (find : Recogniser) : Nat → List Char → List Char
  | _, [] => []
  | covered + 1, _ :: s => rewriteFrom find covered s
  | 0, c :: s =>
    match find (c :: s) with
    | some (n + 1, replacement) => replacement ++ rewriteFrom find n s
    | _ => c :: rewriteFrom find 0 s

def rewrite (find : Recogniser) (s : List Char) : List Char := rewriteFrom find 0 s

theorem rewriteFrom_eq_drop (find : Recogniser) (n : Nat) (s : List Char) :
    rewriteFrom find n s = rewrite find (s.drop n) := by
  induction n generalizing s with
  | zero => rfl
  | succ n ih =>
    cases s with
    | nil => rfl
    | cons c s => simpa [rewriteFrom] using ih s

theorem rewrite_nil (find : Recogniser) : rewrite find [] = [] := rfl

theorem rewrite_of_none {find : Recogniser} {c : Char} {s : List Char}
    (h : find (c :: s) = none) : rewrite find (c :: s) = c :: rewrite find s := by
  simp [rewrite, rewriteFrom, h]

theorem rewrite_of_some {find : Recogniser} {s replacement : List Char} {n : Nat}
    (h : find s = some (n + 1, replacement)) (hs : s ≠ []) :
    rewrite find s = replacement ++ rewrite find (s.drop (n + 1)) := by
  cases s with
  | nil => exact absurd rfl hs
  | cons c s =>
    rw [List.drop_succ_cons, ← rewriteFrom_eq_drop]
    simp only [rewrite, rewriteFrom, h]

def replaceAll (old new : List Char) : List Char → List Char :=
  rewrite fun s => (after? old s).map fun _ => (old.length, new)

/-- Line ends of every kind, a carriage return with or without a line feed included, written as
one line feed. -/
def unifyLines : List Char → List Char
  | [] => []
  | '\r' :: '\n' :: s => '\n' :: unifyLines s
  | c :: s => (if c = '\r' then '\n' else c) :: unifyLines s

def withoutMark (s : List Char) : List Char :=
  match s with
  | '\uFEFF' :: rest => rest
  | _ => s

/-- The text before the first copy of `needle`, and the text behind it. -/
def cut? (needle : List Char) : List Char → Option (List Char × List Char)
  | [] => if needle = [] then some ([], []) else none
  | c :: s =>
    match after? needle (c :: s) with
    | some rest => some ([], rest)
    | none => (cut? needle s).map fun (front, rest) => (c :: front, rest)

theorem eq_append_of_cut? {needle s front rest : List Char} (h : cut? needle s = some (front, rest)) :
    s = front ++ needle ++ rest := by
  induction s generalizing front with
  | nil =>
    simp only [cut?] at h
    split at h
    · simp_all
    · simp at h
  | cons c s ih =>
    simp only [cut?] at h
    split at h
    · rename_i r hr
      obtain ⟨rfl, rfl⟩ := Prod.mk.inj (Option.some.inj h)
      simpa using after?_eq_some_iff.1 hr
    · obtain ⟨⟨front', rest'⟩, hc, he⟩ := Option.map_eq_some_iff.1 h
      obtain ⟨rfl, rfl⟩ := Prod.mk.inj he
      simpa using ih hc

/-- The first copy of `old` replaced by `new`. -/
def replaceFirst (old new s : List Char) : List Char :=
  match cut? old s with
  | some (front, rest) => front ++ new ++ rest
  | none => s

/-- Whether the text holds a copy of `needle`. -/
def contains (needle s : List Char) : Bool := (cut? needle s).isSome

/-- The pieces between the copies of a separator; a text without one is a single piece. -/
def pieces (separator : Char) : List Char → List (List Char)
  | [] => [[]]
  | c :: s =>
    if c = separator then [] :: pieces separator s
    else
      match pieces separator s with
      | [] => [[c]]
      | first :: others => (c :: first) :: others

theorem pieces_ne_nil (separator : Char) (s : List Char) : pieces separator s ≠ [] := by
  cases s with
  | nil => simp [pieces]
  | cons c s =>
    simp only [pieces]
    split
    · simp
    · split <;> simp

def join (between : List Char) : List (List Char) → List Char
  | [] => []
  | [piece] => piece
  | piece :: others => piece ++ between ++ join between others

/-- Joining the pieces of a text with the separator gives the text back. -/
theorem join_pieces (separator : Char) (s : List Char) :
    join [separator] (pieces separator s) = s := by
  induction s with
  | nil => rfl
  | cons c s ih =>
    simp only [pieces]
    split
    · rename_i h
      subst h
      cases hp : pieces c s with
      | nil => exact absurd hp (pieces_ne_nil c s)
      | cons first others => rw [hp] at ih; simp [join, ih]
    · cases hp : pieces separator s with
      | nil => exact absurd hp (pieces_ne_nil separator s)
      | cons first others =>
        rw [hp] at ih
        cases others with
        | nil => simpa [join] using ih
        | cons second others => simpa [join] using ih

end Text
end SvgIcon
