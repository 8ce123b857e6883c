import SvgIcon.Proofs.Markup.Stretches

/-!
Markup with texts anywhere and attributes of any kind.  A passage is a tag with the text in front of
it, and a branch is an element with the text in front of it: its text is that of its passages one
after the other.
-/

namespace SvgIcon
namespace Markup

open Text

variable {α : Type}

theorem Kind.front_eq_nil {k : Kind} (h : k ≠ .closing) : k.front = [] := by
  cases k with
  | closing => exact absurd rfl h
  | opening => rfl
  | closed => rfl

/-- A tag with attributes of any kind, and the text in front of it. -/
structure Passage (α : Type) where
  before : List Char
  kind : Kind
  name : List Char
  attributes : List α
  /-- The blanks before the end of the tag. -/
  gap : List Char
  deriving DecidableEq, Repr

namespace Passage

/-- The tag without its brackets. -/
def inside (attr : α → List Char) (u : Passage α) : List Char :=
  u.kind.front ++ (u.name ++ (u.attributes.flatMap attr ++ (u.gap ++ u.kind.back)))

def text (attr : α → List Char) (u : Passage α) : List Char :=
  u.before ++ '<' :: (u.inside attr ++ ['>'])

/-- The text of passages, one after the other. -/
def written (attr : α → List Char) (us : List (Passage α)) : List Char := us.flatMap (text attr)

theorem written_cons (attr : α → List Char) (u : Passage α) (us : List (Passage α)) :
    written attr (u :: us) = u.text attr ++ written attr us := List.flatMap_cons

/-- What a pass answers for a passage in which it changes attributes only.  What stands in front of
them need not be a part of its own, since the pass may have to look at the character behind it. -/
theorem turns_text {pass : List Char → List Char} {attr attr' : α → List Char} {u : Passage α}
    (hopen : ∀ c, isNameEnd c = true → ∀ rest,
      pass (u.before ++ '<' :: (u.kind.front ++ (u.name ++ c :: rest))) =
        u.before ++ '<' :: (u.kind.front ++ (u.name ++ pass (c :: rest))))
    (hspaced : ∀ a ∈ u.attributes, ∃ c s, attr a = c :: s ∧ isNameEnd c = true)
    (ha : ∀ a ∈ u.attributes, Turns pass (attr a) (attr' a)) (hgap : Blank u.gap)
    (hstop : Turns pass (u.gap ++ (u.kind.back ++ ['>'])) (u.gap ++ (u.kind.back ++ ['>']))) :
    Turns pass (u.text attr) (u.text attr') := by
  obtain ⟨d, v, hend, hd⟩ : ∃ d v, u.gap ++ (u.kind.back ++ ['>']) = d :: v ∧
      isNameEnd d = true := by
    cases hg : u.gap with
    | cons c g => exact ⟨c, _, rfl, by simp [isNameEnd, hgap c (by simp [hg])]⟩
    | nil =>
      cases u.kind with
      | closed => exact ⟨'/', _, rfl, by decide⟩
      | opening => exact ⟨'>', _, rfl, by decide⟩
      | closing => exact ⟨'>', _, rfl, by decide⟩
  obtain ⟨c, r, hcons, hc⟩ : ∃ c r, u.attributes.flatMap attr ++
      (u.gap ++ (u.kind.back ++ ['>'])) = c :: r ∧ isNameEnd c = true := by
    cases hattributes : u.attributes with
    | nil => exact ⟨d, v, hend, hd⟩
    | cons a as =>
      obtain ⟨c, s, htext, hc⟩ := hspaced a (by simp [hattributes])
      exact ⟨c, s ++ as.flatMap attr ++ (u.gap ++ (u.kind.back ++ ['>'])), by simp [htext], hc⟩
  intro rest
  have hrest := ((Turns.flatMap ha).append hstop) rest
  rw [hcons, List.cons_append] at hrest
  have htext : u.text attr ++ rest =
      u.before ++ '<' :: (u.kind.front ++ (u.name ++ c :: (r ++ rest))) := by
    have hsplit : c :: (r ++ rest) = c :: r ++ rest := rfl
    rw [hsplit, ← hcons]
    simp [text, inside]
  rw [htext, hopen c hc, hrest]
  simp [text, inside]

end Passage

/-- An element with the text in front of it. -/
inductive Branch (α : Type)
  /-- `<name …/>` -/
  | closed (before name : List Char) (attributes : List α) (gap : List Char)
  /-- `<name …>children</name>`, with the text behind the last child and the blanks of the end
  tag. -/
  | element (before name : List Char) (attributes : List α) (gap : List Char)
      (children : List (Branch α)) (last endGap : List Char)

namespace Branch

def name : Branch α → List Char
  | closed _ n _ _ => n
  | element _ n _ _ _ _ _ => n

def isClosed : Branch α → Bool
  | closed _ _ _ _ => true
  | element _ _ _ _ _ _ _ => false

mutual
def passages : Branch α → List (Passage α)
  | closed before n as gap => [⟨before, .closed, n, as, gap⟩]
  | element before n as gap children last endGap =>
    ⟨before, .opening, n, as, gap⟩ :: (passagesOf children ++ [⟨last, .closing, n, [], endGap⟩])

def passagesOf : List (Branch α) → List (Passage α)
  | [] => []
  | t :: ts => passages t ++ passagesOf ts
end

def text (attr : α → List Char) (t : Branch α) : List Char := Passage.written attr t.passages

end Branch

end Markup
end SvgIcon
