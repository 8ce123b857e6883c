import SvgIcon.Proofs.Markup.Renaming

/-!
Reading the tags of a text.  A reader scans for tags and attributes as the renaming does, but
answers what it finds.  On the text of a tree it answers the first tag of every element, in order.
-/

namespace SvgIcon
namespace Text

variable {β : Type}

/-- `collect` for a text whose first `covered` characters belong to the last match. -/
def collectFrom (find : List Char → Option (Nat × β)) : Nat → List Char → List β
  | _, [] => []
  | covered + 1, _ :: s => collectFrom find covered s
  | 0, c :: s =>
    match find (c :: s) with
    | some (n + 1, x) => x :: collectFrom find n s
    | _ => collectFrom find 0 s

/-- What `find` answers along a text, leftmost first and without overlap. -/
def collect (find : List Char → Option (Nat × β)) (s : List Char) : List β := collectFrom find 0 s

variable {find : List Char → Option (Nat × β)}

theorem collectFrom_append (a rest : List Char) :
    collectFrom find a.length (a ++ rest) = collect find rest := by
  induction a with
  | nil => rfl
  | cons c a ih => exact ih

theorem collect_of_none {c : Char} {s : List Char} (h : find (c :: s) = none) :
    collect find (c :: s) = collect find s := by
  show collectFrom find 0 (c :: s) = collectFrom find 0 s
  rw [collectFrom, h]

theorem turns_collect_char {c : Char} (h : ∀ s, find (c :: s) = none) :
    Turns (collect find) [c] [] := fun s => collect_of_none (h s)

theorem turns_collect_match {a : List Char} {x : β} (ha : a ≠ [])
    (h : ∀ rest, find (a ++ rest) = some (a.length, x)) : Turns (collect find) a [x] := by
  intro rest
  obtain ⟨c, s, rfl⟩ := List.exists_cons_of_ne_nil ha
  have hfind : find (c :: (s ++ rest)) = some (s.length + 1, x) := h rest
  show collectFrom find 0 (c :: (s ++ rest)) = x :: collect find rest
  rw [collectFrom, hfind]
  exact congrArg (List.cons x) (collectFrom_append s rest)

end Text

namespace Markup

open Text

variable {α : Type}

/-- A tag as it is read: its name and its attributes. -/
structure Head where
  name : List Char
  attributes : List Attribute
  deriving DecidableEq, Repr

def attributesIn : List Char → List Attribute :=
  collect fun s => (Attribute.read? s).map fun a => (a.text.length, a)

def isNameEnd (c : Char) : Bool := isBlank c || c = '/' || c = '>'

def Head.read (s : List Char) : Head where
  name := (s.drop 1).takeWhile fun c => !isNameEnd c
  attributes := attributesIn s

/-- The start tags and self-closed tags of a text. -/
def tags : List Char → List Head :=
  collect fun s => (tagLength? s).map fun n => (n, Head.read (s.take n))

def Element.head (f : α → Attribute) (e : Element α) : Head where
  name := e.name
  attributes := e.attributes.map f

/-! ## A printed tag -/

theorem turns_attributesIn {a : Quoted} (h : a.WellFormed) :
    Turns attributesIn (' ' :: a.text) [a.toAttribute] := by
  refine turns_collect_match (by simp) fun rest => ?_
  rw [Quoted.read?_text h.1 (Quoted.notMem_value h (by decide)), Option.map_some,
    Quoted.text_toAttribute]

section
variable {g : α → Quoted} {e : Element α}

theorem attributesIn_tag (hn : isElementName e.name = true)
    (ha : ∀ a ∈ e.attributes, (g a).WellFormed) :
    attributesIn (tag (fun a => (g a).text) e.name e.attributes e.mark) =
      e.attributes.map fun a => (g a).toAttribute := by
  have hskip : ∀ c, isBlank c = false → Turns attributesIn [c] [] := fun c hc =>
    turns_collect_char fun s => by rw [read?_of_not_blank hc, Option.map_none]
  have hname : Turns attributesIn e.name [] := Turns.skip fun c hc =>
    hskip c (isBlank_eq_false_of_isWord (isWord_of_mem_elementName hn hc))
  have hspaced : Turns attributesIn [' ', '/'] [] := by
    intro rest
    have hfind :
        ((Attribute.read? (' ' :: '/' :: rest)).map fun a => (a.text.length, a)) = none := by
      rw [read?_of_not_letter (by decide), Option.map_none]
    exact (collect_of_none hfind).trans (hskip '/' (by decide) rest)
  have hmark : Turns attributesIn e.mark (e.mark.flatMap fun _ => []) :=
    e.turns_mark (hskip '>' (by decide)) (hskip '/' (by decide)) hspaced
  have hread := turns_tag (hskip '<' (by decide)) (fun c _ rest => hname (c :: rest))
    (fun a hmem => turns_attributesIn (ha a hmem)) hmark
  rw [hread.whole rfl]
  simp [List.map_eq_flatMap]

theorem Head.read_tag (hn : isElementName e.name = true)
    (ha : ∀ a ∈ e.attributes, (g a).WellFormed) :
    Head.read (tag (fun a => (g a).text) e.name e.attributes e.mark) =
      e.head fun a => (g a).toAttribute := by
  have hname : ((tag (fun a => (g a).text) e.name e.attributes e.mark).drop 1).takeWhile
      (fun c => !isNameEnd c) = e.name := by
    obtain ⟨c, r, hcons, hc⟩ := e.exists_cons_tail fun a => (g a).text
    have hstop : (!isNameEnd c) = false := by
      simp only [List.mem_cons, List.not_mem_nil, or_false] at hc
      rcases hc with rfl | rfl | rfl <;> decide
    have hword : ∀ d ∈ e.name, (!isNameEnd d) = true := by
      intro d hd
      have hblank := isBlank_eq_false_of_isWord (isWord_of_mem_elementName hn hd)
      have hslash : d ≠ '/' := fun h => notMem_elementName hn (by decide) (h ▸ hd)
      have hclose : d ≠ '>' := fun h => notMem_elementName hn (by decide) (h ▸ hd)
      simp [isNameEnd, hblank, hslash, hclose]
    rw [tag, List.drop_one, List.tail_cons, List.append_assoc, hcons,
      List.takeWhile_append_of_pos hword, List.takeWhile_cons_of_neg (by simp [hstop]),
      List.append_nil]
  rw [Head.read, hname, attributesIn_tag hn ha]
  rfl

/-! ## A printed tree -/

theorem turns_tags_char {c : Char} (h : c ≠ '<') : Turns tags [c] [] := by
  refine turns_collect_char fun s => ?_
  have hnone : tagLength? (c :: s) = none := by
    unfold tagLength?
    split
    · rename_i heq
      exact absurd (List.cons.inj heq).1 h
    · rfl
  rw [hnone, Option.map_none]

theorem turns_tags_solid {s : List Char} (h : '<' ∉ s) : Turns tags s [] :=
  Turns.skip fun _ hc => turns_tags_char fun heq => h (heq ▸ hc)

theorem turns_tags_tag (hn : isElementName e.name = true)
    (ha : ∀ a ∈ e.attributes, (g a).WellFormed) :
    Turns tags (tag (fun a => (g a).text) e.name e.attributes e.mark)
      [e.head fun a => (g a).toAttribute] := by
  refine turns_collect_match (by simp [tag]) fun rest => ?_
  rw [tagLength?_tag hn fun a hmem => Quoted.inside_text (ha a hmem), Option.map_some,
    List.take_left, Head.read_tag hn ha]

theorem turns_tags_endTag {n : List Char} (hn : isElementName n = true) :
    Turns tags (endTag n) [] := by
  have hname : Turns tags (n ++ ['>']) [] := by
    refine turns_tags_solid ?_
    have hbracket := notMem_elementName hn (show isWord '<' = false by decide)
    simpa using hbracket
  have hslash : Turns tags ['/'] [] := turns_tags_char (by decide)
  intro rest
  have hfind : ((tagLength? ('<' :: '/' :: (n ++ ['>'] ++ rest))).map fun k =>
      (k, Head.read (('<' :: '/' :: (n ++ ['>'] ++ rest)).take k))) = none := by
    simp [tagLength?, show isAsciiLetter '/' = false by decide]
  exact (collect_of_none hfind).trans (hslash.append hname rest)

end

end Markup
end SvgIcon
