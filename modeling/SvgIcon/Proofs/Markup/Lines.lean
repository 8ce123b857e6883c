import SvgIcon.Proofs.Markup.Framing
import SvgIcon.Proofs.Markup.Reading

/-!
The layout of a printed tree.  A tree fills lines: one for each tag that stands alone, and one for
each element with a text.  Breaking the text between tags gives exactly these lines, and what the
layout then puts in front of them is blank, so the tags are read as before.
-/

namespace SvgIcon
namespace Markup

open Text

variable {α : Type}

/-! ## Lines -/

/-- A `>` with a text behind it is no place to break. -/
theorem turns_breakTags_text {s : List Char} (hne : s ≠ []) (hopen : '<' ∉ s) (hclose : '>' ∉ s) :
    Turns breakTags ('>' :: s) ('>' :: s) := by
  intro rest
  obtain ⟨c, r, rfl⟩ := List.exists_cons_of_ne_nil hne
  have hc : c ≠ '<' := fun heq => hopen (by simp [heq])
  have hrest := turns_breakTags hclose rest
  rw [List.cons_append, breakTags, if_neg (by simp [hc]), hrest]
  rfl

/-- A line from `<` to `>` that stays whole when tags are broken apart. -/
structure IsLine (s : List Char) : Prop where
  start : ∃ r, s = '<' :: r
  stop : ∃ a, s = a ++ ['>'] ∧ Turns breakTags a a
  single : '\n' ∉ s

namespace IsLine

theorem framed {s : List Char} (h : IsLine s) : Framed s := by
  obtain ⟨r, hr⟩ := h.start
  obtain ⟨a, ha, _⟩ := h.stop
  exact ⟨⟨'<', r, hr, by decide⟩, ⟨a, '>', ha, by decide⟩⟩

theorem of_lacks {s : List Char} (h : Lacks ['>', '\n'] s) : IsLine ('<' :: (s ++ ['>'])) where
  start := ⟨s ++ ['>'], rfl⟩
  stop := by
    have hclose := h '>' (by decide)
    exact ⟨'<' :: s, rfl, turns_breakTags (by simpa using hclose)⟩
  single := by
    have hfeed := h '\n' (by decide)
    simpa using hfeed

theorem of_text {x s y : List Char} (hne : s ≠ []) (hopen : '<' ∉ s)
    (h : ∀ c ∈ ['>', '\n'], c ∉ x ∧ c ∉ s ∧ c ∉ y) :
    IsLine ('<' :: (x ++ '>' :: (s ++ (y ++ ['>'])))) := by
  obtain ⟨hx, hs, hy⟩ := h '>' (by decide)
  have hfront : Turns breakTags ('<' :: x) ('<' :: x) := turns_breakTags (by simpa using hx)
  have hall := (hfront.append (turns_breakTags_text hne hopen hs)).append (turns_breakTags hy)
  have hfeed := h '\n' (by decide)
  refine ⟨⟨_, rfl⟩, ⟨_, ?_, hall⟩, ?_⟩
  · simp
  · simpa using hfeed

end IsLine

theorem breakTags_flatten {ls : List (List Char)} (h : ∀ l ∈ ls, IsLine l) :
    breakTags ls.flatten = join ['\n'] ls := by
  induction ls with
  | nil => rfl
  | cons l ls ih =>
    obtain ⟨a, rfl, ha⟩ := (h l List.mem_cons_self).stop
    have hline : breakTags (a ++ ['>']) = a ++ ['>'] := ha ['>']
    cases ls with
    | nil => simpa [join] using hline
    | cons k ls =>
      have hrest := ih fun d hd => h d (List.mem_cons_of_mem _ hd)
      obtain ⟨r, rfl⟩ := (h k (by simp)).start
      -- between two lines a `>` meets a `<`, and within a line none does
      rw [List.flatten_cons, List.cons_append] at hrest
      rw [List.flatten_cons, List.flatten_cons, List.append_assoc, List.singleton_append,
        List.cons_append, breakTags_boundary, hline, hrest, join_cons_cons]
      simp

theorem brokenLines_flatten {ls : List (List Char)} (hne : ls ≠ []) (h : ∀ l ∈ ls, IsLine l) :
    brokenLines ls.flatten = ls := by
  rw [brokenLines, breakTags_flatten h, pieces_join hne fun l hl => (h l hl).single]
  exact (List.map_congr_left fun l hl => (h l hl).framed.trim).trans (List.map_id ls)

theorem layout_flatten {ls : List (List Char)} (hne : ls ≠ []) (h : ∀ l ∈ ls, IsLine l) :
    layout ls.flatten = join ['\n'] (indentLines 0 ls) := by
  rw [layout_eq, brokenLines_flatten hne h, laid_of_framed hne fun l hl => (h l hl).framed]

/-! ## Reading through the layout -/

theorem tags_indentLines {ls : List (List Char)} (h : ∀ l ∈ ls, IsLine l)
    (hread : ∀ l ∈ ls, Turns tags l (tags l)) (depth : Nat) :
    Turns tags (join ['\n'] (indentLines depth ls)) (ls.flatMap tags) := by
  induction ls generalizing depth with
  | nil => exact Turns.nil
  | cons l ls ih =>
    have hl := h l List.mem_cons_self
    have hrest := ih (fun d hd => h d (List.mem_cons_of_mem l hd))
      fun d hd => hread d (List.mem_cons_of_mem l hd)
    have hblank : ∀ n, Turns tags (indent n) [] := fun n =>
      turns_tags_solid fun hmem => absurd (List.eq_of_mem_replicate hmem) (by decide)
    have hline : ∀ n, Turns tags (indent n ++ l) (tags l) := fun n =>
      (hblank n).append (hread l List.mem_cons_self)
    rw [indentLines_cons hl.framed.ne_nil, List.flatMap_cons]
    cases ls with
    | nil =>
      have hlast := hline ((lineKind l).enter depth)
      simpa [indentLines, join] using hlast
    | cons k ls =>
      have hk := h k (by simp)
      have hfeed : Turns tags ['\n'] [] := turns_tags_char (by decide)
      have hnext := hrest ((lineKind l).leave ((lineKind l).enter depth))
      rw [indentLines_cons hk.framed.ne_nil] at hnext ⊢
      have hall := ((hline ((lineKind l).enter depth)).append hfeed).append hnext
      rwa [List.append_nil] at hall

theorem tags_layout {ls : List (List Char)} (hne : ls ≠ []) (h : ∀ l ∈ ls, IsLine l)
    (hread : ∀ l ∈ ls, Turns tags l (tags l)) :
    tags (layout ls.flatten) = ls.flatMap tags := by
  rw [layout_flatten hne h]
  exact (tags_indentLines h hread 0).whole rfl

/-! ## The lines of a tree -/

namespace Element

section
variable (attr : α → List Char) (body : List Char → List Char)

mutual
def lines : Element α → List (List Char)
  | closed n as spaced => [tag attr n as (closeMark spaced)]
  | leaf n as s => [tag attr n as openMark ++ (body s ++ endTag n)]
  | parent n as es => tag attr n as openMark :: (linesOf es ++ [endTag n])

def linesOf : List (Element α) → List (List Char)
  | [] => []
  | e :: es => lines e ++ linesOf es
end

mutual
theorem flatten_lines (t : Element α) : (t.lines attr body).flatten = t.write attr body := by
  cases t with
  | closed n as spaced => exact List.append_nil _
  | leaf n as s => exact List.append_nil _
  | parent n as es =>
    rw [lines, List.flatten_cons, List.flatten_append, flatten_linesOf es, List.flatten_singleton]
    rfl

theorem flatten_linesOf (es : List (Element α)) :
    (linesOf attr body es).flatten = writeAll attr body es := by
  cases es with
  | nil => rfl
  | cons e es =>
    rw [linesOf, List.flatten_append, flatten_lines e, flatten_linesOf es]
    rfl
end

theorem lines_ne_nil (t : Element α) : t.lines attr body ≠ [] := by
  cases t <;> simp [lines]

end

variable {attr : α → List Char} {body : List Char → List Char}

/-- What has to be known of an element, apart from its children, to know its lines. -/
structure Lined (P : List Char → Prop) (attr : α → List Char) (body : List Char → List Char)
    (e : Element α) : Prop where
  tag : P (tag attr e.name e.attributes e.mark)
  text : ∀ s ∈ e.text?,
    P (Markup.tag attr e.name e.attributes openMark ++ (body s ++ Markup.endTag e.name))
  endTag : P (endTag e.name)

mutual
theorem forall_lines {P : List Char → Prop} (t : Element α)
    (h : ∀ e ∈ t.elements, e.Lined P attr body) : ∀ l ∈ t.lines attr body, P l := by
  have hself := h t (mem_elements_self t)
  intro l hl
  cases t with
  | closed n as spaced =>
    rw [lines, List.mem_singleton] at hl
    exact hl ▸ hself.tag
  | leaf n as s =>
    rw [lines, List.mem_singleton] at hl
    exact hl ▸ hself.text s rfl
  | parent n as es =>
    rw [lines, List.mem_cons, List.mem_append, List.mem_singleton] at hl
    rcases hl with rfl | hl | rfl
    · exact hself.tag
    · exact forall_linesOf es (fun e he => h e (List.mem_cons_of_mem _ he)) l hl
    · exact hself.endTag

theorem forall_linesOf {P : List Char → Prop} (es : List (Element α))
    (h : ∀ e ∈ elementsOf es, e.Lined P attr body) : ∀ l ∈ linesOf attr body es, P l := by
  intro l hl
  cases es with
  | nil => exact absurd hl List.not_mem_nil
  | cons e es =>
    rcases List.mem_append.1 hl with hl | hl
    · exact forall_lines e (fun d hd => h d (List.mem_append_left _ hd)) l hl
    · exact forall_linesOf es (fun d hd => h d (List.mem_append_right _ hd)) l hl
end

/-- Each tag that stands alone, and each element with a text, is a line of its own. -/
theorem lined_of_lacks {e : Element α} (hname : ∀ c ∈ e.name, isWord c = true)
    (hattributes : ∀ a ∈ e.attributes, Lacks ['>', '\n'] (attr a))
    (htext : ∀ s ∈ e.text?, body s ≠ [] ∧ Lacks ['<', '>', '\n'] (body s)) :
    e.Lined IsLine attr body := by
  obtain ⟨gap, hmark, hgap⟩ := e.mark_eq
  have hword : ∀ c, isWord c = false → c ∉ e.name := fun c hc hmem =>
    Bool.noConfusion (hc.symm.trans (hname c hmem))
  have hplain : ∀ c ∈ ['>', '\n'], isWord c = false ∧ c ∉ [' ', '/', '<'] := by
    simp only [List.mem_cons, List.not_mem_nil, or_false, forall_eq_or_imp, forall_eq]
    decide
  have hin : ∀ c ∈ ['>', '\n'], ∀ mark, c ∉ mark →
      c ∉ e.name ++ e.attributes.flatMap (fun a => ' ' :: attr a) ++ mark := by
    intro c hc mark hmark
    exact notMem_tag (fun heq => (hplain c hc).2 (by simp [heq])) (hword c (hplain c hc).1)
      (fun a ha => hattributes a ha c hc) hmark
  have hend : Lacks ['>', '\n'] ('<' :: '/' :: e.name) := by
    intro c hc hmem
    rcases List.mem_cons.1 hmem with rfl | hmem
    · exact (hplain _ hc).2 (by decide)
    · rcases List.mem_cons.1 hmem with rfl | hmem
      · exact (hplain _ hc).2 (by decide)
      · exact hword c (hplain c hc).1 hmem
  refine ⟨?_, fun s hs => ?_, ?_⟩
  · have hline := IsLine.of_lacks fun c hc => hin c hc gap fun hmem => by
      rcases hgap c hmem with rfl | rfl <;> exact (hplain _ hc).2 (by decide)
    rw [hmark, Markup.tag, ← List.append_assoc]
    exact hline
  · obtain ⟨hne, hlacks⟩ := htext s hs
    have hline := IsLine.of_text hne (hlacks '<' (by decide)) fun c hc =>
      ⟨hin c hc [] List.not_mem_nil, hlacks c (List.mem_cons_of_mem _ hc), hend c hc⟩
    simpa [Markup.tag, Markup.endTag, openMark] using hline
  · exact IsLine.of_lacks fun c hc hmem => hend c hc (List.mem_cons_of_mem _ hmem)

/-- An element without angle brackets and line feeds outside its tags. -/
structure Plain (attr : α → List Char) (body : List Char → List Char) (e : Element α) : Prop where
  name : isElementName e.name = true
  attributes : ∀ a ∈ e.attributes, Lacks ['>', '\n'] (attr a)
  text : ∀ s ∈ e.text?, body s ≠ [] ∧ Lacks ['<', '>', '\n'] (body s)

theorem Plain.lined {e : Element α} (h : e.Plain attr body) : e.Lined IsLine attr body :=
  lined_of_lacks (fun _ => isWord_of_mem_elementName h.name) h.attributes h.text

/-! ## The tags of a tree's lines -/

/-- An element whose tags are read as they were printed. -/
structure Readable (g : α → Quoted) (body : List Char → List Char) (e : Element α) : Prop where
  name : isElementName e.name = true
  attributes : ∀ a ∈ e.attributes, (g a).WellFormed
  text : ∀ s ∈ e.text?, '<' ∉ body s

section
variable {g : α → Quoted}

theorem Readable.turns_text {e : Element α} (h : e.Readable g body) {s : List Char}
    (hs : s ∈ e.text?) :
    Turns tags (Markup.tag (fun a => (g a).text) e.name e.attributes openMark ++
      (body s ++ Markup.endTag e.name)) [e.head fun a => (g a).toAttribute] := by
  have hmark : e.mark = openMark := by
    cases e with
    | closed n as spaced => exact absurd hs (by simp [text?])
    | leaf n as s => rfl
    | parent n as es => rfl
  have htag := turns_tags_tag h.name h.attributes
  rw [hmark] at htag
  exact htag.append ((turns_tags_solid (h.text s hs)).append (turns_tags_endTag h.name))

theorem Readable.lined {e : Element α} (h : e.Readable g body) :
    e.Lined (fun l => Turns tags l (tags l)) (fun a => (g a).text) body := by
  have hself : ∀ {l xs}, Turns tags l xs → Turns tags l (tags l) := by
    intro l xs hl
    rwa [hl.whole rfl]
  exact ⟨hself (turns_tags_tag h.name h.attributes), fun s hs => hself (h.turns_text hs),
    hself (turns_tags_endTag h.name)⟩

mutual
theorem tags_lines (t : Element α) (h : ∀ e ∈ t.elements, e.Readable g body) :
    (t.lines (fun a => (g a).text) body).flatMap tags =
      t.elements.map (head fun a => (g a).toAttribute) := by
  have hself := h t (mem_elements_self t)
  have htag := (turns_tags_tag hself.name hself.attributes).whole rfl
  cases t with
  | closed n as spaced =>
    rw [lines, List.flatMap_singleton]
    exact htag
  | leaf n as s =>
    rw [lines, List.flatMap_singleton]
    exact (hself.turns_text rfl).whole rfl
  | parent n as es =>
    have hes := tags_linesOf es fun e he => h e (List.mem_cons_of_mem _ he)
    have hend := (turns_tags_endTag hself.name).whole rfl
    rw [lines, List.flatMap_cons, List.flatMap_append, List.flatMap_singleton, hes]
    rw [show tags (Markup.endTag n) = [] from hend, List.append_nil]
    exact congrArg (· ++ _) htag

theorem tags_linesOf (es : List (Element α)) (h : ∀ e ∈ elementsOf es, e.Readable g body) :
    (linesOf (fun a => (g a).text) body es).flatMap tags =
      (elementsOf es).map (head fun a => (g a).toAttribute) := by
  cases es with
  | nil => rfl
  | cons e es =>
    rw [linesOf, elementsOf, List.flatMap_append, List.map_append,
      tags_lines e fun d hd => h d (List.mem_append_left _ hd),
      tags_linesOf es fun d hd => h d (List.mem_append_right _ hd)]
end

/-- The layout of a tree shows the tags of the tree, in order. -/
theorem tags_layout_write (t : Element α) (hread : ∀ e ∈ t.elements, e.Readable g body)
    (hplain : ∀ e ∈ t.elements, e.Plain (fun a => (g a).text) body) :
    tags (layout (t.write (fun a => (g a).text) body)) =
      t.elements.map (head fun a => (g a).toAttribute) := by
  rw [← flatten_lines, tags_layout (lines_ne_nil _ _ t)
    (forall_lines t fun e he => (hplain e he).lined)
    (forall_lines t fun e he => (hread e he).lined), tags_lines t hread]

end

end Element

end Markup
end SvgIcon
