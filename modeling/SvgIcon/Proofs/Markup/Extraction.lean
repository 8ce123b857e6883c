import SvgIcon.Markup.Component

/-!
The element that is taken out of a text, and put back.  It is found by its two ends, and replaced
by looking for its whole text; both searches stop at the same place, since no copy of the element
can start before the first `<svg` that has a `</svg>` behind it.
-/

namespace SvgIcon
namespace Text

theorem cut?_ne_none (needle p q : List Char) : cut? needle (p ++ needle ++ q) ≠ none := by
  induction p with
  | nil =>
    intro h
    rw [List.nil_append] at h
    cases hs : needle ++ q with
    | nil =>
      obtain ⟨rfl, rfl⟩ := List.append_eq_nil_iff.1 hs
      simp [cut?] at h
    | cons c s =>
      have hafter : after? needle (c :: s) = some q := hs ▸ after?_eq_some_iff.2 rfl
      rw [hs, cut?, hafter] at h
      simp at h
  | cons c p ih =>
    intro h
    rw [List.cons_append, List.cons_append, cut?] at h
    split at h
    · simp at h
    · exact ih (Option.map_eq_none_iff.1 h)

theorem length_le_of_cut? {needle s front rest p q : List Char}
    (h : cut? needle s = some (front, rest)) (hs : s = p ++ needle ++ q) :
    front.length ≤ p.length := by
  induction s generalizing front rest p with
  | nil =>
    have hfront := (List.append_eq_nil_iff.1 (eq_append_of_cut? h).symm).1
    rw [(List.append_eq_nil_iff.1 hfront).1]
    exact Nat.zero_le _
  | cons c s ih =>
    rw [cut?] at h
    split at h
    · obtain ⟨rfl, _⟩ := Prod.mk.inj (Option.some.inj h)
      exact Nat.zero_le _
    · rename_i hnone
      obtain ⟨⟨front', rest'⟩, hcut, heq⟩ := Option.map_eq_some_iff.1 h
      obtain ⟨rfl, _⟩ := Prod.mk.inj heq
      cases p with
      | nil =>
        rw [hs, List.nil_append, after?_eq_some_iff.2 rfl] at hnone
        exact absurd hnone (by simp)
      | cons d p =>
        have hlater := ih hcut (List.cons.inj hs).2
        simp only [List.length_cons]
        omega

end Text

namespace Markup

open Text

/-- The span starts at the first `<svg` that some `</svg>` follows, and ends at the first such
`</svg>`. -/
structure Span.IsFirst (sp : Span) (text : List Char) : Prop where
  split : text = sp.before ++ sp.element ++ sp.behind
  shape : ∃ inner, sp.element = svgStart ++ inner ++ svgEnd
  start : ∀ p q r, text = p ++ svgStart ++ q ++ svgEnd ++ r → sp.before.length ≤ p.length
  stop : ∀ q r, text = sp.before ++ svgStart ++ q ++ svgEnd ++ r →
    sp.element.length ≤ (svgStart ++ q ++ svgEnd).length

def HoldsSpan (text : List Char) : Prop :=
  ∃ p q r, text = p ++ svgStart ++ q ++ svgEnd ++ r

theorem span?_isFirst {text : List Char} {sp : Span} (h : span? text = some sp) :
    sp.IsFirst text := by
  rw [span?] at h
  obtain ⟨⟨before, rest⟩, hstart, h⟩ := Option.bind_eq_some_iff.1 h
  obtain ⟨⟨inner, behind⟩, hend, h⟩ := Option.bind_eq_some_iff.1 h
  obtain rfl := Option.some.inj h
  have htext := eq_append_of_cut? hstart
  have hrest := eq_append_of_cut? hend
  refine ⟨?_, ⟨inner, rfl⟩, fun p q r heq => ?_, fun q r heq => ?_⟩
  · rw [htext, hrest]
    simp only [List.append_assoc]
  · have hcopy : text = p ++ svgStart ++ (q ++ svgEnd ++ r) := by
      rw [heq]
      simp only [List.append_assoc]
    exact length_le_of_cut? hstart hcopy
  · have hcopy : rest = q ++ svgEnd ++ r := by
      have hsame : before ++ svgStart ++ rest = before ++ svgStart ++ (q ++ svgEnd ++ r) := by
        rw [← htext, heq]
        simp only [List.append_assoc]
      exact List.append_cancel_left hsame
    have hlater := length_le_of_cut? hend hcopy
    simp only [List.length_append]
    omega

theorem span?_ne_none {text : List Char} (h : HoldsSpan text) : span? text ≠ none := by
  obtain ⟨p, q, r, htext⟩ := h
  have hcopy : text = p ++ svgStart ++ (q ++ svgEnd ++ r) := by
    rw [htext]
    simp only [List.append_assoc]
  obtain ⟨⟨front, rest⟩, hstart⟩ : ∃ cut, cut? svgStart text = some cut :=
    Option.ne_none_iff_exists'.1 (hcopy ▸ cut?_ne_none svgStart p _)
  have hle := length_le_of_cut? hstart hcopy
  have hfront := eq_append_of_cut? hstart
  -- the first `<svg` is no later than `p`, so the end tag stands behind it as well
  obtain ⟨u, hu⟩ : front ++ svgStart <+: p ++ svgStart ++ q := by
    have hshort : front ++ svgStart <+: text := ⟨rest, hfront.symm⟩
    have hlong : p ++ svgStart ++ q <+: text :=
      ⟨svgEnd ++ r, by rw [htext, List.append_assoc _ svgEnd]⟩
    refine List.prefix_of_prefix_length_le hshort hlong ?_
    simp only [List.length_append]
    omega
  have hrest : rest = u ++ svgEnd ++ r := by
    have hsame : front ++ svgStart ++ rest = front ++ svgStart ++ (u ++ svgEnd ++ r) := by
      rw [← hfront, htext, ← hu]
      simp only [List.append_assoc]
    exact List.append_cancel_left hsame
  obtain ⟨⟨inner, behind⟩, hend⟩ : ∃ cut, cut? svgEnd rest = some cut :=
    Option.ne_none_iff_exists'.1 (hrest ▸ cut?_ne_none svgEnd u r)
  intro hnone
  rw [span?, hstart] at hnone
  obtain hnone : Option.bind (cut? svgEnd rest) _ = none := hnone
  rw [hend] at hnone
  exact absurd hnone (by simp)

theorem Span.IsFirst.holdsSpan {sp : Span} {text : List Char} (h : sp.IsFirst text) :
    HoldsSpan text := by
  obtain ⟨inner, hinner⟩ := h.shape
  refine ⟨sp.before, inner, sp.behind, ?_⟩
  rw [h.split, hinner]
  simp only [List.append_assoc]

theorem Span.IsFirst.unique {sp sp' : Span} {text : List Char} (h : sp.IsFirst text)
    (h' : sp'.IsFirst text) : sp = sp' := by
  obtain ⟨inner, hinner⟩ := h.shape
  obtain ⟨inner', hinner'⟩ := h'.shape
  have hsplit : text = sp.before ++ svgStart ++ inner ++ svgEnd ++ sp.behind := by
    rw [h.split, hinner]
    simp only [List.append_assoc]
  have hsplit' : text = sp'.before ++ svgStart ++ inner' ++ svgEnd ++ sp'.behind := by
    rw [h'.split, hinner']
    simp only [List.append_assoc]
  have hlength : sp.before.length = sp'.before.length :=
    Nat.le_antisymm (h.start _ _ _ hsplit') (h'.start _ _ _ hsplit)
  have htext : sp.before ++ (sp.element ++ sp.behind) =
      sp'.before ++ (sp'.element ++ sp'.behind) := by
    rw [← List.append_assoc, ← List.append_assoc, ← h.split, ← h'.split]
  -- with the starts in one place, either end is no later than the other
  obtain ⟨hbefore, hrest⟩ := List.append_inj htext hlength
  have hle := h.stop inner' sp'.behind (hbefore ▸ hsplit')
  have hle' := h'.stop inner sp.behind (hbefore ▸ hsplit)
  rw [← hinner'] at hle
  rw [← hinner] at hle'
  obtain ⟨helement, hbehind⟩ := List.append_inj hrest (Nat.le_antisymm hle hle')
  obtain ⟨before, element, behind⟩ := sp
  obtain ⟨before', element', behind'⟩ := sp'
  simp only at hbefore helement hbehind
  rw [hbefore, helement, hbehind]

theorem span?_eq_some_iff {text : List Char} {sp : Span} :
    span? text = some sp ↔ sp.IsFirst text := by
  constructor
  · exact span?_isFirst
  · intro h
    obtain ⟨sp', hsp'⟩ := Option.ne_none_iff_exists'.1 (span?_ne_none h.holdsSpan)
    rw [hsp', h.unique (span?_isFirst hsp')]

theorem span?_eq_none_iff {text : List Char} : span? text = none ↔ ¬ HoldsSpan text := by
  constructor
  · exact fun hnone h => span?_ne_none h hnone
  · intro h
    rw [Option.eq_none_iff_forall_ne_some]
    exact fun sp hsp => h (span?_isFirst hsp).holdsSpan

/-- Looking for the text of the first span finds the first span, whatever copies stand around it. -/
theorem replaceFirst_element {sp : Span} {text : List Char} (h : sp.IsFirst text)
    (new : List Char) : replaceFirst sp.element new text = sp.before ++ new ++ sp.behind := by
  obtain ⟨⟨front, rest⟩, hcut⟩ : ∃ cut, cut? sp.element text = some cut :=
    Option.ne_none_iff_exists'.1 (h.split ▸ cut?_ne_none sp.element sp.before sp.behind)
  have hfront := eq_append_of_cut? hcut
  have hle := length_le_of_cut? hcut h.split
  obtain ⟨inner, hinner⟩ := h.shape
  have hcopy : text = front ++ svgStart ++ inner ++ svgEnd ++ rest := by
    rw [hfront, hinner]
    simp only [List.append_assoc]
  have hlength : front.length = sp.before.length := Nat.le_antisymm hle (h.start _ _ _ hcopy)
  have htext : front ++ (sp.element ++ rest) = sp.before ++ (sp.element ++ sp.behind) := by
    rw [← List.append_assoc, ← List.append_assoc, ← hfront, ← h.split]
  obtain ⟨rfl, hrest⟩ := List.append_inj htext hlength
  have hbehind := List.append_cancel_left hrest
  rw [replaceFirst, hcut, hbehind]

end Markup
end SvgIcon
