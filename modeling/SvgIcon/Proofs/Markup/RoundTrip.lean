import Mathlib.Data.List.Basic
import SvgIcon.Proofs.Markup.Lines
import SvgIcon.Proofs.Markup.Restoring

/-!
From a tree to a component and back.  The wrapper of a component holds no bracket that could be
taken for the markup's, so the markup is found again as it was put in; the way back then restores
classes and lays the tree out, and every tag is read with the attributes it had.
-/

namespace SvgIcon
namespace Markup

open Text

variable {α : Type}

/-! ## The markup of a tree, embedded -/

/-- The only `svg` element of the tree is its root, and has a content.  No name turns into a
property that ends in `style` or, but for `class`, in `className`; no value or text has a brace, and
no text an equals sign. -/
structure Element.Embeddable (t : Element Quoted) : Prop where
  root : t.name = "svg".toList
  filled : t.children ≠ [] ∨ t.text?.isSome
  others : ∀ e ∈ t.elements.tail, e.name ≠ "svg".toList
  styles : ∀ e ∈ t.elements, ∀ a ∈ e.attributes, ¬ "style".toList <:+ propertyName a.name
  classes : ∀ e ∈ t.elements, ∀ a ∈ e.attributes, a.ClassApart
  values : ∀ e ∈ t.elements, ∀ a ∈ e.attributes, '\x7b' ∉ a.value
  texts : ∀ e ∈ t.elements, ∀ s ∈ e.text?, '=' ∉ s ∧ '\x7b' ∉ s

namespace Element

variable {t : Element Quoted}

/-! ## The end of the root -/

section
variable {attr : α → List Char} {body : List Char → List Char}

theorem free_svgEnd_tag {e : Element α} (hn : isElementName e.name = true)
    (ha : ∀ a ∈ e.attributes, '<' ∉ attr a) :
    Free svgEnd (tag attr e.name e.attributes e.mark) := by
  obtain ⟨c, s, hname, hc⟩ := exists_cons_of_isElementName hn
  have hslash : '/' ≠ c := by
    rintro rfl
    exact absurd hc (by decide)
  have hin := notMem_tag (by decide) (notMem_elementName hn (by decide)) ha
    (e.notMem_mark (by decide))
  rw [tag]
  rw [hname] at hin ⊢
  refine ⟨fun rest => ?_, Free.of_notMem_head hin⟩
  show after? ('<' :: '/' :: "svg>".toList) ('<' :: c :: _) = none
  simp [after?, hslash]

theorem free_svgEnd_endTag {n : List Char} (hn : isElementName n = true)
    (hsvg : n ≠ "svg".toList) : Free svgEnd (endTag n) := by
  have hclose : '>' ∉ '<' :: '/' :: n := by
    have hname := notMem_elementName hn (show isWord '>' = false by decide)
    simpa using hname
  -- a bracket stands only at the front, so a suffix with one is the whole
  have hend : ¬ "</svg".toList <:+ '<' :: '/' :: n := by
    intro hsuffix
    rcases List.suffix_cons_iff.1 hsuffix with heq | hrest
    · exact hsvg (List.cons.inj (List.cons.inj heq).2).2.symm
    · have hopen : '<' ∈ '/' :: n := hrest.subset (by decide)
      rcases List.mem_cons.1 hopen with h | h
      · exact absurd h (by decide)
      · exact notMem_elementName hn (by decide) h
  exact Free.concat_mark "</svg".toList [] (by decide) hclose hend

/-- Apart from the root of a tree, no `</svg>` begins in its text. -/
structure Inner (attr : α → List Char) (body : List Char → List Char) (e : Element α) : Prop where
  name : isElementName e.name = true
  other : e.name ≠ "svg".toList
  attributes : ∀ a ∈ e.attributes, '<' ∉ attr a
  text : ∀ s ∈ e.text?, '<' ∉ body s

theorem Inner.written {e : Element α} (h : e.Inner attr body) :
    e.Written (fun a _ => Free svgEnd a) attr attr body body where
  tag := free_svgEnd_tag h.name h.attributes
  text s hs := (Free.of_notMem_head (h.text s hs)).append (free_svgEnd_endTag h.name h.other)
  endTag := free_svgEnd_endTag h.name h.other

theorem free_svgEnd_writeAll (es : List (Element α))
    (h : ∀ e ∈ elementsOf es, e.Inner attr body) : Free svgEnd (writeAll attr body es) := by
  have hwritten : ∀ e ∈ elementsOf es,
      e.Written (fun a _ => Free svgEnd a) attr attr body body := fun e he => (h e he).written
  exact writeAll_related (R := fun a _ => Free svgEnd a) True.intro Free.append es hwritten

/-- The text of a filled `svg` element, up to its own end tag. -/
theorem exists_write_eq {t : Element α} (hroot : t.name = "svg".toList)
    (hfilled : t.children ≠ [] ∨ t.text?.isSome) (ha : ∀ a ∈ t.attributes, '<' ∉ attr a)
    (hs : ∀ s ∈ t.text?, '<' ∉ body s) (h : ∀ e ∈ t.elements.tail, e.Inner attr body) :
    ∃ inner, t.write attr body = svgStart ++ (inner ++ svgEnd) ∧ Free svgEnd inner := by
  have hfree : ∀ as : List α, (∀ a ∈ as, '<' ∉ attr a) →
      Free svgEnd (as.flatMap (fun a => ' ' :: attr a) ++ openMark) := fun as has =>
    Free.of_notMem_head (notMem_tag (n := []) (by decide) List.not_mem_nil has (by decide))
  have htag : ∀ as : List α, tag attr "svg".toList as openMark =
      svgStart ++ (as.flatMap (fun a => ' ' :: attr a) ++ openMark) := fun _ => rfl
  have hend : endTag "svg".toList = svgEnd := rfl
  cases t with
  | closed n as spaced => simp [children, text?] at hfilled
  | leaf n as s =>
    obtain rfl : n = "svg".toList := hroot
    refine ⟨as.flatMap (fun a => ' ' :: attr a) ++ openMark ++ body s, ?_,
      (hfree as ha).append (Free.of_notMem_head (hs s rfl))⟩
    rw [write, htag, hend]
    simp only [List.append_assoc]
  | parent n as es =>
    obtain rfl : n = "svg".toList := hroot
    refine ⟨as.flatMap (fun a => ' ' :: attr a) ++ openMark ++ writeAll attr body es, ?_,
      (hfree as ha).append (free_svgEnd_writeAll es h)⟩
    rw [write, htag, hend]
    simp only [List.append_assoc]

end

theorem write_congr {attr attr' : α → List Char} {body : List Char → List Char} (t : Element α)
    (h : ∀ e ∈ t.elements, ∀ a ∈ e.attributes, attr a = attr' a) :
    t.write attr body = t.write attr' body := by
  refine write_related (R := Eq) rfl (fun h h' => by rw [h, h']) t fun e he =>
    ⟨?_, fun _ _ => rfl, rfl⟩
  rw [tag, tag, List.flatMap_congr fun a ha => by rw [h e he a ha]]

theorem notMem_write {attr : α → List Char} {body : List Char → List Char} {c : Char}
    (hmarks : c ∉ ['<', '>', '/', ' ']) (hword : isWord c = false) (t : Element α)
    (hn : ∀ e ∈ t.elements, isElementName e.name)
    (ha : ∀ e ∈ t.elements, ∀ a ∈ e.attributes, c ∉ attr a)
    (hs : ∀ e ∈ t.elements, ∀ s ∈ e.text?, c ∉ body s) : c ∉ t.write attr body := by
  simp only [List.mem_cons, List.not_mem_nil, or_false, not_or] at hmarks
  obtain ⟨hopen, hclose, hslash, hspace⟩ := hmarks
  suffices hwritten : ∀ e ∈ t.elements, e.Written (fun a _ => c ∉ a) attr attr body body from
    write_related (R := fun a _ => c ∉ a) List.not_mem_nil (fun h h' => by simp [h, h']) t hwritten
  intro e he
  have hname := notMem_elementName (hn e he) hword
  have hend : c ∉ endTag e.name := by simp [endTag, hopen, hclose, hslash, hname]
  refine ⟨?_, fun s hmem => ?_, hend⟩
  · have hin := notMem_tag hspace hname (ha e he) (e.notMem_mark (by simp [hclose, hslash, hspace]))
    simpa [tag, hopen] using hin
  · simp [hs e he s hmem, hend]

end Element

/-! ## The wrapper -/

theorem extract?_wrapComponent {name inner : List Char} (hname : '<' ∉ name)
    (hinner : Free svgEnd inner) :
    extract? (wrapComponent name (svgStart ++ (inner ++ svgEnd))) =
      some (svgStart ++ (inner ++ svgEnd)) := by
  have hfront : Free svgStart ("const ".toList ++ name ++ " = () => (\n  ".toList) := by
    refine Free.of_notMem_head ?_
    simp only [List.mem_append, not_or]
    exact ⟨⟨by decide, hname⟩, by decide⟩
  have htext : wrapComponent name (svgStart ++ (inner ++ svgEnd)) =
      "const ".toList ++ name ++ " = () => (\n  ".toList ++ (svgStart ++ (inner ++ (svgEnd ++
        ("\n);\n\nexport default ".toList ++ name ++ ";\n".toList)))) := by
    unfold wrapComponent
    simp only [List.append_assoc]
  have hcut := hfront.cut?_append (inner ++ (svgEnd ++
    ("\n);\n\nexport default ".toList ++ name ++ ";\n".toList)))
  have hcut' := hinner.cut?_append ("\n);\n\nexport default ".toList ++ name ++ ";\n".toList)
  rw [extract?, span?, htext, hcut]
  show Option.map _ (Option.bind (cut? svgEnd _) _) = _
  rw [hcut']
  show some (svgStart ++ inner ++ svgEnd) = _
  rw [List.append_assoc]

/-! ## There and back -/

namespace Element

theorem Embeddable.closePairs {t : Element Quoted} (h : t.Embeddable) :
    t.closePairs.Embeddable where
  root := (name_closePairs t).trans h.root
  filled := by
    cases t with
    | closed n as spaced => exact h.filled
    | leaf n as s => exact h.filled
    | parent n as es =>
      cases es with
      | nil => exact absurd h.filled (by simp [children, text?])
      | cons e es => exact Or.inl (by simp [Element.closePairs, closePairsIn, children])
  others e he := by
    have hmem : e.content ∈ t.elements.tail.map content := by
      rw [List.map_tail, ← content_closePairs t, ← List.map_tail]
      exact List.mem_map_of_mem he
    obtain ⟨d, hd, hcontent⟩ := List.mem_map.1 hmem
    exact (Prod.mk.inj hcontent).1 ▸ h.others d hd
  styles e he := by
    obtain ⟨d, hd, _, hattributes, _⟩ := exists_of_mem_closePairs he
    exact hattributes ▸ h.styles d hd
  classes e he := by
    obtain ⟨d, hd, _, hattributes, _⟩ := exists_of_mem_closePairs he
    exact hattributes ▸ h.classes d hd
  values e he := by
    obtain ⟨d, hd, _, hattributes, _⟩ := exists_of_mem_closePairs he
    exact hattributes ▸ h.values d hd
  texts e he := by
    obtain ⟨d, hd, _, _, htext⟩ := exists_of_mem_closePairs he
    exact htext ▸ h.texts d hd

variable {t : Element Quoted}

theorem Embeddable.stylesApart (h : t.Embeddable) : t.StylesApart := fun e he a ha =>
  Or.inr (h.styles e he a ha)

theorem exists_jsx_eq (h : t.WellFormed) (hemb : t.Embeddable) :
    ∃ inner, t.write (fun a => a.toProperty.squeezed.text) squeeze =
      svgStart ++ (inner ++ svgEnd) ∧ Free svgEnd inner := by
  have ha : ∀ e ∈ t.elements, ∀ a ∈ e.attributes, '<' ∉ a.toProperty.squeezed.text :=
    fun e he a hmem => Quoted.notMem_text
      (Quoted.wellFormed_squeezed (Quoted.wellFormed_toProperty (h.attributes e he a hmem)))
      (by decide)
  have hs : ∀ e ∈ t.elements, ∀ s ∈ e.text?, '<' ∉ squeeze s := by
    intro e he s hmem hbracket
    rcases mem_squeeze hbracket with hin | hspace
    · exact notMem_texts h he (by decide) s hmem hin
    · exact absurd hspace (by decide)
  have hself := mem_elements_self t
  refine exists_write_eq hemb.root hemb.filled (ha t hself) (hs t hself) fun e he => ?_
  have hmem := List.mem_of_mem_tail he
  exact ⟨h.names e hmem, hemb.others e he, ha e hmem, hs e hmem⟩

theorem toJsx_eq_write (h : t.WellFormed) (hends : t.EndsApart) (hemb : t.Embeddable) :
    toJsx (t.write Quoted.text id) =
      t.closePairs.write (fun a => a.toProperty.squeezed.text) squeeze := by
  have hjsx : t.closePairs.write Quoted.jsx id =
      t.closePairs.write (fun a => a.toProperty.text) id := by
    refine write_congr _ fun e he a ha => ?_
    have hstyle := hemb.closePairs.styles e he a ha
    have hname : a.name ≠ "style".toList := by
      intro heq
      rw [heq] at hstyle
      exact hstyle (by decide)
    exact if_neg hname
  have hsqueeze : squeeze (t.closePairs.write (fun a => a.toProperty.text) id) =
      t.closePairs.write (fun a => a.toProperty.squeezed.text) squeeze :=
    pass_write rfl _ fun e he => written_squeeze (h.closePairs.names e he) fun a ha =>
      (Quoted.wellFormed_toProperty (h.closePairs.attributes e he a ha)).1
  obtain ⟨inner, hinner, _⟩ := exists_jsx_eq h.closePairs hemb.closePairs
  have hend : svgStart ++ (inner ++ svgEnd) = svgStart ++ (inner ++ "</svg".toList) ++ ['>'] := by
    simp only [List.append_assoc]
    rfl
  -- the markup starts and ends with a bracket, so nothing is trimmed off
  have htrim : trim (svgStart ++ (inner ++ svgEnd)) = svgStart ++ (inner ++ svgEnd) :=
    trim_eq_self rfl hend (by decide) (by decide)
  rw [toJsx, passes_write h hends hemb.stylesApart, hjsx, collapseBlanks_eq, hsqueeze, hinner,
    htrim]

/-- The way back from the markup in a component, up to its layout. -/
theorem ofComponent_write (h : t.WellFormed) (hemb : t.Embeddable) :
    ofComponent (t.write (fun a => a.toProperty.squeezed.text) squeeze) =
      layout (t.write (fun a => a.returned.text) squeeze) := by
  have hsqueeze : ∀ {c s}, c ∉ s → c ≠ ' ' → c ∉ squeeze s := fun hs hc hmem =>
    (mem_squeeze hmem).elim hs hc
  have hclass : restoreClass (t.write (fun a => a.toProperty.squeezed.text) squeeze) =
      t.write (fun a => a.returned.text) squeeze :=
    pass_write rfl t fun e he => written_restoreClass (h.names e he)
      (fun a ha => ⟨h.attributes e he a ha, hemb.classes e he a ha⟩)
      fun s hs => hsqueeze (hemb.texts e he s hs).1 (by decide)
  have hreturned : ∀ e ∈ t.elements, ∀ a ∈ e.attributes, a.returned.WellFormed :=
    fun e he a ha => Quoted.wellFormed_returned (h.attributes e he a ha)
  have hbrace : '\x7b' ∉ t.write (fun a => a.returned.text) squeeze := by
    refine notMem_write (by decide) (by decide) t h.names (fun e he a ha => ?_) fun e he s hs =>
      hsqueeze (hemb.texts e he s hs).2 (by decide)
    exact Quoted.notMem_text_of_value (hreturned e he a ha).1 (by decide)
      (hsqueeze (hemb.values e he a ha) (by decide))
  have hfragment : rewrite fragment? (t.write (fun a => a.returned.text) squeeze) =
      t.write (fun a => a.returned.text) squeeze :=
    pass_write rfl t fun e he => written_of_sparesTags sparesTags_fragment (h.names e he)
      (fun a ha => Quoted.notMem_text (hreturned e he a ha) (by decide))
      fun s hs => hsqueeze (notMem_texts h he (by decide) s hs) (by decide)
  rw [ofComponent, hclass, rewrite_expressions hbrace, hfragment]

theorem tags_ofComponent_write (h : t.WellFormed) (hemb : t.Embeddable) :
    tags (ofComponent (t.write (fun a => a.toProperty.squeezed.text) squeeze)) =
      t.elements.map (head fun a => a.returned.toAttribute) := by
  have hreturned : ∀ e ∈ t.elements, ∀ a ∈ e.attributes, a.returned.WellFormed :=
    fun e he a ha => Quoted.wellFormed_returned (h.attributes e he a ha)
  have hbreak : ∀ s, '\n' ∉ squeeze s := notMem_squeeze_lineBreak (by decide)
  have htext : ∀ e ∈ t.elements, ∀ s ∈ e.text?, ∀ c ∈ ['<', '>'], c ∉ squeeze s := by
    intro e he s hs c hc hmem
    rcases mem_squeeze hmem with hin | rfl
    · exact notMem_texts h he (List.mem_append_left ['"'] hc) s hs hin
    · exact absurd hc (by decide)
  rw [ofComponent_write h hemb]
  refine tags_layout_write t (fun e he => ⟨h.names e he, hreturned e he, fun s hs =>
    htext e he s hs '<' (by decide)⟩) fun e he =>
      ⟨h.names e he, fun a ha c hc => ?_, fun s hs => ?_⟩
  · simp only [List.mem_cons, List.not_mem_nil, or_false] at hc
    rcases hc with rfl | rfl
    · exact Quoted.notMem_text (hreturned e he a ha) (by decide)
    · exact Quoted.notMem_text_of_value (hreturned e he a ha).1 (by decide) (hbreak a.value)
  · refine ⟨squeeze_ne_nil (h.texts e he s hs).1, fun c hc => ?_⟩
    simp only [List.mem_cons, List.not_mem_nil, or_false] at hc
    rcases hc with rfl | rfl | rfl
    · exact htext e he s hs '<' (by decide)
    · exact htext e he s hs '>' (by decide)
    · exact hbreak s

theorem map_head_closePairs {f : α → Attribute} (t : Element α) :
    t.closePairs.elements.map (head f) = t.elements.map (head f) := by
  have hhead : (head f : Element α → Head) = (fun c => ⟨c.1, c.2.1.map f⟩) ∘ content := rfl
  rw [hhead, ← List.map_map, content_closePairs, List.map_map]

end Element

/-- A tree put into a component is found there as it was put in, and comes back with the same
tags in the same order: the names of the elements, and of the attributes what they become on the
way, with their values. -/
theorem ofComponent_toComponent (t : Element Quoted) (h : t.WellFormed) (hends : t.EndsApart)
    (hemb : t.Embeddable) (name : List Char) (hname : '<' ∉ name) :
    extract? (toComponent name (t.write Quoted.text id)) = some (toJsx (t.write Quoted.text id)) ∧
      tags (ofComponent (toJsx (t.write Quoted.text id))) =
        t.elements.map (Element.head fun a => a.returned.toAttribute) := by
  have hjsx := Element.toJsx_eq_write h hends hemb
  refine ⟨?_, ?_⟩
  · obtain ⟨inner, hinner, hfree⟩ := Element.exists_jsx_eq h.closePairs hemb.closePairs
    rw [toComponent, hjsx, hinner, extract?_wrapComponent hname hfree]
  · rw [hjsx, Element.tags_ofComponent_write h.closePairs hemb.closePairs]
    exact Element.map_head_closePairs t

/-- An emblem with a class, a text, an empty pair and an element closed in place. -/
def emblem : Element Quoted :=
  .parent "svg".toList [⟨"class".toList, "icon  big".toList⟩]
    [ .parent "g".toList [⟨"stroke-width".toList, "2".toList⟩]
        [.closed "path".toList [⟨"d".toList, "M1 1L2 2".toList⟩] false],
      .parent "defs".toList [] [],
      .leaf "title".toList [] "An  emblem".toList ]

theorem ofComponent_emblem :
    emblem.WellFormed ∧ emblem.EndsApart ∧ emblem.Embeddable ∧ '<' ∉ "Icon".toList ∧
      extract? (toComponent "Icon".toList (emblem.write Quoted.text id)) =
        some (toJsx (emblem.write Quoted.text id)) ∧
      tags (ofComponent (toJsx (emblem.write Quoted.text id))) =
        [ ⟨"svg".toList, [⟨' ', "class".toList, ['='], "\"icon big\"".toList⟩]⟩,
          ⟨"g".toList, [⟨' ', "strokeWidth".toList, ['='], "\"2\"".toList⟩]⟩,
          ⟨"path".toList, [⟨' ', "d".toList, ['='], "\"M1 1L2 2\"".toList⟩]⟩,
          ⟨"defs".toList, []⟩,
          ⟨"title".toList, []⟩ ] := by
  have h : emblem.WellFormed := by decide +kernel
  have hends : emblem.EndsApart := by decide +kernel
  have hemb : emblem.Embeddable := {
    root := rfl
    filled := Or.inl (by simp [emblem, Element.children])
    others := by decide +kernel
    styles := by decide +kernel
    classes := by decide +kernel
    values := by decide +kernel
    texts := by decide +kernel }
  have hname : '<' ∉ "Icon".toList := by decide
  obtain ⟨hextract, htags⟩ := ofComponent_toComponent emblem h hends hemb "Icon".toList hname
  exact ⟨h, hends, hemb, hname, hextract, htags.trans (by decide +kernel)⟩

end Markup
end SvgIcon
