import SvgIcon.Proofs.Markup.Closing
import SvgIcon.Proofs.Markup.Styling
import SvgIcon.Proofs.Text.Pieces

/-!
From a printed tree of SVG to component markup.  `toJsx_write` is the statement that the passes of
`toJsx`, each of which knows only flat text, together do on the text of a tree what they are meant
to do on the tree: rename the attributes, turn styles into literals and close empty pairs, and
nothing else.
-/

namespace SvgIcon
namespace Markup

open Text

variable {α : Type}

/-! ## Declarations -/

/-- What starts with a bracket and neither a letter nor a slash is looked for in vain in a tree. -/
theorem sparesTags_lineSpan {c : Char} {start close : List Char} (hc : isAsciiLetter c = false)
    (hslash : c ≠ '/') : SparesTags (lineSpan? ('<' :: c :: start) close) where
  other d hd s := by
    simp [lineSpan?, after?_cons_ne fun e => hd e.symm]
  start d hd s := by
    have hne : c ≠ d := by
      rintro rfl
      rw [hc] at hd
      exact Bool.noConfusion hd
    simp [lineSpan?, after?, hne]
  stop d _ s := by
    simp [lineSpan?, after?, hslash]

/-! ## The characters of a component's attributes -/

/-- What a style literal adds to the characters of the style. -/
def literalMarks : List Char :=
  ['s', 't', 'y', 'l', 'e', '=', ' ', ':', '\'', ',', '\x7b', '\x7d']

theorem mem_literalMarks {c : Char} {s : List Char} (hc : c ∈ s)
    (hs : s.all (fun d => literalMarks.contains d) = true) : c ∈ literalMarks := by
  simpa using List.all_eq_true.1 hs c hc

theorem mem_entry {c : Char} {segment : List Char} {d : Declaration}
    (hd : Declaration.read? segment = some d) (hc : c ∈ d.entry) :
    c ∈ segment ∨ isAsciiLetter c = true ∨ c ∈ literalMarks := by
  simp only [Declaration.read?] at hd
  split at hd
  · exact absurd hd (by simp)
  · obtain rfl := Option.some.inj hd
    simp only [Declaration.entry, List.mem_append, List.mem_singleton] at hc
    rcases hc with ((hkey | hcolon) | hvalue) | rfl
    · rcases mem_camelize hkey with hkey | hletter
      · exact Or.inl ((List.takeWhile_sublist _).subset (mem_of_mem_trim hkey))
      · exact Or.inr (Or.inl hletter)
    · exact Or.inr (Or.inr (mem_literalMarks hcolon (by decide)))
    · have hdrop := (List.drop_sublist _ _).subset (mem_of_mem_trim hvalue)
      exact Or.inl ((List.dropWhile_sublist _).subset hdrop)
    · exact Or.inr (Or.inr (by decide))

theorem mem_styleLiteral {c : Char} {v : List Char} (h : c ∈ styleLiteral v) :
    c ∈ v ∨ isAsciiLetter c = true ∨ c ∈ literalMarks := by
  unfold styleLiteral at h
  rcases List.mem_append.1 h with hfront | hclose
  · rcases List.mem_append.1 hfront with hopen | hbody
    · exact Or.inr (Or.inr (mem_literalMarks hopen (by decide)))
    · rcases mem_join hbody with hcomma | ⟨entry, hentry, hc⟩
      · exact Or.inr (Or.inr (mem_literalMarks hcomma (by decide)))
      · obtain ⟨d, hd, rfl⟩ := List.mem_map.1 hentry
        obtain ⟨segment, hsegment, hread⟩ := List.mem_filterMap.1 hd
        exact (mem_entry hread hc).imp_left (mem_of_mem_pieces hsegment)
  · exact Or.inr (Or.inr (mem_literalMarks hclose (by decide)))

namespace Quoted

theorem notMem_text_of_value {a : Quoted} (hn : isAttributeName a.name = true) {c : Char}
    (hc : Attribute.isNameChar c = false ∧ c ∉ ['=', '"']) (hv : c ∉ a.value) : c ∉ a.text := by
  have hname := notMem_attributeName hn hc.1
  have hmarks := hc.2
  simp only [List.mem_cons, List.not_mem_nil, or_false, not_or] at hmarks
  simp [text, hname, hmarks, hv]

theorem notMem_text {a : Quoted} (h : a.WellFormed) {c : Char} (hc : c ∈ ['<', '>']) :
    c ∉ a.text := by
  have hmarks : (Attribute.isNameChar c = false ∧ c ∉ ['=', '"']) ∧ c ∈ ['"', '<', '>', '='] := by
    simp only [List.mem_cons, List.not_mem_nil, or_false] at hc
    rcases hc with rfl | rfl <;> decide
  exact notMem_text_of_value h.1 hmarks.1 (h.2 c hmarks.2)

theorem notMem_jsx {a : Quoted} (h : a.WellFormed) {c : Char} (hc : c ∈ ['<', '>']) :
    c ∉ a.jsx := by
  unfold jsx
  split
  · intro hmem
    simp only [List.mem_cons, List.not_mem_nil, or_false] at hc
    rcases mem_styleLiteral hmem with hv | hl | hm
    · exact h.2 c (by rcases hc with rfl | rfl <;> decide) hv
    · rcases hc with rfl | rfl <;> revert hl <;> decide
    · rcases hc with rfl | rfl <;> revert hm <;> decide
  · exact notMem_text (wellFormed_toProperty h) hc

end Quoted

/-! ## The passes together -/

namespace Element

variable {t : Element Quoted}

theorem pass_write {pass : List Char → List Char} {attr attr' : α → List Char}
    {body body' : List Char → List Char} (hnil : pass [] = []) (t : Element α)
    (h : ∀ e ∈ t.elements, e.Written (Turns pass) attr attr' body body') :
    pass (t.write attr body) = t.write attr' body' :=
  (write_related Turns.nil Turns.append t h).whole hnil

theorem notMem_texts (h : t.WellFormed) {e : Element Quoted} (he : e ∈ t.elements) {c : Char}
    (hc : c ∈ ['<', '>', '"']) : ∀ s ∈ e.text?, c ∉ id s := fun s hs => (h.texts e he s hs).2 c hc

theorem stripDeclarations_write (h : t.WellFormed) :
    stripDeclarations (t.write Quoted.text id) = t.write Quoted.text id := by
  have hspared : ∀ find, SparesTags find → rewrite find (t.write Quoted.text id) =
      t.write Quoted.text id := fun find hfind =>
    pass_write rfl t fun e he => written_of_sparesTags hfind (h.names e he)
      (fun a ha => Quoted.notMem_text (h.attributes e he a ha) (by decide))
      (notMem_texts h he (by decide))
  rw [stripDeclarations]
  unfold xmlDeclaration? documentType?
  rw [hspared _ (sparesTags_lineSpan (by decide) (by decide)),
    hspared _ (sparesTags_lineSpan (by decide) (by decide))]

theorem renameAttributes_write (h : t.WellFormed) (f g : List Char → List Char)
    (hg : ∀ a : Quoted, a.WellFormed → (a.rename g).WellFormed) :
    renameAttributes f (t.write (fun a => (a.rename g).text) id) =
      t.write (fun a => ((a.rename g).rename f).text) id :=
  pass_write rfl t fun e he => by
    have ha : ∀ a ∈ e.attributes, (a.rename g).WellFormed := fun a hmem =>
      hg a (h.attributes e he a hmem)
    exact written_mapTags (h.names e he) (fun a hmem => Quoted.inside_text (ha a hmem))
      (notMem_texts h he (by decide))
      (renameInTag_tag (h.names e he) fun a hmem => Quoted.turns_renameInTag (ha a hmem) f)

theorem renameToProperties_write (h : t.WellFormed) :
    renameToProperties (renameClass (t.write Quoted.text id)) =
      t.write (fun a => a.toProperty.text) id := by
  have hclass : renameClass (t.write Quoted.text id) =
      t.write (fun a => (a.rename classToProperty).text) id :=
    renameAttributes_write h classToProperty id fun a ha => ha
  rw [hclass]
  refine (renameAttributes_write h propertyName classToProperty fun a ha =>
    Quoted.wellFormed_classToProperty ha).trans ?_
  simp only [Quoted.toProperty_classToProperty]

theorem convertStyles_write (h : t.WellFormed) (hstyles : t.StylesApart) :
    convertStyles (t.write (fun a => a.toProperty.text) id) = t.write Quoted.jsx id :=
  pass_write rfl t fun e he => written_convertStyles (h.names e he)
    (fun a ha => Quoted.turns_convertStyles (h.attributes e he a ha) (hstyles e he a ha))
    (notMem_texts h he (by decide))

theorem closable_jsx (h : t.WellFormed) (hends : t.EndsApart) :
    ∀ e ∈ t.elements, Closable Quoted.jsx id e := fun e he => {
  name := h.names e he
  attributes := fun a ha =>
    ⟨Quoted.notMem_jsx (h.attributes e he a ha) (by decide),
      Quoted.notMem_jsx (h.attributes e he a ha) (by decide)⟩
  text := fun s hs => ⟨(h.texts e he s hs).1, (h.texts e he s hs).2 '<' (by decide)⟩
  last := fun d hd hclosed => hends e he d hd hclosed }

/-- All passes but the last, which only touches blanks. -/
theorem passes_write (h : t.WellFormed) (hends : t.EndsApart) (hstyles : t.StylesApart) :
    selfCloseEmpty (convertStyles (renameToProperties (renameClass
      (stripDeclarations (t.write Quoted.text id))))) = t.closePairs.write Quoted.jsx id := by
  rw [stripDeclarations_write h, renameToProperties_write h, convertStyles_write h hstyles]
  have hclear : Clear t [] := by
    intro _ m r _ htext
    exact absurd htext (by simp [endTag])
  have hclose := selfCloseEmpty_write t (closable_jsx h hends) [] hclear
  rwa [List.append_nil, show selfCloseEmpty [] = [] from rfl, List.append_nil] at hclose

end Element

/-- The markup of a tree becomes the markup of the tree with properties for attributes, literals
for styles and empty pairs closed in place, blanks collapsed. -/
theorem toJsx_write (t : Element Quoted) (h : t.WellFormed) (hends : t.EndsApart)
    (hstyles : t.StylesApart) :
    toJsx (t.write Quoted.text id) = collapseBlanks (t.closePairs.write Quoted.jsx id) := by
  rw [toJsx, Element.passes_write h hends hstyles]

/-- A drawing with a style, a class, a text and both ways to write an element without children. -/
def drawing : Element Quoted :=
  .parent "svg".toList [⟨"class".toList, "icon  big".toList⟩, ⟨"stroke-width".toList, "2".toList⟩]
    [ .parent "g".toList [⟨"style".toList, "fill: red; stroke-width: 2".toList⟩]
        [.closed "path".toList [⟨"d".toList, "M0 0 1".toList⟩] false],
      .parent "defs".toList [⟨"xlink:href".toList, "a".toList⟩] [],
      .leaf "text".toList [] "a = b".toList ]

theorem toJsx_drawing :
    drawing.WellFormed ∧ drawing.EndsApart ∧ drawing.StylesApart ∧
      toJsx (drawing.write Quoted.text id) =
        ("<svg className=\"icon big\" strokeWidth=\"2\"><g style=\x7b\x7b fill: 'red', " ++
          "strokeWidth: '2' \x7d\x7d><path d=\"M0 0 1\"/></g><defs xlink:href=\"a\" />" ++
          "<text>a = b</text></svg>").toList := by
  have h : drawing.WellFormed := by decide +kernel
  have hends : drawing.EndsApart := by decide +kernel
  have hstyles : drawing.StylesApart := by decide +kernel
  exact ⟨h, hends, hstyles, (toJsx_write drawing h hends hstyles).trans (by decide +kernel)⟩

end Markup
end SvgIcon
