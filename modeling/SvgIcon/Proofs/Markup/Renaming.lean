import SvgIcon.Proofs.Markup.Element

/-!
Tags and attributes of a printed tree.  The scan for tags finds exactly the tags that the printer
writes, and the scan for attributes exactly the quoted attributes in them, so renaming attributes
in the text is renaming them in the tree.
-/

namespace SvgIcon
namespace Markup

open Text

variable {α : Type}

/-! ## The characters of names -/

theorem exists_cons_of_isElementName {n : List Char} (h : isElementName n = true) :
    ∃ c s, n = c :: s ∧ isAsciiLetter c = true := by
  cases n with
  | nil => simp [isElementName] at h
  | cons c s =>
    simp only [isElementName, Bool.and_eq_true] at h
    exact ⟨c, s, rfl, h.1⟩

theorem isWord_of_mem_elementName {n : List Char} (h : isElementName n = true) {c : Char}
    (hc : c ∈ n) : isWord c = true := by
  cases n with
  | nil => simp at hc
  | cons d s =>
    simp only [isElementName, Bool.and_eq_true, List.all_eq_true, Bool.or_eq_true] at h
    rcases List.mem_cons.1 hc with rfl | hs
    · exact isWord_of_isAsciiLetter h.1
    · rcases h.2 c hs with hl | hd
      · exact isWord_of_isAsciiLetter hl
      · exact isWord_of_isAsciiDigit hd

theorem notMem_elementName {n : List Char} (h : isElementName n = true) {c : Char}
    (hc : isWord c = false) : c ∉ n := by
  intro hmem
  rw [isWord_of_mem_elementName h hmem] at hc
  exact Bool.noConfusion hc

theorem isNameChar_of_mem_attributeName {n : List Char} (h : isAttributeName n = true) {c : Char}
    (hc : c ∈ n) : Attribute.isNameChar c = true := by
  cases n with
  | nil => simp at hc
  | cons d s =>
    simp only [isAttributeName, Bool.and_eq_true, List.all_eq_true] at h
    rcases List.mem_cons.1 hc with rfl | hs
    · simp [Attribute.isNameChar, isWord_of_isAsciiLetter h.1]
    · exact h.2 c hs

theorem notMem_attributeName {n : List Char} (h : isAttributeName n = true) {c : Char}
    (hc : Attribute.isNameChar c = false) : c ∉ n := by
  intro hmem
  rw [isNameChar_of_mem_attributeName h hmem] at hc
  exact Bool.noConfusion hc

/-- Every end mark is a `>` behind spaces and slashes. -/
theorem Element.mark_eq (e : Element α) :
    ∃ gap, e.mark = gap ++ ['>'] ∧ ∀ c ∈ gap, c = ' ' ∨ c = '/' := by
  cases e with
  | closed n as spaced =>
    cases spaced
    · exact ⟨['/'], rfl, by simp⟩
    · exact ⟨[' ', '/'], rfl, by simp⟩
  | leaf n as s => exact ⟨[], rfl, by simp⟩
  | parent n as es => exact ⟨[], rfl, by simp⟩

theorem Element.notMem_mark (e : Element α) {c : Char} (hc : c ∉ [' ', '/', '>']) :
    c ∉ e.mark := by
  obtain ⟨gap, hmark, hgap⟩ := e.mark_eq
  rw [hmark, List.mem_append]
  rintro (hmem | hmem)
  · rcases hgap c hmem with rfl | rfl <;> simp at hc
  · simp only [List.mem_singleton] at hmem
    subst hmem
    simp at hc

theorem Element.exists_cons_tail (e : Element α) (attr : α → List Char) :
    ∃ c r, e.attributes.flatMap (fun a => ' ' :: attr a) ++ e.mark = c :: r ∧
      c ∈ [' ', '/', '>'] := by
  obtain ⟨gap, hmark, hgap⟩ := e.mark_eq
  cases e.attributes with
  | cons a as => exact ⟨' ', _, rfl, by simp⟩
  | nil =>
    rw [hmark]
    cases gap with
    | nil => exact ⟨'>', [], rfl, by simp⟩
    | cons c gap =>
      have hc := hgap c List.mem_cons_self
      exact ⟨c, _, rfl, by rcases hc with rfl | rfl <;> simp⟩

theorem notMem_tag {attr : α → List Char} {n mark : List Char} {as : List α} {c : Char}
    (hspace : c ≠ ' ') (hn : c ∉ n) (ha : ∀ a ∈ as, c ∉ attr a) (hmark : c ∉ mark) :
    c ∉ n ++ as.flatMap (fun a => ' ' :: attr a) ++ mark := by
  simp only [List.mem_append, List.mem_flatMap, List.mem_cons, not_or, not_exists, not_and]
  exact ⟨⟨hn, fun a hmem => ⟨hspace, ha a hmem⟩⟩, hmark⟩

/-! ## Tags part by part -/

section
variable {β : Type} {pass : List Char → List β} {attr : α → List Char} {e : Element α}

theorem Element.turns_mark {f : Char → List β} (hstop : Turns pass ['>'] (f '>'))
    (hslash : Turns pass ['/'] (f '/')) (hspaced : Turns pass [' ', '/'] (f ' ' ++ f '/')) :
    Turns pass e.mark (e.mark.flatMap f) := by
  have hopen : Turns pass ['>'] (['>'].flatMap f) := by
    rwa [List.flatMap_singleton]
  cases e with
  | leaf n as s => exact hopen
  | parent n as es => exact hopen
  | closed n as spaced =>
    cases spaced
    · exact hslash.append hopen
    · have hall := hspaced.append hopen
      rwa [List.append_assoc] at hall

/-- What a pass answers for a tag, put together from what it answers for its parts.  The name need
not be a part of its own, since the pass may have to look at the character behind it. -/
theorem turns_tag {attr' : α → List β} {start name mark : List β} (hstart : Turns pass ['<'] start)
    (hname : ∀ c ∈ [' ', '/', '>'], ∀ rest, pass (e.name ++ c :: rest) = name ++ pass (c :: rest))
    (ha : ∀ a ∈ e.attributes, Turns pass (' ' :: attr a) (attr' a))
    (hmark : Turns pass e.mark mark) :
    Turns pass (tag attr e.name e.attributes e.mark)
      (start ++ (name ++ e.attributes.flatMap attr' ++ mark)) := by
  have htail := (Turns.flatMap ha).append hmark
  -- the name may need the character behind it, which the tail begins with
  have hinner : Turns pass (e.name ++ e.attributes.flatMap (fun a => ' ' :: attr a) ++ e.mark)
      (name ++ e.attributes.flatMap attr' ++ mark) := by
    intro rest
    obtain ⟨c, r, hcons, hc⟩ := e.exists_cons_tail attr
    have hrest := htail rest
    rw [hcons, List.cons_append] at hrest
    rw [List.append_assoc e.name, hcons, List.append_assoc, List.cons_append, hname c hc, hrest]
    simp only [List.append_assoc]
  exact hstart.append hinner

end

/-! ## Passes that find nothing in a tree -/

/-- A recogniser that looks for something that starts with `<`, but for no tag. -/
structure SparesTags (find : Recogniser) : Prop where
  other : ∀ c, c ≠ '<' → ∀ s, find (c :: s) = none
  start : ∀ c, isAsciiLetter c = true → ∀ s, find ('<' :: c :: s) = none
  stop : ∀ c, isAsciiLetter c = true → ∀ s, find ('<' :: '/' :: c :: s) = none

theorem turns_endTag {find : Recogniser} {n : List Char} (hfind : SparesTags find)
    (hn : isElementName n = true) : Turns (rewrite find) (endTag n) (endTag n) := by
  obtain ⟨c, s, rfl, hc⟩ := exists_cons_of_isElementName hn
  have hbracket : '<' ∉ '/' :: (c :: s ++ ['>']) := by
    have hname : '<' ∉ c :: s := notMem_elementName hn (by decide)
    simpa using hname
  exact turns_rewrite_cons hbracket hfind.other fun rest => hfind.stop c hc (s ++ ['>'] ++ rest)

theorem written_of_sparesTags {find : Recogniser} {attr : α → List Char}
    {body : List Char → List Char} {e : Element α} (hfind : SparesTags find)
    (hn : isElementName e.name = true) (ha : ∀ a ∈ e.attributes, '<' ∉ attr a)
    (hs : ∀ s ∈ e.text?, '<' ∉ body s) :
    e.Written (Turns (rewrite find)) attr attr body body where
  tag := by
    obtain ⟨c, s, hname, hc⟩ := exists_cons_of_isElementName hn
    have hin := notMem_tag (by decide) (notMem_elementName hn (by decide)) ha
      (e.notMem_mark (by decide))
    rw [tag]
    rw [hname] at hin ⊢
    exact turns_rewrite_cons hin hfind.other fun rest => hfind.start c hc _
  text s hmem := by
    have hcopy : Turns (rewrite find) (body s) (body s) :=
      turns_rewrite_of_notMem (hs s hmem) hfind.other
    exact hcopy.append (turns_endTag hfind hn)
  endTag := turns_endTag hfind hn

/-! ## Tags -/

/-- A text that the scan for the end of a tag reads over. -/
def Inside (a : List Char) : Prop :=
  ∀ rest, tagEnd? none (a ++ rest) = (tagEnd? none rest).map (· + a.length)

namespace Inside

variable {a b : List Char}

theorem nil : Inside [] := fun rest => by simp

theorem append (ha : Inside a) (hb : Inside b) : Inside (a ++ b) := by
  intro rest
  rw [List.append_assoc, ha, hb, Option.map_map, List.length_append]
  congr 1
  funext n
  simp only [Function.comp]
  omega

theorem flatMap {f : α → List Char} {xs : List α} (h : ∀ x ∈ xs, Inside (f x)) :
    Inside (xs.flatMap f) := by
  induction xs with
  | nil => exact nil
  | cons x xs ih =>
    exact append (h x List.mem_cons_self) (ih fun y hy => h y (List.mem_cons_of_mem x hy))

theorem char {c : Char} (h : c ∉ ['<', '>', '"', '\'']) : Inside [c] := by
  intro rest
  simp only [List.mem_cons, List.not_mem_nil, or_false, not_or] at h
  simp [tagEnd?, h]

theorem plain (h : Lacks ['<', '>', '"', '\''] a) : Inside a := by
  induction a with
  | nil => exact nil
  | cons c a ih =>
    have hc : c ∉ ['<', '>', '"', '\''] := fun hmem => h c hmem List.mem_cons_self
    have ha : Inside a := ih fun d hd hmem => h d hd (List.mem_cons_of_mem c hmem)
    exact append (char hc) ha

theorem tagEnd?_quote {quote : Char} {v : List Char} (h : quote ∉ v) (rest : List Char) :
    tagEnd? (some quote) (v ++ quote :: rest) = (tagEnd? none rest).map (· + (v.length + 1)) := by
  induction v with
  | nil => simp [tagEnd?]
  | cons c v ih =>
    have hc : c ≠ quote := fun e => h (by simp [e])
    have hv : quote ∉ v := fun hmem => h (List.mem_cons_of_mem c hmem)
    simp only [List.cons_append, tagEnd?, hc, if_false, ih hv, Option.map_map, List.length_cons]
    congr 1

theorem quoted {v : List Char} (h : '"' ∉ v) : Inside ('"' :: (v ++ ['"'])) := by
  intro rest
  have hstep : tagEnd? none ('"' :: (v ++ '"' :: rest)) =
      (tagEnd? (some '"') (v ++ '"' :: rest)).map (· + 1) := by
    simp [tagEnd?]
  rw [List.cons_append, List.append_assoc]
  show tagEnd? none ('"' :: (v ++ '"' :: rest)) = _
  rw [hstep, tagEnd?_quote h, Option.map_map]
  congr 1
  funext n
  simp only [Function.comp, List.length_cons, List.length_append, List.length_nil]
  omega

end Inside

theorem tagLength?_tag {attr : α → List Char} {e : Element α} (hn : isElementName e.name = true)
    (ha : ∀ a ∈ e.attributes, Inside (attr a)) (rest : List Char) :
    tagLength? (tag attr e.name e.attributes e.mark ++ rest) =
      some (tag attr e.name e.attributes e.mark).length := by
  obtain ⟨c, s, hname, hc⟩ := exists_cons_of_isElementName hn
  obtain ⟨gap, hmark, hgap⟩ := e.mark_eq
  have hs : Inside s := Inside.plain fun d hd hmem => by
    have hword := isWord_of_mem_elementName hn (hname ▸ List.mem_cons_of_mem c hmem)
    simp only [List.mem_cons, List.not_mem_nil, or_false] at hd
    rcases hd with rfl | rfl | rfl | rfl <;> revert hword <;> decide
  have has : Inside (e.attributes.flatMap fun a => ' ' :: attr a) :=
    Inside.flatMap fun a hmem => Inside.append (Inside.char (by decide)) (ha a hmem)
  have hgap' : Inside gap := Inside.plain fun d hd hmem => by
    rcases hgap d hmem with rfl | rfl <;> revert hd <;> decide
  have hend : tagEnd? none ('>' :: rest) = some 1 := by simp [tagEnd?]
  have hinner := Inside.append (Inside.append hs has) hgap' ('>' :: rest)
  rw [hend, Option.map_some] at hinner
  rw [tag, hname, hmark]
  simp only [List.cons_append, List.append_assoc, List.nil_append] at hinner ⊢
  rw [tagLength?, if_pos hc, hinner]
  simp only [Option.map_some, List.length_cons, List.length_append, List.length_nil]
  congr 1
  omega

theorem written_mapTags {f : List Char → List Char} {attr attr' : α → List Char}
    {body : List Char → List Char} {e : Element α} (hn : isElementName e.name = true)
    (ha : ∀ a ∈ e.attributes, Inside (attr a)) (hs : ∀ s ∈ e.text?, '<' ∉ body s)
    (hf : f (tag attr e.name e.attributes e.mark) = tag attr' e.name e.attributes e.mark) :
    e.Written (Turns (mapTags f)) attr attr' body body := by
  have hother : ∀ c, c ≠ '<' → ∀ s, ((tagLength? (c :: s)).map fun n => (n, f ((c :: s).take n)))
      = none := by
    intro c hc s
    have : tagLength? (c :: s) = none := by
      unfold tagLength?
      split
      · rename_i heq
        exact absurd (List.cons.inj heq).1 hc
      · rfl
    rw [this, Option.map_none]
  have hbracket := notMem_elementName hn (show isWord '<' = false by decide)
  have hend : Turns (mapTags f) (endTag e.name) (endTag e.name) := by
    refine turns_rewrite_cons (by simpa using hbracket) hother fun rest => ?_
    have : tagLength? ('<' :: ('/' :: (e.name ++ ['>']) ++ rest)) = none := by
      simp [tagLength?, show isAsciiLetter '/' = false by decide]
    rw [this, Option.map_none]
  refine ⟨?_, fun s hmem => ?_, hend⟩
  · rw [← hf]
    refine turns_rewrite_match (by simp [tag]) fun rest => ?_
    rw [tagLength?_tag hn ha]
    simp
  · have hcopy : Turns (mapTags f) (body s) (body s) :=
      turns_rewrite_of_notMem (hs s hmem) hother
    exact hcopy.append hend

/-! ## Attributes -/

theorem read?_of_not_blank {c : Char} (h : isBlank c = false) (s : List Char) :
    Attribute.read? (c :: s) = none := by
  cases s <;> simp [Attribute.read?, h]

theorem read?_of_not_letter {c d : Char} (h : isAsciiLetter d = false) (s : List Char) :
    Attribute.read? (c :: d :: s) = none := by
  simp [Attribute.read?, h]

theorem renameInTag_tag {f : List Char → List Char} {attr attr' : α → List Char} {e : Element α}
    (hn : isElementName e.name = true)
    (ha : ∀ a ∈ e.attributes, Turns (renameInTag f) (' ' :: attr a) (' ' :: attr' a)) :
    renameInTag f (tag attr e.name e.attributes e.mark) =
      tag attr' e.name e.attributes e.mark := by
  have hcopy : ∀ c, isBlank c = false → Turns (renameInTag f) [c] [c] := fun c hc =>
    turns_rewrite_char fun s => by rw [read?_of_not_blank hc, Option.map_none]
  have hname : Turns (renameInTag f) e.name e.name := Turns.copy fun c hmem =>
    hcopy c (isBlank_eq_false_of_isWord (isWord_of_mem_elementName hn hmem))
  have hspaced : Turns (renameInTag f) [' ', '/'] [' ', '/'] := by
    intro rest
    have hfind : ((Attribute.read? (' ' :: '/' :: rest)).map fun a =>
        (a.text.length, (a.rename f).text)) = none := by
      rw [read?_of_not_letter (by decide), Option.map_none]
    show renameInTag f (' ' :: '/' :: rest) = _
    rw [renameInTag, rewrite_of_none hfind]
    exact congrArg (List.cons ' ') (hcopy '/' (by decide) rest)
  have hmark : Turns (renameInTag f) e.mark e.mark := by
    have hparts := e.turns_mark (f := fun c => [c]) (hcopy '>' (by decide)) (hcopy '/' (by decide))
      hspaced
    rwa [List.flatMap_singleton'] at hparts
  exact (turns_tag (hcopy '<' (by decide)) (fun c _ rest => hname (c :: rest)) ha hmark).whole rfl

theorem delimited?_quote {v : List Char} (h : '"' ∉ v) (rest : List Char) :
    Attribute.delimited? ('"' :: (v ++ '"' :: rest)) = some ('"' :: (v ++ ['"'])) := by
  rw [Attribute.delimited?, if_pos (Or.inl rfl), if_pos (by simp), takeWhile_ne h]
  rfl

namespace Quoted

theorem text_toAttribute (a : Quoted) : a.toAttribute.text = ' ' :: a.text := by
  simp [toAttribute, Attribute.text, text]

theorem text_rename_toAttribute (a : Quoted) (f : List Char → List Char) :
    (a.toAttribute.rename f).text = ' ' :: (a.rename f).text := by
  simp [toAttribute, Attribute.rename, Attribute.text, text, rename]

theorem notMem_value {a : Quoted} (h : a.WellFormed) {c : Char} (hc : c ∈ ['"', '<', '>', '=']) :
    c ∉ a.value := h.2 c hc

/-- A quoted attribute is read back as it was written, whatever follows. -/
theorem read?_text {a : Quoted} (hn : isAttributeName a.name = true) (hv : '"' ∉ a.value)
    (rest : List Char) : Attribute.read? (' ' :: a.text ++ rest) = some a.toAttribute := by
  obtain ⟨name, value⟩ := a
  cases name with
  | nil => simp [isAttributeName] at hn
  | cons c s =>
    simp only [isAttributeName, Bool.and_eq_true, List.all_eq_true] at hn
    obtain ⟨hc, hs⟩ := hn
    have htake : ∀ r, (s ++ '=' :: r).takeWhile Attribute.isNameChar = s := fun r => by
      rw [List.takeWhile_append_of_pos hs, List.takeWhile_cons_of_neg (by decide), List.append_nil]
    have hdrop : ∀ r, (s ++ '=' :: r).dropWhile Attribute.isNameChar = '=' :: r := fun r => by
      rw [List.dropWhile_append_of_pos hs, List.dropWhile_cons_of_neg (by decide)]
    have hblank : isBlank '=' = false := by decide
    have hblank' : isBlank '"' = false := by decide
    have hspace : isBlank ' ' = true := by decide
    simp only [text, List.cons_append, List.append_assoc, List.nil_append]
    simp only [Attribute.read?, hspace, hc, Bool.and_self, if_true, hdrop, htake,
      List.dropWhile_cons, List.takeWhile_cons, hblank, hblank', Bool.false_eq_true, if_false]
    rw [delimited?_quote hv]
    rfl

theorem inside_text {a : Quoted} (h : a.WellFormed) : Inside a.text := by
  have hname : Inside (a.name ++ ['=']) := Inside.plain fun c hc hmem => by
    have hnot : Attribute.isNameChar c = false ∧ c ≠ '=' := by
      simp only [List.mem_cons, List.not_mem_nil, or_false] at hc
      rcases hc with rfl | rfl | rfl | rfl <;> decide
    rcases List.mem_append.1 hmem with hmem | hmem
    · exact notMem_attributeName h.1 hnot.1 hmem
    · exact hnot.2 (by simpa using hmem)
  have hvalue : Inside ('"' :: (a.value ++ ['"'])) :=
    Inside.quoted (notMem_value h (by decide))
  simpa [text] using hname.append hvalue

theorem turns_renameInTag {a : Quoted} (h : a.WellFormed) (f : List Char → List Char) :
    Turns (renameInTag f) (' ' :: a.text) (' ' :: (a.rename f).text) := by
  refine turns_rewrite_match (by simp) fun rest => ?_
  rw [read?_text h.1 (notMem_value h (by decide)), Option.map_some, text_toAttribute,
    text_rename_toAttribute]

end Quoted

end Markup
end SvgIcon
