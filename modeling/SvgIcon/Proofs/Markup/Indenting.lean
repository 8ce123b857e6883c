import SvgIcon.Proofs.Markup.Laying

/-!
The layout of a tree that is written on one line.  The layout has no stack of open elements, only a
depth and the kinds of the lines; but each element's own lines leave the depth as they find it, so
the depth in front of a line is the number of elements around it.
-/

namespace SvgIcon
namespace Markup

open Text

variable {α : Type}

/-! ## The kinds of lines -/

theorem not_isClosingTag {s : List Char} (h : '<' ∉ s) : isClosingTag s = false := by
  unfold isClosingTag
  split
  · simp at h
  · rfl

/-- Only a `<` behind the first character can begin the closing tag at the end of a line. -/
theorem not_endsInClosingTag {c : Char} {s : List Char} (h : '<' ∉ s) :
    endsInClosingTag (c :: s) = false := by
  induction s generalizing c with
  | nil => simp [endsInClosingTag, isClosingTag]
  | cons d s ih =>
    have hrest := ih (c := d) fun hmem => h (List.mem_cons_of_mem d hmem)
    rw [endsInClosingTag, not_isClosingTag h, hrest]
    simp

theorem isClosingTag_endTag {c : Char} {s : List Char} (hc : isWord c = true) (hs : '>' ∉ s) :
    isClosingTag (endTag (c :: s)) = true := by
  have hstop : (s ++ ['>']).dropWhile (· ≠ '>') = ['>'] := dropWhile_ne hs []
  rw [endTag, List.cons_append, isClosingTag, hstop, hc]
  rfl

theorem endsInClosingTag_append {a s : List Char} (hs : isClosingTag s = true) (ha : a ≠ [])
    (hfeed : '\n' ∉ a) : endsInClosingTag (a ++ s) = true := by
  induction a with
  | nil => exact absurd rfl ha
  | cons c a ih =>
    have hc : c ≠ '\n' := fun heq => hfeed (by simp [heq])
    rw [List.cons_append, endsInClosingTag]
    cases a with
    | nil => simp [hc, hs]
    | cons d a =>
      rw [ih (by simp) fun hmem => hfeed (List.mem_cons_of_mem c hmem), Bool.or_true]

/-- A tag on a line of its own opens, unless a slash stands before its end. -/
theorem startsWithOpeningTag_tag {c : Char} {s : List Char} (hc : isWord c = true) (hs : '>' ∉ s) :
    startsWithOpeningTag ('<' :: c :: (s ++ ['>'])) = decide (s.getLast? ≠ some '/') := by
  have hfront : (s ++ ['>']).takeWhile (· ≠ '>') = s := takeWhile_ne hs []
  have hstop : (s ++ ['>']).dropWhile (· ≠ '>') = ['>'] := dropWhile_ne hs []
  rw [startsWithOpeningTag, hfront, hstop, hc]
  simp [isOneLine, atLineEnd]

theorem lineKind_tag {c : Char} {s : List Char} (hc : isWord c = true) (hs : Lacks ['<', '>'] s) :
    lineKind ('<' :: c :: (s ++ ['>'])) = if s.getLast? = some '/' then .level else .opening := by
  have hopen := hs '<' (by decide)
  have hne : c ≠ '<' ∧ c ≠ '/' := by
    constructor <;> rintro rfl <;> exact absurd hc (by decide)
  have hends : endsInClosingTag ('<' :: c :: (s ++ ['>'])) = false :=
    not_endsInClosingTag (by simp [hopen, hne.1.symm])
  have hstart : startsWithClosingTag ('<' :: c :: (s ++ ['>'])) = false := by
    unfold startsWithClosingTag
    split
    · rename_i heq
      exact absurd (List.cons.inj (List.cons.inj heq).2).1 hne.2
    · rfl
  rw [lineKind, hends, hstart, startsWithOpeningTag_tag hc (hs '>' (by decide))]
  by_cases h : s.getLast? = some '/' <;> simp [h]

theorem lineKind_endTag {c : Char} {s : List Char} (hc : isWord c = true) (hs : '<' ∉ s) :
    lineKind (endTag (c :: s)) = .closing := by
  have hne : c ≠ '<' := by
    rintro rfl
    exact absurd hc (by decide)
  have hends : endsInClosingTag (endTag (c :: s)) = false :=
    not_endsInClosingTag (by simp [hs, hne.symm])
  have hstart : startsWithClosingTag (endTag (c :: s)) = true := hc
  rw [lineKind, hends, hstart]
  rfl

theorem lineKind_level {a s : List Char} (hs : isClosingTag s = true) (ha : a ≠ [])
    (hfeed : '\n' ∉ a) : lineKind (a ++ s) = .level := by
  rw [lineKind, endsInClosingTag_append hs ha hfeed, if_pos rfl]

/-! ## Depths -/

/-- Lines that come out as the second ones if they start at a depth, and end at the same. -/
def Lays (depth : Nat) (ls out : List (List Char)) : Prop :=
  indentLines depth ls = out ∧ depthAfter depth ls = depth

namespace Lays

variable {depth : Nat} {ls ls' out out' : List (List Char)} {l k : List Char}

theorem nil (depth : Nat) : Lays depth [] [] := ⟨rfl, rfl⟩

theorem append (h : Lays depth ls out) (h' : Lays depth ls' out') :
    Lays depth (ls ++ ls') (out ++ out') := by
  constructor
  · rw [indentLines_append, h.1, h.2, h'.1]
  · rw [depthAfter_append, h.2, h'.2]

theorem level (hne : l ≠ []) (hl : lineKind l = .level) : Lays depth [l] [indent depth ++ l] := by
  constructor
  · rw [indentLines_cons hne, hl]
    rfl
  · rw [depthAfter, if_neg hne, hl]
    rfl

/-- What stands between an opening and a closing line is one level deeper. -/
theorem nested (hopen : lineKind l = .opening) (hclose : lineKind k = .closing) (hl : l ≠ [])
    (hk : k ≠ []) (h : Lays (depth + 1) ls out) :
    Lays depth (l :: (ls ++ [k])) ((indent depth ++ l) :: (out ++ [indent depth ++ k])) := by
  constructor
  · rw [indentLines_cons hl, hopen]
    show (indent depth ++ l) :: indentLines (depth + 1) (ls ++ [k]) = _
    rw [indentLines_append, h.1, h.2, indentLines_cons hk, hclose]
    rfl
  · rw [depthAfter, if_neg hl, hopen]
    show depthAfter (depth + 1) (ls ++ [k]) = depth
    rw [depthAfter_append, h.2, depthAfter, if_neg hk, hclose]
    rfl

end Lays

/-! ## The layout of a tree -/

/-- An ASCII letter, then letters and numbers of any script and `_`. -/
def isTagName : List Char → Bool
  | [] => false
  | c :: s => isAsciiLetter c && s.all isWord

theorem isWord_of_mem_tagName {n : List Char} (h : isTagName n = true) {c : Char} (hc : c ∈ n) :
    isWord c = true := by
  cases n with
  | nil => exact absurd hc List.not_mem_nil
  | cons d s =>
    simp only [isTagName, Bool.and_eq_true, List.all_eq_true] at h
    rcases List.mem_cons.1 hc with rfl | hs
    · exact isWord_of_isAsciiLetter h.1
    · exact h.2 c hs

theorem exists_cons_of_isTagName {n : List Char} (h : isTagName n = true) :
    ∃ c s, n = c :: s ∧ isWord c = true ∧ ∀ d, isWord d = false → d ∉ s := by
  cases n with
  | nil => exact Bool.noConfusion h
  | cons c s =>
    have hword := fun d => isWord_of_mem_tagName h (c := d)
    refine ⟨c, s, rfl, hword c List.mem_cons_self, fun d hd hmem => ?_⟩
    rw [hword d (List.mem_cons_of_mem c hmem)] at hd
    exact Bool.noConfusion hd

namespace Element

section
variable (attr : α → List Char) (body : List Char → List Char)

mutual
/-- The lines of a tree that stands at a depth: each tag that stands alone, and each element with a
text, on a line of its own, behind two spaces for each element around it. -/
def indented (depth : Nat) : Element α → List (List Char)
  | closed n as spaced => [indent depth ++ tag attr n as (closeMark spaced)]
  | leaf n as s => [indent depth ++ (tag attr n as openMark ++ (body s ++ endTag n))]
  | parent n as es =>
    (indent depth ++ tag attr n as openMark) ::
      (indentedOf (depth + 1) es ++ [indent depth ++ endTag n])

def indentedOf (depth : Nat) : List (Element α) → List (List Char)
  | [] => []
  | e :: es => indented depth e ++ indentedOf depth es
end

end

variable {attr : α → List Char} {body : List Char → List Char}

/-- An element whose tags and text hold no angle bracket and no line feed of their own. -/
structure Upright (attr : α → List Char) (body : List Char → List Char) (e : Element α) : Prop where
  name : isTagName e.name = true
  attributes : ∀ a ∈ e.attributes, Lacks ['<', '>', '\n'] (attr a) ∧ (attr a).getLast? ≠ some '/'
  text : ∀ s ∈ e.text?, body s ≠ [] ∧ Lacks ['<', '>', '\n'] (body s)

theorem getLast?_flatMap_ne {f : α → List Char} {as : List α} {r : List Char} {c : Char}
    (hr : r.getLast? ≠ some c) (h : ∀ a ∈ as, (f a).getLast? ≠ some c) :
    (r ++ as.flatMap f).getLast? ≠ some c := by
  induction as generalizing r with
  | nil => simpa using hr
  | cons a as ih =>
    have hfirst : (r ++ f a).getLast? ≠ some c := by
      rw [List.getLast?_append]
      cases hlast : (f a).getLast? with
      | none => simpa using hr
      | some d => simpa [hlast] using h a List.mem_cons_self
    have hrest := ih hfirst fun b hb => h b (List.mem_cons_of_mem a hb)
    rwa [List.flatMap_cons, ← List.append_assoc]

namespace Upright

variable {e : Element α}

/-- The tag of an element up to its mark. -/
theorem exists_front (h : e.Upright attr body) : ∃ c r, isWord c = true ∧
    Lacks ['<', '>', '\n'] (c :: r) ∧ r.getLast? ≠ some '/' ∧
    ∀ mark, tag attr e.name e.attributes mark = '<' :: c :: (r ++ mark) := by
  obtain ⟨c, s, hname, hc, hs⟩ := exists_cons_of_isTagName h.name
  refine ⟨c, s ++ e.attributes.flatMap (fun a => ' ' :: attr a), hc, ?_, ?_, fun mark => ?_⟩
  · intro d hd
    have hword : isWord d = false ∧ d ≠ ' ' := by
      simp only [List.mem_cons, List.not_mem_nil, or_false] at hd
      rcases hd with rfl | rfl | rfl <;> decide
    have hne : d ≠ c := by
      rintro rfl
      exact absurd hc (by simp [hword.1])
    have htag : d ∉ s ++ e.attributes.flatMap (fun a => ' ' :: attr a) ++ [] :=
      notMem_tag hword.2 (hs d hword.1) (fun a ha => (h.attributes a ha).1 d hd) List.not_mem_nil
    simpa [hne] using htag
  · refine getLast?_flatMap_ne ?_ fun a ha => ?_
    · intro hlast
      exact hs '/' (by decide) (List.mem_of_getLast? hlast)
    · rw [List.getLast?_cons]
      cases hlast : (attr a).getLast? with
      | none => simp
      | some d => simpa [hlast] using (h.attributes a ha).2
  · rw [tag, hname]
    simp

theorem lined (h : e.Upright attr body) : e.Lined IsLine attr body :=
  lined_of_lacks (fun _ => isWord_of_mem_tagName h.name)
    (fun a ha c hc => (h.attributes a ha).1 c (List.mem_cons_of_mem _ hc)) h.text

theorem lineKind_open (h : e.Upright attr body) :
    lineKind (tag attr e.name e.attributes openMark) = .opening := by
  obtain ⟨c, r, hc, hfront, hlast, htag⟩ := h.exists_front
  have hr : Lacks ['<', '>'] r := fun d hd hmem =>
    hfront d (List.mem_append_left ['\n'] hd) (List.mem_cons_of_mem c hmem)
  rw [htag, openMark, lineKind_tag hc hr, if_neg hlast]

theorem lineKind_closed (h : e.Upright attr body) (spaced : Bool) :
    lineKind (tag attr e.name e.attributes (closeMark spaced)) = .level := by
  obtain ⟨c, r, hc, hfront, _, htag⟩ := h.exists_front
  obtain ⟨gap, hmark, hgap⟩ : ∃ gap, closeMark spaced = gap ++ '/' :: ['>'] ∧ Lacks ['<', '>'] gap :=
    match spaced with
    | true => ⟨[' '], rfl, by decide⟩
    | false => ⟨[], rfl, by decide⟩
  have hr : Lacks ['<', '>'] (r ++ gap ++ ['/']) := by
    intro d hd
    have hin := hfront d (List.mem_append_left ['\n'] hd)
    have hslash : d ≠ '/' := by
      rintro rfl
      exact absurd hd (by decide)
    simp only [List.mem_cons, not_or] at hin
    simp [hin.2, hgap d hd, hslash]
  have hline := lineKind_tag hc hr
  rw [htag, hmark]
  simpa using hline

theorem lineKind_text (h : e.Upright attr body) {s : List Char} (hs : s ∈ e.text?) :
    lineKind (tag attr e.name e.attributes openMark ++ (body s ++ Markup.endTag e.name)) =
      .level := by
  obtain ⟨c, r, _, hfront, _, htag⟩ := h.exists_front
  obtain ⟨d, u, hname, hd, hu⟩ := exists_cons_of_isTagName h.name
  have hclosing : isClosingTag (Markup.endTag e.name) = true := by
    rw [hname]
    exact isClosingTag_endTag hd (hu '>' (by decide))
  have hfeed := hfront '\n' (by decide)
  have htext := (h.text s hs).2 '\n' (by decide)
  rw [← List.append_assoc]
  refine lineKind_level hclosing (by simp [tag]) ?_
  rw [htag, openMark]
  simpa [htext] using hfeed

theorem lineKind_end (h : e.Upright attr body) : lineKind (Markup.endTag e.name) = .closing := by
  obtain ⟨c, s, hname, hc, hs⟩ := exists_cons_of_isTagName h.name
  rw [hname]
  exact lineKind_endTag hc (hs '<' (by decide))

end Upright

/-! ## Trees -/

mutual
theorem lays_lines (t : Element α) (h : ∀ e ∈ t.elements, e.Upright attr body) (depth : Nat) :
    Lays depth (t.lines attr body) (t.indented attr body depth) := by
  have hself := h t (mem_elements_self t)
  cases t with
  | closed n as spaced => exact .level (by simp [tag]) (hself.lineKind_closed spaced)
  | leaf n as s => exact .level (by simp [tag]) (hself.lineKind_text rfl)
  | parent n as es =>
    exact .nested hself.lineKind_open hself.lineKind_end (by simp [tag]) (by simp [endTag])
      (lays_linesOf es (fun e he => h e (List.mem_cons_of_mem _ he)) (depth + 1))

theorem lays_linesOf (es : List (Element α)) (h : ∀ e ∈ elementsOf es, e.Upright attr body)
    (depth : Nat) : Lays depth (linesOf attr body es) (indentedOf attr body depth es) := by
  cases es with
  | nil => exact .nil depth
  | cons e es =>
    exact .append (lays_lines e (fun d hd => h d (List.mem_append_left _ hd)) depth)
      (lays_linesOf es (fun d hd => h d (List.mem_append_right _ hd)) depth)
end

end Element

/-- A tree of plain names, with attributes and texts that hold no angle bracket and no line feed; a
text is not empty. -/
structure Element.SingleLine (t : Element Quoted) : Prop where
  names : ∀ e ∈ t.elements, isTagName e.name
  attributes : ∀ e ∈ t.elements, ∀ a ∈ e.attributes,
    Lacks ['<', '>', '\n'] a.name ∧ Lacks ['<', '>', '\n'] a.value
  texts : ∀ e ∈ t.elements, ∀ s ∈ e.text?, s ≠ [] ∧ Lacks ['<', '>', '\n'] s

instance (t : Element Quoted) : Decidable t.SingleLine :=
  decidable_of_iff
    ((∀ e ∈ t.elements, isTagName e.name) ∧
      (∀ e ∈ t.elements, ∀ a ∈ e.attributes,
        Lacks ['<', '>', '\n'] a.name ∧ Lacks ['<', '>', '\n'] a.value) ∧
      ∀ e ∈ t.elements, ∀ s ∈ e.text?, s ≠ [] ∧ Lacks ['<', '>', '\n'] s)
    ⟨fun h => ⟨h.1, h.2.1, h.2.2⟩, fun h => ⟨h.names, h.attributes, h.texts⟩⟩

theorem Element.SingleLine.upright {t e : Element Quoted} (h : t.SingleLine)
    (he : e ∈ t.elements) : e.Upright Quoted.text id where
  name := h.names e he
  attributes a ha := by
    refine ⟨fun c hc => ?_, ?_⟩
    · obtain ⟨hname, hvalue⟩ := h.attributes e he a ha
      have hmark : c ∉ ['=', '"'] := by
        simp only [List.mem_cons, List.not_mem_nil, or_false] at hc
        rcases hc with rfl | rfl | rfl <;> decide
      simp only [List.mem_cons, List.not_mem_nil, or_false, not_or] at hmark
      simp [Quoted.text, hname c hc, hvalue c hc, hmark]
    · simp [Quoted.text, List.getLast?_cons]
  text := h.texts e he

/-- The text of a tree, all on one line, is laid out as the tree is nested, and behind its last line
the depth is zero again. -/
theorem layout_write (t : Element Quoted) (h : t.SingleLine) :
    layout (t.write Quoted.text id) = join ['\n'] (t.indented Quoted.text id 0) ∧
      depthAfter 0 (brokenLines (t.write Quoted.text id)) = 0 := by
  have hlines := Element.forall_lines t fun e he => (h.upright he).lined
  have hne := Element.lines_ne_nil Quoted.text id t
  obtain ⟨hlaid, hdepth⟩ := Element.lays_lines t (fun e he => h.upright he) 0
  rw [← Element.flatten_lines, layout_flatten hne hlines, brokenLines_flatten hne hlines]
  exact ⟨by rw [hlaid], hdepth⟩

/-- An element closed in place, one with a text, and an empty one, all with names of one letter but
for the root. -/
def banner : Element Quoted :=
  .parent "svg".toList [⟨"id".toList, "x/".toList⟩] [
    .parent "g".toList [] [.closed "p".toList [⟨"d".toList, "M0 / 1".toList⟩] false],
    .leaf "t".toList [] " a / b ".toList,
    .parent "g".toList [] []]

theorem layout_write_banner :
    banner.SingleLine ∧
    banner.write Quoted.text id =
      "<svg id=\"x/\"><g><p d=\"M0 / 1\"/></g><t> a / b </t><g></g></svg>".toList ∧
    banner.indented Quoted.text id 0 =
      ["<svg id=\"x/\">".toList, "  <g>".toList, "    <p d=\"M0 / 1\"/>".toList, "  </g>".toList,
        "  <t> a / b </t>".toList, "  <g>".toList, "  </g>".toList, "</svg>".toList] ∧
    layout (banner.write Quoted.text id) = join ['\n'] (banner.indented Quoted.text id 0) ∧
    depthAfter 0 (brokenLines (banner.write Quoted.text id)) = 0 := by
  have hbanner : banner.SingleLine := by decide
  exact ⟨hbanner, rfl, rfl, layout_write banner hbanner⟩

end Markup
end SvgIcon
