import SvgIcon.Markup.Jsx
import SvgIcon.Proofs.Markup.Renaming

/-!
Empty elements of a printed tree, closed in place.  Whether a tag and what stands behind it are
taken for a pair depends on the text that follows, so the induction over the tree carries the
text behind each element.  A tag that closes its element can be taken for the start of a pair only
if its parent's end tag stands right behind it and names a front part of its name.
-/

namespace SvgIcon
namespace Markup

open Text

variable {α : Type}

/-! ## Where a pair starts -/

theorem emptyPair?_of_ne {c : Char} (h : c ≠ '<') (s : List Char) : emptyPair? (c :: s) = none := by
  unfold emptyPair?
  split
  · rename_i heq
    exact absurd (List.cons.inj heq).1 h
  · rfl

theorem emptyPair?_slash (s : List Char) : emptyPair? ('<' :: '/' :: s) = none := by
  -- no word stands behind the bracket, and a pair needs a name
  have hword : ('/' :: s).takeWhile isWord = [] := by
    rw [List.takeWhile_cons_of_neg (by decide)]
  simp only [emptyPair?, hword]
  split
  · split
    · rename_i r _ hpair
      simp only [Bool.and_eq_true, Bool.not_eq_true', List.isEmpty_eq_false_iff] at hpair
      exact absurd (List.prefix_nil.1 (List.isPrefixOf_iff_prefix.1 hpair.2)) hpair.1.2
    · rfl
  · rfl

theorem endTag_inj {m n r s : List Char} (hm : '>' ∉ m) (hn : '>' ∉ n)
    (h : endTag m ++ r = endTag n ++ s) : m = n := by
  simp only [endTag, List.cons_append, List.append_assoc, List.nil_append, List.cons.injEq,
    true_and] at h
  have hfront := congrArg (List.takeWhile (fun d => decide (d ≠ '>'))) h
  rwa [takeWhile_ne hm, takeWhile_ne hn] at hfront

theorem emptyPair?_of_open {x rest : List Char} (hx : '>' ∉ x)
    (hrest : ¬ ∃ m r, '>' ∉ m ∧ rest = endTag m ++ r) :
    emptyPair? ('<' :: (x ++ '>' :: rest)) = none := by
  simp only [emptyPair?, dropWhile_ne hx]
  split
  · rename_i r heq
    split
    · rename_i hpair
      simp only [Bool.and_eq_true] at hpair
      refine absurd ?_ hrest
      have hmem : '>' ∈ r := by simpa using hpair.1.1
      obtain ⟨m, u, hr, hm⟩ := List.eq_append_cons_of_mem hmem
      exact ⟨m, u, hm, by rw [(List.cons.inj heq).2, hr]; simp [endTag]⟩
    · rfl
  · rfl

/-- A tag with an end tag right behind it starts a pair if the end tag names a front part of the
tag's first word. -/
theorem emptyPair?_end {x m : List Char} (hx : '>' ∉ x) (hm : '>' ∉ m) (rest : List Char) :
    emptyPair? ('<' :: (x ++ '>' :: (endTag m ++ rest))) =
      if m ≠ [] ∧ m <+: (x ++ ['>']).takeWhile isWord then
        some (x.length + m.length + 5, '<' :: (x ++ [' ', '/', '>']))
      else none := by
  have htext : endTag m ++ rest = '<' :: '/' :: (m ++ '>' :: rest) := by simp [endTag]
  have hword : (x ++ '>' :: '<' :: '/' :: (m ++ '>' :: rest)).takeWhile isWord =
      (x ++ ['>']).takeWhile isWord := by
    have hstop : isWord '>' = false := by decide
    simp [List.takeWhile_append, hstop]
  have hcontains : (m ++ '>' :: rest).contains '>' = true := by simp
  rw [htext]
  simp only [emptyPair?, dropWhile_ne hx, takeWhile_ne hx, takeWhile_ne hm, hword, hcontains,
    Bool.true_and, Bool.and_eq_true, Bool.not_eq_true', List.isEmpty_eq_false_iff,
    List.isPrefixOf_iff_prefix]
  rfl

theorem takeWhile_isWord_tag {attr : α → List Char} {e : Element α} {gap : List Char}
    (hn : isElementName e.name = true) (hmark : e.mark = gap ++ ['>']) :
    (e.name ++ e.attributes.flatMap (fun a => ' ' :: attr a) ++ gap ++ ['>']).takeWhile isWord =
      e.name := by
  obtain ⟨c, r, hcons, hc⟩ := e.exists_cons_tail attr
  have hword : ∀ d ∈ e.name, isWord d = true := fun d hd => isWord_of_mem_elementName hn hd
  have hstop : isWord c = false := by
    simp only [List.mem_cons, List.not_mem_nil, or_false] at hc
    rcases hc with rfl | rfl | rfl <;> decide
  rw [hmark] at hcons
  rw [List.append_assoc, List.append_assoc, hcons, List.takeWhile_append_of_pos hword,
    List.takeWhile_cons_of_neg (by simp [hstop]), List.append_nil]

/-! ## Closing pairs along a tree -/

namespace Element

/-- What has to be known of an element, apart from its children, for its tags to be told apart. -/
structure Closable (attr : α → List Char) (body : List Char → List Char) (e : Element α) :
    Prop where
  name : isElementName e.name = true
  attributes : ∀ a ∈ e.attributes, '<' ∉ attr a ∧ '>' ∉ attr a
  text : ∀ s ∈ e.text?, body s ≠ [] ∧ '<' ∉ body s
  last : ∀ d ∈ e.children.getLast?, d.isClosed = true → ¬ e.name <+: d.name

/-- The text behind an element is no end tag that the element could be paired with. -/
def Clear (e : Element α) (rest : List Char) : Prop :=
  e.isClosed = true → ∀ m r, '>' ∉ m → rest = endTag m ++ r → ¬ m <+: e.name

variable {attr : α → List Char} {body : List Char → List Char} {e : Element α}

/-- A tag without its brackets. -/
def inner (attr : α → List Char) (e : Element α) (gap : List Char) : List Char :=
  e.name ++ e.attributes.flatMap (fun a => ' ' :: attr a) ++ gap

theorem tag_eq_inner {gap : List Char} (hmark : e.mark = gap ++ ['>']) (rest : List Char) :
    tag attr e.name e.attributes e.mark ++ rest = '<' :: (inner attr e gap ++ '>' :: rest) := by
  simp [tag, inner, hmark]

theorem notMem_inner (h : Closable attr body e) {gap : List Char}
    (hgap : ∀ c ∈ gap, c = ' ' ∨ c = '/') :
    '<' ∉ inner attr e gap ∧ '>' ∉ inner attr e gap := by
  have hin : ∀ c, c ∉ [' ', '/'] → isWord c = false → (∀ a ∈ e.attributes, c ∉ attr a) →
      c ∉ inner attr e gap := by
    intro c hc hword hattr
    refine notMem_tag (by rintro rfl; simp at hc) (notMem_elementName h.name hword) hattr ?_
    intro hmem
    rcases hgap c hmem with rfl | rfl <;> simp at hc
  exact ⟨hin '<' (by decide) (by decide) fun a ha => (h.attributes a ha).1,
    hin '>' (by decide) (by decide) fun a ha => (h.attributes a ha).2⟩

theorem selfCloseEmpty_tag (h : Closable attr body e) {rest : List Char}
    (hnone : emptyPair? (tag attr e.name e.attributes e.mark ++ rest) = none) :
    selfCloseEmpty (tag attr e.name e.attributes e.mark ++ rest) =
      tag attr e.name e.attributes e.mark ++ selfCloseEmpty rest := by
  obtain ⟨gap, hmark, hgap⟩ := e.mark_eq
  have hbracket : '<' ∉ inner attr e gap ++ ['>'] := by
    simpa using (notMem_inner h hgap).1
  have hcopy : Turns selfCloseEmpty (inner attr e gap ++ ['>']) (inner attr e gap ++ ['>']) :=
    turns_rewrite_of_notMem hbracket fun _ => emptyPair?_of_ne
  rw [tag_eq_inner hmark] at hnone ⊢
  rw [selfCloseEmpty, rewrite_of_none hnone, tag_eq_inner hmark]
  have hrest := hcopy rest
  simp only [List.append_assoc, List.cons_append, List.nil_append] at hrest
  exact congrArg (List.cons '<') hrest

theorem turns_selfCloseEmpty_endTag {n : List Char} (hn : isElementName n = true) :
    Turns selfCloseEmpty (endTag n) (endTag n) := by
  have hbracket : '<' ∉ '/' :: (n ++ ['>']) := by
    have hname : '<' ∉ n := notMem_elementName hn (by decide)
    simpa using hname
  exact turns_rewrite_cons hbracket (fun _ => emptyPair?_of_ne) fun rest => emptyPair?_slash _

theorem turns_selfCloseEmpty_pair {n : List Char} {as : List α}
    (h : Closable attr body (parent n as [])) :
    Turns selfCloseEmpty (tag attr n as openMark ++ endTag n) (tag attr n as (closeMark true)) := by
  have hmark : (parent n as []).mark = [] ++ ['>'] := rfl
  have hinner : '<' ∉ inner attr (parent n as []) [] ∧ '>' ∉ inner attr (parent n as []) [] :=
    notMem_inner h (by simp)
  have hn : isElementName n = true := h.name
  have hend : '>' ∉ n := notMem_elementName hn (by decide)
  have hname : n ≠ [] := by
    rintro rfl
    exact absurd hn (by decide)
  have hword : (inner attr (parent n as []) [] ++ ['>']).takeWhile isWord = n :=
    takeWhile_isWord_tag h.name hmark
  refine turns_rewrite_match (by simp [tag]) fun rest => ?_
  have htext : tag attr n as openMark ++ (endTag n ++ rest) =
      '<' :: (inner attr (parent n as []) [] ++ '>' :: (endTag n ++ rest)) := tag_eq_inner hmark _
  rw [List.append_assoc]
  refine (congrArg emptyPair? htext).trans ?_
  rw [emptyPair?_end hinner.2 hend, hword,
    if_pos ⟨hname, List.prefix_rfl⟩]
  simp only [tag, inner, endTag, openMark, closeMark, name, attributes, List.length_cons,
    List.length_append, List.length_nil, List.append_nil, if_true]
  congr 2
  omega

/-- A tag with no end tag that it could be paired with behind it is copied. -/
theorem selfCloseEmpty_of_clear (h : Closable attr body e) {rest : List Char}
    (hrest : ∀ m r, '>' ∉ m → rest = endTag m ++ r → ¬ m <+: e.name) :
    selfCloseEmpty (tag attr e.name e.attributes e.mark ++ rest) =
      tag attr e.name e.attributes e.mark ++ selfCloseEmpty rest := by
  obtain ⟨gap, hmark, hgap⟩ := e.mark_eq
  have hinner := (notMem_inner h hgap).2
  refine selfCloseEmpty_tag h ?_
  rw [tag_eq_inner hmark]
  by_cases hend : ∃ m r, '>' ∉ m ∧ rest = endTag m ++ r
  · obtain ⟨m, r, hm, rfl⟩ := hend
    have hword : (inner attr e gap ++ ['>']).takeWhile isWord = e.name :=
      takeWhile_isWord_tag h.name hmark
    rw [emptyPair?_end hinner hm, hword, if_neg fun hpair => hrest m r hm rfl hpair.2]
  · exact emptyPair?_of_open hinner hend

theorem Closable.write_eq_cons (h : Closable attr body e) :
    ∃ c r, e.write attr body = '<' :: c :: r ∧ isAsciiLetter c = true := by
  obtain ⟨c, s, hname, hc⟩ := exists_cons_of_isElementName h.name
  cases e with
  | closed n as spaced =>
    obtain rfl : n = c :: s := hname
    exact ⟨c, _, rfl, hc⟩
  | leaf n as t =>
    obtain rfl : n = c :: s := hname
    exact ⟨c, _, rfl, hc⟩
  | parent n as es =>
    obtain rfl : n = c :: s := hname
    exact ⟨c, _, rfl, hc⟩

theorem not_endTag_of_letter {c : Char} {s : List Char} (hc : isAsciiLetter c = true)
    (m r : List Char) : '<' :: c :: s ≠ endTag m ++ r := by
  intro h
  have hslash : c = '/' := (List.cons.inj (List.cons.inj h).2).1
  rw [hslash] at hc
  exact absurd hc (by decide)

theorem Closable.writeAll_ne_endTag {d : Element α} (h : Closable attr body d)
    (es : List (Element α)) (rest m r : List Char) :
    writeAll attr body (d :: es) ++ rest ≠ endTag m ++ r := by
  obtain ⟨c, u, hcons, hc⟩ := h.write_eq_cons
  rw [writeAll, hcons]
  exact not_endTag_of_letter hc m r

mutual
/-- Closing pairs in the text of a tree is closing them in the tree. -/
theorem selfCloseEmpty_write (t : Element α) (h : ∀ e ∈ t.elements, Closable attr body e)
    (rest : List Char) (hrest : Clear t rest) :
    selfCloseEmpty (t.write attr body ++ rest) =
      t.closePairs.write attr body ++ selfCloseEmpty rest := by
  have hself := h t (mem_elements_self t)
  cases t with
  | closed n as spaced => exact selfCloseEmpty_of_clear hself (hrest rfl)
  | leaf n as s =>
    obtain ⟨hne, hbracket⟩ := hself.text s rfl
    have hcopy : Turns selfCloseEmpty (body s) (body s) :=
      turns_rewrite_of_notMem hbracket fun _ => emptyPair?_of_ne
    have hfirst : ∀ m r, '>' ∉ m → body s ++ (endTag n ++ rest) = endTag m ++ r →
        ¬ m <+: (leaf n as s).name := by
      intro m r _ htext
      obtain ⟨c, u, hcons⟩ := List.exists_cons_of_ne_nil hne
      rw [hcons] at htext hbracket
      exact absurd (List.cons.inj htext).1 fun e => hbracket (by simp [e])
    have htag := selfCloseEmpty_of_clear hself hfirst
    have hend : Turns selfCloseEmpty (endTag n) (endTag n) :=
      turns_selfCloseEmpty_endTag hself.name
    have hbody := hcopy.append hend
    simp only [write, closePairs, List.append_assoc]
    refine htag.trans (congrArg _ ?_)
    simpa using hbody rest
  | parent n as es =>
    have hend : Turns selfCloseEmpty (endTag n) (endTag n) :=
      turns_selfCloseEmpty_endTag hself.name
    cases es with
    | nil =>
      have hpair := turns_selfCloseEmpty_pair hself rest
      simpa [write, writeAll, closePairs] using hpair
    | cons d es =>
      have hin : ∀ e ∈ elementsOf (d :: es), Closable attr body e :=
        fun e he => h e (List.mem_cons_of_mem _ he)
      -- the end tag behind the last child is its parent's, which it is not to be paired with
      have hlast : ∀ x ∈ (d :: es).getLast?, Clear x (endTag n ++ rest) := by
        intro x hx hclosed m r hm htext
        have hmn : m = n := endTag_inj hm (notMem_elementName hself.name (by decide)) htext.symm
        rw [hmn]
        exact hself.last x hx hclosed
      have hchildren := selfCloseEmpty_writeAll (d :: es) hin (endTag n ++ rest) hlast
      have hfirst : ∀ m r, '>' ∉ m → writeAll attr body (d :: es) ++ (endTag n ++ rest) =
          endTag m ++ r → ¬ m <+: (parent n as (d :: es)).name := by
        intro m r _ htext
        have hd := hin d (List.mem_append_left _ (mem_elements_self d))
        exact absurd htext (hd.writeAll_ne_endTag es _ m r)
      have htag := selfCloseEmpty_of_clear hself hfirst
      have hclose : (parent n as (d :: es)).closePairs = parent n as (closePairsIn (d :: es)) := by
        simp [closePairs]
      rw [hclose]
      simp only [write, List.append_assoc]
      refine htag.trans (congrArg _ ?_)
      rw [hchildren, hend rest]

theorem selfCloseEmpty_writeAll (es : List (Element α))
    (h : ∀ e ∈ elementsOf es, Closable attr body e) (rest : List Char)
    (hlast : ∀ d ∈ es.getLast?, Clear d rest) :
    selfCloseEmpty (writeAll attr body es ++ rest) =
      writeAll attr body (closePairsIn es) ++ selfCloseEmpty rest := by
  cases es with
  | nil => rfl
  | cons e es =>
    have hin : ∀ d ∈ elementsOf es, Closable attr body d :=
      fun d hd => h d (List.mem_append_right _ hd)
    -- behind any other child stands the next one, which starts with no end tag
    have hclear : Clear e (writeAll attr body es ++ rest) := by
      cases es with
      | nil => exact hlast e rfl
      | cons d es =>
        intro _ m r _ htext
        have hd := hin d (List.mem_append_left _ (mem_elements_self d))
        exact absurd htext (hd.writeAll_ne_endTag es _ m r)
    have hlast' : ∀ d ∈ es.getLast?, Clear d rest := by
      intro d hd
      refine hlast d ?_
      rw [List.getLast?_cons, Option.mem_def.1 hd]
      rfl
    have hfirst := selfCloseEmpty_write e (fun d hd => h d (List.mem_append_left _ hd))
      (writeAll attr body es ++ rest) hclear
    have hothers := selfCloseEmpty_writeAll es hin rest hlast'
    simp only [writeAll, closePairsIn, List.append_assoc]
    rw [hfirst, hothers]
end

end Element

end Markup
end SvgIcon
