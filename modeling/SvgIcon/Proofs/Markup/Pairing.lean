import SvgIcon.Proofs.Markup.Branches
import SvgIcon.Proofs.Markup.Closing

/-!
Empty elements closed in place, on markup with texts and blanks anywhere.  Whether a tag is taken
for the start of a pair is told by the passage behind it alone, so the pass goes passage by passage;
on a tree it closes the pairs that are there, and besides those it may take a tag that closes its
element for the start of a pair that its parent's end tag would be the end of.
-/

namespace SvgIcon
namespace Markup

open Text

/-! ## Passages as they are written -/

/-- An attribute with a value in double quotes, with the blanks in front of it and around its equals
sign. -/
structure Assigned where
  gap : List Char
  name : List Char
  beforeEquals : List Char
  behindEquals : List Char
  value : List Char
  deriving DecidableEq, Repr

namespace Assigned

def text (a : Assigned) : List Char :=
  a.gap ++ (a.name ++ (a.beforeEquals ++ '=' :: (a.behindEquals ++ '"' :: (a.value ++ ['"']))))

/-- Blanks stand where blanks may stand, and no bracket anywhere. -/
structure WellFormed (a : Assigned) : Prop where
  spaced : a.gap ≠ []
  gap : Blank a.gap
  named : a.name ≠ []
  name : Lacks ['"', '<', '>', '=', '/'] a.name
  unspaced : Unspaced a.name
  beforeEquals : Blank a.beforeEquals
  behindEquals : Blank a.behindEquals
  value : Lacks ['"', '<', '>'] a.value

instance (a : Assigned) : Decidable a.WellFormed :=
  decidable_of_iff
    (a.gap ≠ [] ∧ Blank a.gap ∧ a.name ≠ [] ∧ Lacks ['"', '<', '>', '=', '/'] a.name ∧
      Unspaced a.name ∧ Blank a.beforeEquals ∧ Blank a.behindEquals ∧
      Lacks ['"', '<', '>'] a.value)
    ⟨fun ⟨h₁, h₂, h₃, h₄, h₅, h₆, h₇, h₈⟩ => ⟨h₁, h₂, h₃, h₄, h₅, h₆, h₇, h₈⟩,
      fun h => ⟨h.spaced, h.gap, h.named, h.name, h.unspaced, h.beforeEquals, h.behindEquals,
        h.value⟩⟩

theorem WellFormed.notMem_text {a : Assigned} (h : a.WellFormed) {c : Char} (hc : c ∈ ['<', '>']) :
    c ∉ a.text := by
  have hmark : isBlank c = false ∧ c ≠ '=' ∧ c ≠ '"' ∧ c ∈ ['"', '<', '>', '=', '/'] ∧
      c ∈ ['"', '<', '>'] := by
    simp only [List.mem_cons, List.not_mem_nil, or_false] at hc
    rcases hc with rfl | rfl <;> decide
  obtain ⟨hsolid, hequals, hquote, hname, hvalue⟩ := hmark
  simp only [text, List.mem_append, List.mem_cons, List.not_mem_nil, or_false, not_or]
  exact ⟨h.gap.notMem hsolid, h.name c hname, h.beforeEquals.notMem hsolid, hequals,
    h.behindEquals.notMem hsolid, hquote, h.value c hvalue, hquote⟩

end Assigned

namespace Passage

/-- Names are words, and brackets stand around tags only. -/
structure WellFormed (u : Passage Assigned) : Prop where
  before : Lacks ['<', '>'] u.before
  named : u.name ≠ []
  name : ∀ c ∈ u.name, isWord c = true
  attributes : ∀ a ∈ u.attributes, a.WellFormed
  gap : Blank u.gap
  bare : u.kind = .closing → u.attributes = []

instance (u : Passage Assigned) : Decidable u.WellFormed :=
  decidable_of_iff
    (Lacks ['<', '>'] u.before ∧ u.name ≠ [] ∧ (∀ c ∈ u.name, isWord c = true) ∧
      (∀ a ∈ u.attributes, a.WellFormed) ∧ Blank u.gap ∧ (u.kind = .closing → u.attributes = []))
    ⟨fun ⟨h₁, h₂, h₃, h₄, h₅, h₆⟩ => ⟨h₁, h₂, h₃, h₄, h₅, h₆⟩,
      fun h => ⟨h.before, h.named, h.name, h.attributes, h.gap, h.bare⟩⟩

variable {u v : Passage Assigned}

theorem WellFormed.notMem_name (h : u.WellFormed) {c : Char} (hc : isWord c = false) :
    c ∉ u.name := by
  intro hmem
  rw [h.name c hmem] at hc
  exact Bool.noConfusion hc

theorem WellFormed.notMem_inside (h : u.WellFormed) {c : Char} (hc : c ∈ ['<', '>']) :
    c ∉ u.inside Assigned.text := by
  have hmark : isBlank c = false ∧ isWord c = false ∧ c ≠ '/' := by
    simp only [List.mem_cons, List.not_mem_nil, or_false] at hc
    rcases hc with rfl | rfl <;> decide
  have hslash := u.kind.notMem_marks hmark.2.2
  simp only [inside, List.mem_append, List.mem_flatMap, not_or, not_exists, not_and]
  exact ⟨hslash.1, h.notMem_name hmark.2.1, fun a ha => (h.attributes a ha).notMem_text hc,
    h.gap.notMem hmark.1, hslash.2⟩

/-- What stands behind the name of a tag does not go on with it. -/
theorem WellFormed.isWord_behind (h : u.WellFormed) {x : List Char}
    (hx : ∀ c ∈ x.head?, isWord c = false) :
    ∀ c ∈ (u.attributes.flatMap Assigned.text ++ (u.gap ++ x)).head?, isWord c = false := by
  intro c hc
  cases hattributes : u.attributes with
  | cons a as =>
    have ha : a.WellFormed := h.attributes a (by simp [hattributes])
    obtain ⟨d, g, hgap⟩ := List.exists_cons_of_ne_nil ha.spaced
    obtain rfl : d = c := by simpa [hattributes, Assigned.text, hgap] using hc
    exact isWord_eq_false_of_isBlank (ha.gap d (by simp [hgap]))
  | nil =>
    rw [hattributes, List.flatMap_nil, List.nil_append] at hc
    cases hgap : u.gap with
    | cons d g =>
      obtain rfl : d = c := by simpa [hgap] using hc
      exact isWord_eq_false_of_isBlank (h.gap d (by simp [hgap]))
    | nil => exact hx c (by simpa [hgap] using hc)

theorem WellFormed.takeWhile_isWord (h : u.WellFormed) (hkind : u.kind ≠ .closing) :
    (u.inside Assigned.text ++ ['>']).takeWhile isWord = u.name := by
  have hstop : ∀ c ∈ (u.kind.back ++ ['>']).head?, isWord c = false := by
    cases u.kind <;> simp [Kind.back] <;> decide
  have htext : u.inside Assigned.text ++ ['>'] =
      u.name ++ (u.attributes.flatMap Assigned.text ++ (u.gap ++ (u.kind.back ++ ['>']))) := by
    simp [inside, Kind.front_eq_nil hkind]
  rw [htext, takeWhile_append_of_head h.name (h.isWord_behind hstop)]

/-! ## Pairs of passages -/

/-- The second passage is an end tag that is taken for the end of an empty element that the first
one starts. -/
def Pairs (u v : Passage Assigned) : Prop :=
  u.kind ≠ .closing ∧ v.kind = .closing ∧ v.before = [] ∧ v.gap = [] ∧ v.name <+: u.name

instance (u v : Passage Assigned) : Decidable (Pairs u v) := inferInstanceAs (Decidable (_ ∧ _))

/-- The tag that stands for a pair which starts with this one. -/
def shut (u : Passage Assigned) : Passage Assigned :=
  { u with kind := .closed, gap := u.gap ++ (u.kind.back ++ [' ']) }

/-- Every pair, from the first passage on, as one passage. -/
def merge : List (Passage Assigned) → List (Passage Assigned)
  | [] => []
  | [u] => [u]
  | u :: v :: us => if Pairs u v then u.shut :: merge us else u :: merge (v :: us)

theorem merge_of_not_pairs {us : List (Passage Assigned)} (h : ∀ v ∈ us.head?, ¬ Pairs u v) :
    merge (u :: us) = u :: merge us := by
  cases us with
  | nil => rfl
  | cons v us => rw [merge, if_neg (h v rfl)]

theorem merge_of_pairs {us : List (Passage Assigned)} (h : Pairs u v) :
    merge (u :: v :: us) = u.shut :: merge us := if_pos h

/-- The text of passages that goes on with an end tag starts with a passage of that end tag. -/
theorem exists_of_written_eq_endTag {us : List (Passage Assigned)} (h : ∀ v ∈ us, v.WellFormed)
    {m r : List Char} (hm : '>' ∉ m) (htext : written Assigned.text us = endTag m ++ r) :
    ∃ v vs, us = v :: vs ∧ v.kind = .closing ∧ v.before = [] ∧ m = v.name ++ v.gap ∧
      r = written Assigned.text vs := by
  cases us with
  | nil => exact absurd htext (by simp [written, endTag])
  | cons v vs =>
    have hv := h v List.mem_cons_self
    have hbefore : v.before = [] := by
      cases hb : v.before with
      | nil => rfl
      | cons c b =>
        rw [written_cons, text, hb] at htext
        obtain rfl : c = '<' := (List.cons.inj htext).1
        exact absurd (by rw [hb]; exact List.mem_cons_self) (hv.before '<' (by decide))
    obtain ⟨c, n, hname⟩ := List.exists_cons_of_ne_nil hv.named
    have hword : isWord c = true := hv.name c (by rw [hname]; exact List.mem_cons_self)
    have hkind : v.kind = .closing := by
      have hslash : v.kind ≠ .closing → c = '/' := fun hk => by
        rw [written_cons, text, hbefore, inside, Kind.front_eq_nil hk, hname] at htext
        exact (List.cons.inj (List.cons.inj htext).2).1
      by_contra hk
      rw [hslash hk] at hword
      exact absurd hword (by decide)
    have hend : v.text Assigned.text = endTag (v.name ++ v.gap) := by
      rw [text, hbefore, inside, hkind, hv.bare hkind]
      simp [endTag, Kind.front, Kind.back]
    rw [written_cons, hend] at htext
    have hlacks : '>' ∉ v.name ++ v.gap := by
      simp [hv.notMem_name (c := '>') (by decide), hv.gap.notMem (c := '>') (by decide)]
    have hsame := endTag_inj hlacks hm htext
    rw [hsame, List.append_cancel_left_eq] at htext
    exact ⟨v, vs, rfl, hkind, hbefore, hsame.symm, htext.symm⟩

/-- Whether a tag starts a pair is told by the passage behind it. -/
theorem emptyPair?_tag (h : u.WellFormed) {us : List (Passage Assigned)}
    (hus : ∀ v ∈ us, v.WellFormed) (hpairs : ∀ v ∈ us.head?, ¬ Pairs u v) :
    emptyPair? ('<' :: (u.inside Assigned.text ++ '>' :: written Assigned.text us)) = none := by
  by_cases hkind : u.kind = .closing
  · rw [inside, hkind]
    exact emptyPair?_slash _
  · have hinside := h.notMem_inside (c := '>') (by decide)
    by_cases hend : ∃ m r, '>' ∉ m ∧ written Assigned.text us = endTag m ++ r
    · obtain ⟨m, r, hm, htext⟩ := hend
      obtain ⟨v, vs, rfl, hclosing, hbefore, rfl, rfl⟩ := exists_of_written_eq_endTag hus hm htext
      rw [htext, emptyPair?_end hinside hm, h.takeWhile_isWord hkind, if_neg]
      rintro ⟨_, hpre⟩
      -- a blank in the end tag is no part of a name
      have hgap : v.gap = [] := by
        cases hg : v.gap with
        | nil => rfl
        | cons c g =>
          have hv := hus v List.mem_cons_self
          have hmem : c ∈ v.name ++ v.gap := by simp [hg]
          have hword := h.name c (hpre.subset hmem)
          have hblank := hv.gap c (by simp [hg])
          rw [isWord_eq_false_of_isBlank hblank] at hword
          exact absurd hword (by simp)
      rw [hgap, List.append_nil] at hpre
      exact hpairs v rfl ⟨hkind, hclosing, hbefore, hgap, hpre⟩
    · exact emptyPair?_of_open hinside hend

theorem turns_selfCloseEmpty_before (h : u.WellFormed) :
    Turns selfCloseEmpty u.before u.before :=
  turns_rewrite_of_notMem (h.before '<' (by decide)) fun _ => emptyPair?_of_ne

theorem selfCloseEmpty_of_not_pairs (h : u.WellFormed) {us : List (Passage Assigned)}
    (hus : ∀ v ∈ us, v.WellFormed) (hpairs : ∀ v ∈ us.head?, ¬ Pairs u v) :
    selfCloseEmpty (written Assigned.text (u :: us)) =
      u.text Assigned.text ++ selfCloseEmpty (written Assigned.text us) := by
  have hinside : '<' ∉ u.inside Assigned.text ++ ['>'] := by
    simpa using h.notMem_inside (c := '<') (by decide)
  have hcopy : Turns selfCloseEmpty (u.inside Assigned.text ++ ['>'])
      (u.inside Assigned.text ++ ['>']) :=
    turns_rewrite_of_notMem hinside fun _ => emptyPair?_of_ne
  have htag := hcopy (written Assigned.text us)
  rw [List.append_assoc, List.singleton_append] at htag
  rw [written_cons, text, List.append_assoc, turns_selfCloseEmpty_before h, List.append_assoc]
  refine congrArg _ ?_
  rw [List.cons_append, List.append_assoc, List.singleton_append]
  exact (rewrite_of_none (emptyPair?_tag h hus hpairs)).trans (congrArg (List.cons '<') htag)

theorem selfCloseEmpty_of_pairs (h : u.WellFormed) (hv : v.WellFormed) (hpairs : Pairs u v) :
    Turns selfCloseEmpty (written Assigned.text [u, v]) (u.shut.text Assigned.text) := by
  obtain ⟨hkind, hclosing, hbefore, hgap, hpre⟩ := hpairs
  have hinside := h.notMem_inside (c := '>') (by decide)
  have hname : '>' ∉ v.name := hv.notMem_name (by decide)
  have hend : v.text Assigned.text = endTag v.name := by
    rw [text, hbefore, inside, hclosing, hv.bare hclosing, hgap]
    simp [endTag, Kind.front, Kind.back]
  have hshut : u.shut.text Assigned.text =
      u.before ++ '<' :: (u.inside Assigned.text ++ [' ', '/', '>']) := by
    cases hk : u.kind with
    | closing => exact absurd hk hkind
    | opening => simp [shut, text, inside, hk, Kind.front, Kind.back]
    | closed => simp [shut, text, inside, hk, Kind.front, Kind.back]
  have hpair : Turns selfCloseEmpty ('<' :: (u.inside Assigned.text ++ '>' :: endTag v.name))
      ('<' :: (u.inside Assigned.text ++ [' ', '/', '>'])) := by
    refine turns_rewrite_match (by simp) fun rest => ?_
    rw [List.cons_append, List.append_assoc, List.cons_append, emptyPair?_end hinside hname,
      h.takeWhile_isWord hkind, if_pos ⟨hv.named, hpre⟩]
    simp [endTag]
    omega
  rw [hshut]
  have hall := (turns_selfCloseEmpty_before h).append hpair
  have htext : written Assigned.text [u, v] =
      u.before ++ '<' :: (u.inside Assigned.text ++ '>' :: endTag v.name) := by
    rw [written_cons, written_cons, hend]
    simp [written, text]
  rwa [htext]

theorem selfCloseEmpty_written (us : List (Passage Assigned)) (h : ∀ u ∈ us, u.WellFormed) :
    selfCloseEmpty (written Assigned.text us) = written Assigned.text (merge us) := by
  induction us using merge.induct with
  | case1 => rfl
  | case2 u =>
    rw [selfCloseEmpty_of_not_pairs (h u List.mem_cons_self) (by simp) (by simp)]
    simp [merge, written, selfCloseEmpty, rewrite_nil]
  | case3 u v us hpairs ih =>
    have hu := h u List.mem_cons_self
    have hv := h v (by simp)
    have hrest := ih fun w hw => h w (by simp [hw])
    have htext : written Assigned.text (u :: v :: us) =
        written Assigned.text [u, v] ++ written Assigned.text us := by simp [written]
    rw [htext, selfCloseEmpty_of_pairs hu hv hpairs, hrest, merge_of_pairs hpairs, written_cons]
  | case4 u v us hpairs ih =>
    have hrest := ih fun w hw => h w (List.mem_cons_of_mem u hw)
    have hhere : ∀ w ∈ (v :: us).head?, ¬ Pairs u w := by simpa using hpairs
    rw [selfCloseEmpty_of_not_pairs (h u List.mem_cons_self)
      (fun w hw => h w (List.mem_cons_of_mem u hw)) hhere, hrest, merge_of_not_pairs hhere,
      written_cons]

end Passage

/-! ## Pairs in a tree -/

namespace Branch

mutual
/-- Every pair of tags with nothing between them as one tag that closes its element. -/
def closePairs : Branch Assigned → Branch Assigned
  | closed before n as gap => closed before n as gap
  | element before n as gap children last endGap =>
    if children.isEmpty && last.isEmpty && endGap.isEmpty then closed before n as (gap ++ [' '])
    else element before n as gap (closePairsIn children) last endGap

def closePairsIn : List (Branch Assigned) → List (Branch Assigned)
  | [] => []
  | t :: ts => closePairs t :: closePairsIn ts
end

mutual
/-- No end tag of the tree stands right behind a tag that closes its element and that has the name
of the end tag as a front part of its own. -/
def EndsApart : Branch Assigned → Prop
  | closed _ _ _ _ => True
  | element _ n _ _ children last endGap =>
    EndsApartIn children ∧ (last = [] → endGap = [] →
      ∀ d ∈ children.getLast?, d.isClosed = true → ¬ n <+: d.name)

def EndsApartIn : List (Branch Assigned) → Prop
  | [] => True
  | t :: ts => EndsApart t ∧ EndsApartIn ts
end

/-- The passage behind an element is no end tag that the element could be paired with. -/
def Clear (t : Branch Assigned) (rest : List (Passage Assigned)) : Prop :=
  t.isClosed = true → ∀ v ∈ rest.head?, v.kind = .closing → v.before = [] → v.gap = [] →
    ¬ v.name <+: t.name

theorem exists_passages_cons (t : Branch Assigned) :
    ∃ u us, t.passages = u :: us ∧ u.kind ≠ .closing := by
  cases t with
  | closed before n as gap => exact ⟨_, [], rfl, by simp⟩
  | element before n as gap children last endGap => exact ⟨_, _, rfl, by simp⟩

theorem exists_passagesOf_cons {ts : List (Branch Assigned)} (h : ts ≠ []) :
    ∃ u us, passagesOf ts = u :: us ∧ u.kind ≠ .closing := by
  cases ts with
  | nil => exact absurd rfl h
  | cons t ts =>
    obtain ⟨u, us, ht, hu⟩ := t.exists_passages_cons
    exact ⟨u, us ++ passagesOf ts, by rw [passagesOf, ht]; rfl, hu⟩

mutual
/-- Merging the pairs among the passages of a tree is closing the pairs in the tree. -/
theorem merge_passages (t : Branch Assigned) (h : t.EndsApart) (rest : List (Passage Assigned))
    (hrest : t.Clear rest) :
    Passage.merge (t.passages ++ rest) = t.closePairs.passages ++ Passage.merge rest := by
  cases t with
  | closed before n as gap =>
    exact Passage.merge_of_not_pairs fun v hv hpairs =>
      hrest rfl v hv hpairs.2.1 hpairs.2.2.1 hpairs.2.2.2.1 hpairs.2.2.2.2
  | element before n as gap children last endGap =>
    obtain ⟨hchildren, hlast⟩ := h
    have hend : Passage.merge (⟨last, .closing, n, [], endGap⟩ :: rest) =
        ⟨last, .closing, n, [], endGap⟩ :: Passage.merge rest :=
      Passage.merge_of_not_pairs fun v _ hpairs => hpairs.1 rfl
    have hclear : ∀ d ∈ children.getLast?, d.Clear (⟨last, .closing, n, [], endGap⟩ :: rest) := by
      rintro d hd hclosed v hv _ hbefore hgap
      obtain rfl := Option.some.inj hv
      exact hlast hbefore hgap d hd hclosed
    have hbelow := merge_passagesOf children hchildren
      (⟨last, .closing, n, [], endGap⟩ :: rest) hclear
    rw [passages, List.cons_append, List.append_assoc, List.singleton_append, closePairs]
    by_cases hempty : (children.isEmpty && last.isEmpty && endGap.isEmpty) = true
    · rw [if_pos hempty]
      simp only [Bool.and_eq_true, List.isEmpty_iff] at hempty
      obtain ⟨⟨rfl, rfl⟩, rfl⟩ := hempty
      exact Passage.merge_of_pairs ⟨by simp, rfl, rfl, rfl, List.prefix_rfl⟩
    · rw [if_neg hempty, passages, Passage.merge_of_not_pairs, hbelow, hend]
      · simp
      · intro v hv hpairs
        cases children with
        | nil =>
          obtain rfl := Option.some.inj hv
          have hlast : last = [] := hpairs.2.2.1
          have hgap : endGap = [] := hpairs.2.2.2.1
          exact hempty (by simp [hlast, hgap])
        | cons d ds =>
          obtain ⟨u, us, hcons, hu⟩ := exists_passagesOf_cons (List.cons_ne_nil d ds)
          rw [hcons] at hv
          obtain rfl := Option.some.inj hv
          exact hu hpairs.2.1

theorem merge_passagesOf (ts : List (Branch Assigned)) (h : EndsApartIn ts)
    (rest : List (Passage Assigned)) (hrest : ∀ d ∈ ts.getLast?, d.Clear rest) :
    Passage.merge (passagesOf ts ++ rest) = passagesOf (closePairsIn ts) ++ Passage.merge rest := by
  cases ts with
  | nil => rfl
  | cons t ts =>
    have hclear : t.Clear (passagesOf ts ++ rest) := by
      cases ts with
      | nil => exact hrest t rfl
      | cons d ds =>
        obtain ⟨u, us, hcons, hu⟩ := exists_passagesOf_cons (List.cons_ne_nil d ds)
        intro _ v hv hkind
        rw [hcons] at hv
        obtain rfl := Option.some.inj hv
        exact absurd hkind hu
    have hlast : ∀ d ∈ ts.getLast?, d.Clear rest := by
      intro d hd
      refine hrest d ?_
      rw [List.getLast?_cons, Option.mem_def.1 hd]
      rfl
    rw [passagesOf, List.append_assoc, merge_passages t h.1 _ hclear,
      merge_passagesOf ts h.2 rest hlast, closePairsIn, passagesOf, List.append_assoc]
end

end Branch

end Markup
end SvgIcon
