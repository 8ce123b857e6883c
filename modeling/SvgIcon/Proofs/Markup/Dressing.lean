import Mathlib.Data.List.Forall2
import SvgIcon.Proofs.Markup.Wrapping

/-!
Styles, empty elements and blanks on the way into a component.  A style becomes a literal wherever
the name of an attribute ends in `style`; where every tag but the first has a text in front of it,
nothing is closed in place; and blanks collapse stretch by stretch.
-/

namespace SvgIcon
namespace Markup

open Text

/-! ## Declarations -/

theorem Stretch.turns_lineSpan {u : Stretch} (h : u.WellFormed) {c : Char}
    (hc : c = '?' ∨ c = '!') (start close : List Char) :
    Turns (rewrite (lineSpan? ('<' :: c :: start) close)) u.text u.text := by
  have hnone : ∀ {d : Char} {s : List Char}, c ≠ d →
      lineSpan? ('<' :: c :: start) close ('<' :: d :: s) = none := fun hd => by
    simp [lineSpan?, after?, hd]
  refine u.turns_of_bracket h (fun d hd s => ?_) fun rest => ?_
  · simp [lineSpan?, after?_cons_ne fun e => hd e.symm]
  · obtain ⟨d, n, hname⟩ := h.exists_name
    have hd : d ≠ '!' ∧ d ≠ '?' := by simpa [hname] using h.name.declares
    have hslash : c ≠ '/' := by rcases hc with rfl | rfl <;> decide
    have hfirst : c ≠ d := by
      rintro rfl
      exact hc.elim hd.2 hd.1
    rw [tag, inside, hname]
    cases u.kind with
    | closing => exact hnone hslash
    | opening => exact hnone hfirst
    | closed => exact hnone hfirst

/-! ## Styles -/

/-- The object that a style becomes. -/
def styleBody (v : List Char) : List Char :=
  ' ' :: (join ", ".toList ((parseStyle v).map Declaration.entry) ++ [' '])

theorem styleLiteral_eq (v : List Char) :
    styleLiteral v = "style".toList ++ '=' :: (Spelling.literal (styleBody v)).text := by
  unfold styleLiteral styleBody
  generalize join ", ".toList ((parseStyle v).map Declaration.entry) = entries
  have hfront : "style=\x7b\x7b ".toList = "style".toList ++ ['=', '\x7b', '\x7b', ' '] := by decide
  have hback : " \x7d\x7d".toList = [' ', '\x7d', '\x7d'] := by decide
  simp only [hfront, hback, Spelling.text, Spelling.front, Spelling.inner, Spelling.back,
    List.append_assoc, List.cons_append, List.nil_append]

theorem notMem_declaration {c : Char} (hc : isAsciiLetter c = false) {s : List Char} (hs : c ∉ s)
    {d : Declaration} (hd : Declaration.read? s = some d) : c ∉ d.key ∧ c ∉ d.value := by
  simp only [Declaration.read?] at hd
  split at hd
  · exact absurd hd (by simp)
  · obtain rfl := Option.some.inj hd
    refine ⟨fun hkey => ?_, fun hvalue => ?_⟩
    · rcases mem_camelize hkey with hin | hletter
      · exact hs ((List.takeWhile_sublist _).subset (mem_of_mem_trim hin))
      · rw [hc] at hletter
        exact Bool.noConfusion hletter
    · exact hs ((List.dropWhile_sublist _).subset
        ((List.drop_sublist _ _).subset (mem_of_mem_trim hvalue)))

/-- A declaration is written with two single quotes and no other mark. -/
theorem entry_marks {v : List Char} (h : Lacks marks v) {e : List Char}
    (he : e ∈ (parseStyle v).map Declaration.entry) :
    Lacks (marks.erase '\'') e ∧ e.count '\'' % 2 = 0 := by
  obtain ⟨d, hd, rfl⟩ := List.mem_map.1 he
  obtain ⟨segment, hsegment, hread⟩ := List.mem_filterMap.1 hd
  have hletter : ∀ c ∈ marks, isAsciiLetter c = false := by decide
  have hparts : ∀ c ∈ marks, c ∉ d.key ∧ c ∉ d.value := fun c hc =>
    notMem_declaration (hletter c hc) (fun hin => h c hc (mem_of_mem_pieces hsegment hin)) hread
  have hentry : d.entry = d.key ++ ([':', ' ', '\''] ++ (d.value ++ ['\''])) := by
    rw [Declaration.entry, List.append_assoc, List.append_assoc]
    rfl
  rw [hentry]
  constructor
  · intro c hc
    obtain ⟨hkey, hvalue⟩ := hparts c (List.mem_of_mem_erase hc)
    have hown : c ∉ [':', ' ', '\''] ∧ c ∉ ['\''] := by
      have hall : ∀ c ∈ marks.erase '\'', c ∉ [':', ' ', '\''] ∧ c ∉ ['\''] := by decide
      exact hall c hc
    simp only [List.mem_append, not_or]
    exact ⟨hkey, hown.1, hvalue, hown.2⟩
  · obtain ⟨hkey, hvalue⟩ := hparts '\'' (by decide)
    rw [List.count_append, List.count_append, List.count_append, List.count_eq_zero_of_not_mem hkey,
      List.count_eq_zero_of_not_mem hvalue]
    decide

theorem count_join (between : List Char) {c : Char} (hc : between.count c = 0)
    {ps : List (List Char)} (h : ∀ p ∈ ps, p.count c % 2 = 0) :
    (join between ps).count c % 2 = 0 := by
  induction ps with
  | nil => rfl
  | cons p ps ih =>
    have hp := h p List.mem_cons_self
    have hrest := ih fun q hq => h q (List.mem_cons_of_mem p hq)
    cases ps with
    | nil => exact hp
    | cons q ps =>
      rw [join_cons_cons, List.count_append, List.count_append, hc]
      omega

theorem wellFormed_styleBody {v : List Char} (h : Lacks marks v) :
    (Spelling.literal (styleBody v)).WellFormed := by
  refine ⟨fun c hc hmem => ?_, ?_⟩
  · have hown : ∀ c ∈ marks.erase '\'', c ≠ ' ' ∧ c ∉ ", ".toList := by decide
    obtain ⟨hspace, hcomma⟩ := hown c hc
    simp only [styleBody, List.mem_cons, List.mem_append, List.not_mem_nil, hspace, or_false,
      false_or] at hmem
    rcases mem_join hmem with hin | ⟨e, he, hin⟩
    · exact hcomma hin
    · exact (entry_marks h he).1 c hc hin
  · have hjoin := count_join ", ".toList (c := '\'') (by decide) fun e he => (entry_marks h he).2
    rw [styleBody, List.count_cons_of_ne (by decide), List.count_append,
      List.count_eq_zero_of_not_mem (l := [' ']) (by decide)]
    exact hjoin

/-- The value of an attribute with a name, once styles have become literals. -/
def Spelling.styled (name : List Char) : Spelling → Spelling
  | quoted v => if "style".toList <:+ name then literal (styleBody v) else quoted v
  | s => s

theorem Spelling.wellFormed_styled {s : Spelling} (h : s.WellFormed) (n : List Char) :
    (s.styled n).WellFormed := by
  cases s with
  | quoted v =>
    simp only [styled]
    split
    · exact wellFormed_styleBody h
    · exact h
  | number ds => exact h
  | expression q v => exact h
  | literal b => exact h

theorem Spelling.isPlain_styled {s : Spelling} (h : s.isPlain = true) (n : List Char) :
    (s.styled n).isPlain = true := by
  cases s with
  | quoted v =>
    simp only [styled]
    split <;> rfl
  | number ds => exact h
  | expression q v => exact h
  | literal b => rfl

def Spelled.styled (a : Spelled) : Spelled := a.respell (Spelling.styled a.name)

theorem convertStyles_append {a : List Char} (h : '=' ∉ a) (rest : List Char) :
    convertStyles (a ++ (styleStart ++ rest)) = a ++ convertStyles (styleStart ++ rest) := by
  induction a with
  | nil => rfl
  | cons c a ih =>
    have hlong : c :: a ++ "style".toList ≠ "style".toList := by
      intro heq
      have hlength := congrArg List.length heq
      rw [List.length_append, List.length_cons] at hlength
      omega
    have heq : '=' ∉ c :: a ++ "style".toList := by
      rw [List.mem_append, not_or]
      exact ⟨h, by decide⟩
    have hnone := after?_mark_eq_none "style".toList ['"'] (by decide) heq hlong
      ('"' :: rest)
    have hstyle : after? styleStart (c :: (a ++ (styleStart ++ rest))) = none := by
      rwa [List.append_assoc] at hnone
    have hcopy : convertStyles (c :: (a ++ (styleStart ++ rest))) =
        c :: convertStyles (a ++ (styleStart ++ rest)) :=
      rewrite_of_none (styleAttribute?_eq_none hstyle)
    rw [List.cons_append, hcopy, ih fun hmem => h (List.mem_cons_of_mem c hmem), List.cons_append]

theorem turns_convertStyles_blank {g : List Char} (h : Blank g) : Turns convertStyles g g :=
  Turns.copy fun c hc => turns_convertStyles_char (by
    rintro rfl
    exact absurd (h 's' hc) (by decide))

theorem Spelled.turns_convertStyles {a : Spelled} (h : a.WellFormed)
    (hplain : a.value.isPlain = true) : Turns convertStyles a.text a.styled.text := by
  have heq : '=' ∉ a.name := h.name '=' (by decide)
  have hvalue := h.value
  obtain ⟨gap, name, value⟩ := a
  refine (turns_convertStyles_blank h.gap).append ?_
  cases value with
  | number ds => exact absurd hplain (by simp [Spelling.isPlain])
  | expression q v => exact absurd hplain (by simp [Spelling.isPlain])
  | quoted v =>
    by_cases hstyle : "style".toList <:+ name
    · obtain ⟨n, rfl⟩ := hstyle
      have hname : '=' ∉ n := fun hmem => heq (List.mem_append_left _ hmem)
      have hmatch := turns_convertStyles_style (hvalue '"' (by decide))
      have hstyled : (Spelling.quoted v).styled (n ++ "style".toList) = .literal (styleBody v) :=
        if_pos ⟨n, rfl⟩
      intro rest
      have hcopy := convertStyles_append hname (v ++ ['"'] ++ rest)
      have hrest := hmatch rest
      rw [List.append_assoc] at hrest
      rw [hrest, styleLiteral_eq] at hcopy
      simp only [Spelled.styled, Spelled.respell, hstyled]
      have htext : n ++ "style".toList ++ '=' :: (Spelling.quoted v).text ++ rest =
          n ++ (styleStart ++ (v ++ ['"'] ++ rest)) := by
        have hstart : styleStart = "style".toList ++ ['=', '"'] := by decide
        rw [hstart]
        simp [Spelling.text, Spelling.front, Spelling.inner, Spelling.back]
      rw [htext, hcopy]
      simp
    · have hstyled : (Spelling.quoted v).styled name = .quoted v := if_neg hstyle
      have hname := convertStyles_of_free (free_name heq hstyle)
      have hquote : Turns convertStyles ['"'] ['"'] := turns_convertStyles_char (by decide)
      have htail := convertStyles_of_free (free_value (hvalue '=' (by decide)))
      have hall := hname.append (hquote.append htail)
      simpa [Spelled.styled, Spelled.respell, hstyled, Spelling.text, Spelling.front,
        Spelling.inner, Spelling.back] using hall
  | literal b =>
    have hquote : '"' ∉ name ++ '=' :: '\x7b' :: '\x7b' :: b := by
      have hn := h.name '"' (by decide)
      have hb := hvalue.1 '"' (by decide)
      simpa [not_or] using ⟨hn, hb⟩
    have hfree : Free styleStart (name ++ '=' :: '\x7b' :: '\x7b' :: b ++ ['\x7d']) :=
      Free.concat (x := '"') (by decide) (by decide) hquote
    have hlast : Turns convertStyles ['\x7d'] ['\x7d'] := turns_convertStyles_char (by decide)
    have hall := (convertStyles_of_free hfree).append hlast
    have hstyled : (Spelling.literal b).styled name = .literal b := rfl
    simpa [Spelled.styled, Spelled.respell, hstyled, Spelling.text, Spelling.front,
      Spelling.inner, Spelling.back] using hall

theorem Stretch.turns_convertStyles {u : Stretch} (h : u.WellFormed) (hplain : u.IsPlain) :
    Turns convertStyles u.text (u.map id Spelled.styled).text := by
  refine u.turns_map h ?_ (fun c hc rest => ?_) (fun a ha => ?_) ?_
  · exact convertStyles_of_free
      (Free.concat (x := '"') (by decide) (by decide) (h.before '"' (by decide)))
  · have heq : '=' ∉ u.kind.front ++ u.name := by
      rw [List.mem_append, not_or]
      refine ⟨?_, h.name.lacks '=' (by decide)⟩
      cases u.kind <;> simp [Kind.front]
    have hstart : c ∉ styleStart := by
      intro hmem
      have hall : styleStart.all (fun d => !isNameEnd d) = true := by decide
      have hnot := List.all_eq_true.1 hall c hmem
      rw [hc] at hnot
      exact absurd hnot (by decide)
    have hfree : Free styleStart (u.kind.front ++ u.name ++ [c]) :=
      Free.concat hstart (by decide) heq
    have hcopy := hfree.rewrite_append (fun _ => styleAttribute?_eq_none) rest
    simpa [convertStyles] using hcopy
  · exact Spelled.turns_convertStyles (h.attributes a ha) (hplain a ha)
  · refine Turns.copy fun c hc => turns_convertStyles_char ?_
    rintro rfl
    have hback : 's' ∉ u.kind.back := by cases u.kind <;> simp [Kind.back]
    simp only [stop, List.mem_append, List.mem_singleton] at hc
    rcases hc with (hgap | hin) | hin
    · exact absurd (h.gap 's' hgap) (by decide)
    · exact hback hin
    · exact absurd hin (by decide)

/-! ## Tags apart -/

/-- Where no tag stands right behind another one, no element is closed in place. -/
theorem selfCloseEmpty_of_breakTags {s : List Char} (h : breakTags s = s) :
    selfCloseEmpty s = s := by
  have hapart := breakTags_eq_self_iff.1 h
  induction s with
  | nil => rfl
  | cons c s ih =>
    have hnone : emptyPair? (c :: s) = none := by
      by_cases hc : c = '<'
      · subst hc
        unfold emptyPair?
        split
        · rename_i r heq
          obtain ⟨_, rfl⟩ := List.cons.inj heq
          split
          · rename_i t hpair
            have hsplit := List.takeWhile_append_dropWhile (p := fun d => decide (d ≠ '>')) (l := s)
            rw [hpair] at hsplit
            exact absurd ⟨'<' :: s.takeWhile fun d => decide (d ≠ '>'), '/' :: t, by simpa using hsplit⟩
              hapart
          · rfl
        · rfl
      · exact emptyPair?_of_ne hc s
    have hcopy : selfCloseEmpty (c :: s) = c :: selfCloseEmpty s := rewrite_of_none hnone
    have hrest := (breakTags_cons h).1
    rw [hcopy, ih hrest (breakTags_eq_self_iff.1 hrest)]

/-- A text stands in front of every stretch but the first. -/
def Laid : List Stretch → Prop
  | [] => False
  | u :: us => u.before = [] ∧ ∀ v ∈ us, v.before ≠ []

namespace Stretch

variable {u : Stretch}

/-- The stretch with its tag on a line of its own, unless a text stands there. -/
def broken (u : Stretch) : Stretch := if u.before = [] then { u with before := ['\n'] } else u

theorem turns_breakTags (h : u.WellFormed) (rest : List Char) :
    breakTags (u.text ++ rest) = u.before ++ ('<' :: (u.inside ++ breakTags ('>' :: rest))) := by
  have hbefore : '>' ∉ u.before := h.before '>' (by decide)
  have hinside : '>' ∉ u.inside := h.notMem_inside (by decide)
  have hfront : Turns breakTags (u.before ++ '<' :: u.inside) (u.before ++ '<' :: u.inside) :=
    Markup.turns_breakTags (by simp [hbefore, hinside])
  have hall := hfront ('>' :: rest)
  simpa [text, tag] using hall

theorem breakTags_between {us : List Stretch} (h : ∀ v ∈ us, v.WellFormed) :
    breakTags ('>' :: written us) = '>' :: written (us.map broken) := by
  induction us with
  | nil => rfl
  | cons v us ih =>
    have hv := h v List.mem_cons_self
    have hrest := ih fun w hw => h w (List.mem_cons_of_mem v hw)
    have htext := turns_breakTags hv (written us)
    rw [hrest] at htext
    have hsame : v.broken.tag = v.tag := by
      unfold broken
      split <;> rfl
    have hbrokenText : v.broken.text = v.broken.before ++ v.tag := by rw [text, hsame]
    rw [List.map_cons, written_cons, written_cons, hbrokenText]
    have hbefore : '<' ∉ v.before := hv.before '<' (by decide)
    cases hcons : v.before with
    | nil =>
      have hbroken : v.broken.before = ['\n'] := by rw [broken, if_pos hcons]
      rw [text, hcons] at htext
      rw [text, hcons, hbroken, List.nil_append]
      rw [List.nil_append] at htext
      rw [breakTags, if_pos ⟨rfl, rfl⟩, htext]
      simp [tag]
    | cons c b =>
      have hbroken : v.broken.before = c :: b := by
        rw [broken, if_neg (by rw [hcons]; simp), hcons]
      have hc : c ≠ '<' := by
        rintro rfl
        exact hbefore (by simp [hcons])
      rw [breakTags, if_neg (by simp [text, hcons, hc]), htext, hbroken, hcons]
      simp [tag]

end Stretch

theorem breakTags_written (u : Stretch) (us : List Stretch)
    (h : ∀ v ∈ u :: us, v.WellFormed) :
    breakTags (written (u :: us)) = written (u :: us.map Stretch.broken) := by
  have hrest := Stretch.breakTags_between fun v hv => h v (List.mem_cons_of_mem u hv)
  rw [written_cons, Stretch.turns_breakTags (h u List.mem_cons_self), hrest, written_cons]
  simp [Stretch.text, Stretch.tag]

theorem Laid.breakTags {us : List Stretch} (hlaid : Laid us) (h : ∀ u ∈ us, u.WellFormed) :
    breakTags (written us) = written us := by
  cases us with
  | nil => exact absurd hlaid id
  | cons u us =>
    have hsame : us.map Stretch.broken = us :=
      (List.map_congr_left fun v hv => if_neg (hlaid.2 v hv)).trans (List.map_id us)
    rw [breakTags_written _ _ h, hsame]

theorem Laid.map {us : List Stretch} (h : Laid us) {f : Stretch → Stretch}
    (hf : ∀ u, (f u).before = [] ↔ u.before = []) : Laid (us.map f) := by
  cases us with
  | nil => exact h
  | cons u us =>
    refine ⟨(hf u).2 h.1, fun v hv => ?_⟩
    obtain ⟨w, hw, rfl⟩ := List.mem_map.1 hv
    exact fun hnil => h.2 w hw ((hf w).1 hnil)

theorem Laid.framed {us : List Stretch} (h : Laid us) : Framed (written us) := by
  cases us with
  | nil => exact absurd h id
  | cons u us =>
    refine ⟨⟨'<', u.inside ++ ['>'] ++ written us, ?_, by decide⟩, ?_⟩
    · rw [written_cons, Stretch.text, h.1]
      rfl
    · obtain ⟨vs, v, hlast⟩ : ∃ vs v, u :: us = vs ++ [v] :=
        ⟨_, _, (List.dropLast_concat_getLast (by simp)).symm⟩
      refine ⟨written vs ++ (v.before ++ '<' :: v.inside), '>', ?_, by decide⟩
      rw [hlast, written_append]
      simp [written, Stretch.text, Stretch.tag]

/-! ## Alike up to blanks -/

/-- The same attribute, but for the length of its runs of blanks. -/
structure Spelled.Alike (a b : Spelled) : Prop where
  gap : outline b.gap = outline a.gap
  name : b.name = a.name
  value : ∃ v, b.value = a.value.mapInner (fun _ => v) ∧ outline v = outline a.value.inner

/-- The same stretch, but for the length of its runs of blanks. -/
structure Stretch.Alike (u v : Stretch) : Prop where
  before : outline v.before = outline u.before
  kind : v.kind = u.kind
  name : v.name = u.name
  attributes : List.Forall₂ Spelled.Alike u.attributes v.attributes
  gap : outline v.gap = outline u.gap

theorem exists_of_forall₂_mem {α : Type} {R : α → α → Prop} {xs ys : List α}
    (h : List.Forall₂ R xs ys) {y : α} (hy : y ∈ ys) : ∃ x ∈ xs, R x y := by
  induction h with
  | nil => exact absurd hy List.not_mem_nil
  | cons hxy _ ih =>
    rcases List.mem_cons.1 hy with rfl | hy
    · exact ⟨_, List.mem_cons_self, hxy⟩
    · obtain ⟨x, hx, hr⟩ := ih hy
      exact ⟨x, List.mem_cons_of_mem _ hx, hr⟩

theorem marks_solid : ∀ c ∈ marks, isBlank c = false := fun _ hc => (solid_of_mem_marks hc).1

theorem Lacks.of_outline_eq {ms s s' : List Char} (h : Lacks ms s)
    (hms : ∀ c ∈ ms, isBlank c = false) (hs : outline s' = outline s) : Lacks ms s' :=
  fun c hc hmem => h c hc ((mem_iff_of_outline_eq hs (hms c hc)).1 hmem)

namespace Spelled

variable {a b : Spelled}

theorem Alike.isPlain (h : a.Alike b) : b.value.isPlain = a.value.isPlain := by
  obtain ⟨v, hv, _⟩ := h.value
  rw [hv, Spelling.isPlain_mapInner]

theorem Alike.wellFormed (h : a.Alike b) (ha : a.WellFormed) (hplain : a.value.isPlain = true) :
    b.WellFormed where
  spaced hnil := ha.spaced ((eq_nil_iff_of_outline_eq h.gap).1 hnil)
  gap := isBlank_of_outline_eq h.gap ha.gap
  named := h.name ▸ ha.named
  name := h.name ▸ ha.name
  unspaced := h.name ▸ ha.unspaced
  value := by
    obtain ⟨v, hv, hsame⟩ := h.value
    have hvalue := ha.value
    rw [hv]
    cases hspelling : a.value with
    | number ds => rw [hspelling] at hplain; exact absurd hplain (by simp [Spelling.isPlain])
    | expression q w => rw [hspelling] at hplain; exact absurd hplain (by simp [Spelling.isPlain])
    | quoted w =>
      rw [hspelling] at hvalue hsame
      exact Lacks.of_outline_eq hvalue marks_solid hsame
    | literal w =>
      rw [hspelling] at hvalue hsame
      refine ⟨Lacks.of_outline_eq hvalue.1
        (fun c hc => marks_solid c (List.mem_of_mem_erase hc)) hsame, ?_⟩
      rw [count_eq_of_outline_eq hsame (by decide)]
      exact hvalue.2

end Spelled

namespace Stretch

variable {u v : Stretch}

theorem Alike.wellFormed (h : u.Alike v) (hu : u.WellFormed) (hplain : u.IsPlain) :
    v.WellFormed where
  before := Lacks.of_outline_eq hu.before marks_solid h.before
  name := h.name ▸ hu.name
  attributes b hb := by
    obtain ⟨a, ha, halike⟩ := exists_of_forall₂_mem h.attributes hb
    exact halike.wellFormed (hu.attributes a ha) (hplain a ha)
  gap := isBlank_of_outline_eq h.gap hu.gap

end Stretch

/-! ## Blanks -/

theorem squeeze_eq_nil {s : List Char} : squeeze s = [] ↔ s = [] :=
  eq_nil_iff_of_outline_eq (outline_squeeze s)

theorem turns_squeeze_unspaced {s : List Char} (h : Unspaced s) : Turns squeeze s s :=
  turns_squeeze_solid h

def Spelled.squeezed (a : Spelled) : Spelled where
  gap := squeeze a.gap
  name := a.name
  value := a.value.mapInner squeeze

theorem Spelled.alike_squeezed (a : Spelled) : a.Alike a.squeezed where
  gap := outline_squeeze a.gap
  name := rfl
  value := ⟨squeeze a.value.inner, by rw [squeezed]; cases a.value <;> rfl, outline_squeeze _⟩

theorem Spelled.turns_squeeze_text {a : Spelled} (h : a.WellFormed) :
    Turns squeeze a.text a.squeezed.text := by
  obtain ⟨c, n, hname⟩ := List.exists_cons_of_ne_nil h.named
  obtain ⟨hfront, hback⟩ := Spelling.enclosed h.value
  obtain ⟨e, b, hlast⟩ : ∃ e b, a.value.back = e :: b := by
    cases a.value <;> exact ⟨_, _, rfl⟩
  have hsolid : ∀ d ∈ Spelling.enclosers, isBlank d = false := fun d hd =>
    (Spelling.solid_of_mem_enclosers hd).1
  have hgap : Turns squeeze (a.gap ++ [c]) (squeeze a.gap ++ [c]) :=
    turns_squeeze (h.unspaced c (by simp [hname])) a.gap
  have hrest : Turns squeeze (n ++ '=' :: a.value.front) (n ++ '=' :: a.value.front) := by
    refine turns_squeeze_unspaced fun d hd => ?_
    rcases List.mem_append.1 hd with hd | hd
    · exact h.unspaced d (by simp [hname, hd])
    · rcases List.mem_cons.1 hd with rfl | hd
      · decide
      · exact hsolid d (hfront d hd)
  have hvalue : Turns squeeze (a.value.inner ++ [e]) (squeeze a.value.inner ++ [e]) :=
    turns_squeeze (hsolid e (hback e (by simp [hlast]))) a.value.inner
  have hclose : Turns squeeze b b := turns_squeeze_unspaced fun d hd =>
    hsolid d (hback d (by simp [hlast, hd]))
  have hall := (hgap.append hrest).append (hvalue.append hclose)
  simpa [text, squeezed, Spelling.text, Spelling.front_mapInner, Spelling.inner_mapInner,
    Spelling.back_mapInner, hname, hlast] using hall

namespace Stretch

variable {u : Stretch}

theorem alike_squeezed (u : Stretch) : u.Alike (u.map squeeze Spelled.squeezed) where
  before := outline_squeeze u.before
  kind := rfl
  name := rfl
  attributes := List.forall₂_map_right_iff.2 (List.forall₂_same.2 fun a _ => a.alike_squeezed)
  gap := outline_squeeze u.gap

theorem turns_squeeze (h : u.WellFormed) :
    Turns squeeze u.text (u.map squeeze Spelled.squeezed).text := by
  have hkind : Unspaced u.kind.front ∧ Unspaced (u.kind.back ++ ['>']) := by
    cases u.kind <;> decide
  refine u.turns_map h (Markup.turns_squeeze (by decide) u.before) (fun c _ rest => ?_)
    (fun a ha => Spelled.turns_squeeze_text (h.attributes a ha)) ?_
  · have hfront : Turns squeeze (u.kind.front ++ u.name) (u.kind.front ++ u.name) :=
      (turns_squeeze_unspaced hkind.1).append (turns_squeeze_unspaced h.name.unspaced)
    have hall := hfront (c :: rest)
    rwa [List.append_assoc, List.append_assoc] at hall
  · obtain ⟨d, r, hcons⟩ := List.exists_cons_of_ne_nil
      (show u.kind.back ++ ['>'] ≠ [] by simp)
    have hgap : Turns squeeze (u.gap ++ [d]) (squeeze u.gap ++ [d]) :=
      Markup.turns_squeeze (hkind.2 d (by simp [hcons])) u.gap
    have hrest : Turns squeeze r r := turns_squeeze_unspaced fun e he =>
      hkind.2 e (by simp [hcons, he])
    have hall := hgap.append hrest
    simpa [stop, map, hcons] using hall

/-! ## All together -/

/-- The stretch as it stands in a component. -/
def jsx (u : Stretch) : Stretch :=
  ((u.renamed propertyName).map id Spelled.styled).map squeeze Spelled.squeezed

theorem isRead_renamed (f : List Char → List Char) (u : Stretch) :
    (u.renamed f).isRead = u.isRead := by
  unfold renamed
  split <;> rfl

theorem WellFormed.renamed (h : u.WellFormed) {f : List Char → List Char}
    (hf : ∀ n, isAttributeName n = true → isAttributeName (f n) = true) :
    (u.renamed f).WellFormed := by
  unfold Stretch.renamed
  split
  · exact h.map h.before h.gap fun a ha =>
      (h.attributes a ha).rename (readName_ne_nil hf (h.attributes a ha).named) fun _ =>
        mem_readName hf
  · exact h

theorem IsPlain.map (h : u.IsPlain) {spaces : List Char → List Char} {attr : Spelled → Spelled}
    (hattr : ∀ a, a.value.isPlain = true → (attr a).value.isPlain = true) :
    (u.map spaces attr).IsPlain := by
  intro a ha
  obtain ⟨b, hb, rfl⟩ := List.mem_map.1 ha
  exact hattr b (h b hb)

theorem IsPlain.renamed (h : u.IsPlain) (f : List Char → List Char) : (u.renamed f).IsPlain := by
  unfold Stretch.renamed
  split
  · exact h.map fun _ ha => ha
  · exact h

theorem WellFormed.styled (h : u.WellFormed) : (u.map id Spelled.styled).WellFormed :=
  h.map h.before h.gap fun a ha =>
    (h.attributes a ha).respell (Spelling.wellFormed_styled (h.attributes a ha).value a.name)

theorem IsPlain.styled (h : u.IsPlain) : (u.map id Spelled.styled).IsPlain :=
  h.map fun a ha => Spelling.isPlain_styled ha a.name

/-- Classes are renamed first, but then every name becomes the same property. -/
theorem renamed_classToProperty (u : Stretch) :
    (u.renamed classToProperty).renamed propertyName = u.renamed propertyName := by
  have hclass : ∀ n, isAttributeName (readName classToProperty n) = isAttributeName n := by
    intro n
    by_cases hn : isAttributeName n = true
    · rw [readName, if_pos hn, classToProperty]
      split
      · rw [hn]
        decide
      · rfl
    · rw [readName, if_neg hn]
  have hname : ∀ n, readName propertyName (readName classToProperty n) =
      readName propertyName n := by
    intro n
    rw [readName, hclass, readName]
    by_cases hn : isAttributeName n = true
    · rw [if_pos hn, if_pos hn, readName, if_pos hn, propertyName_classToProperty]
    · rw [if_neg hn, if_neg hn, readName, if_neg hn]
  by_cases hread : u.isRead = true
  · have hread' : (u.renamed classToProperty).isRead = true := (isRead_renamed _ u).trans hread
    rw [renamed, if_pos hread', renamed, if_pos hread, renamed, if_pos hread, map_map]
    congr 1
    funext a
    simp only [Function.comp, Spelled.rename, hname]
  · have hsame : u.renamed classToProperty = u := if_neg hread
    rw [hsame]

theorem isAttributeName_classToProperty {n : List Char} (h : isAttributeName n = true) :
    isAttributeName (classToProperty n) = true := by
  unfold classToProperty
  split
  · decide
  · exact h

theorem before_renamed (f : List Char → List Char) (u : Stretch) :
    (u.renamed f).before = u.before := by
  unfold renamed
  split <;> rfl

theorem before_jsx (u : Stretch) : u.jsx.before = squeeze u.before := by
  rw [← before_renamed propertyName u]
  rfl

theorem WellFormed.jsx (h : u.WellFormed) (hplain : u.IsPlain) : u.jsx.WellFormed := by
  have hstyled := (h.renamed fun _ => isAttributeName_propertyName).styled
  exact (alike_squeezed _).wellFormed hstyled (hplain.renamed propertyName).styled

end Stretch

/-- The way into a component goes stretch by stretch. -/
theorem toJsx_written {us : List Stretch} (h : ∀ u ∈ us, u.WellFormed)
    (hplain : ∀ u ∈ us, u.IsPlain) (hlaid : Laid us) :
    toJsx (written us) = written (us.map Stretch.jsx) := by
  let renamed (u : Stretch) : Stretch := u.renamed propertyName
  let styled (u : Stretch) : Stretch := (renamed u).map id Spelled.styled
  have hclass : ∀ u ∈ us, (u.renamed classToProperty).WellFormed := fun u hu =>
    (h u hu).renamed fun _ => Stretch.isAttributeName_classToProperty
  have hrenamed : ∀ u ∈ us, (renamed u).WellFormed := fun u hu =>
    (h u hu).renamed fun _ => isAttributeName_propertyName
  have hstrip : stripDeclarations (written (us.map id)) = written (us.map id) := by
    have hspared : ∀ c start close, c = '?' ∨ c = '!' →
        rewrite (lineSpan? ('<' :: c :: start) close) (written (us.map id)) =
          written (us.map id) := fun c start close hc =>
      pass_written rfl fun u hu => u.turns_lineSpan (h u hu) hc start close
    rw [stripDeclarations]
    unfold xmlDeclaration? documentType?
    rw [hspared '?' _ _ (Or.inl rfl), hspared '!' _ _ (Or.inr rfl)]
  have hclasses : renameClass (written (us.map id)) =
      written (us.map (Stretch.renamed classToProperty)) :=
    pass_written rfl fun u hu => u.turns_renameAttributes (h u hu) (hplain u hu) classToProperty
  have hproperties : renameToProperties (written (us.map (Stretch.renamed classToProperty))) =
      written (us.map renamed) :=
    pass_written rfl fun u hu => by
      have hturns := (u.renamed classToProperty).turns_renameAttributes (hclass u hu)
        ((hplain u hu).renamed classToProperty) propertyName
      rwa [Stretch.renamed_classToProperty] at hturns
  have hstyles : convertStyles (written (us.map renamed)) = written (us.map styled) :=
    pass_written rfl fun u hu =>
      (renamed u).turns_convertStyles (hrenamed u hu) ((hplain u hu).renamed propertyName)
  have hstyled : ∀ u ∈ us, (styled u).WellFormed := fun u hu => (hrenamed u hu).styled
  have hclose : selfCloseEmpty (written (us.map styled)) = written (us.map styled) := by
    refine selfCloseEmpty_of_breakTags (Laid.breakTags (hlaid.map fun u => ?_) fun v hv => ?_)
    · rw [← Stretch.before_renamed propertyName u]
      exact Iff.rfl
    · obtain ⟨u, hu, rfl⟩ := List.mem_map.1 hv
      exact hstyled u hu
  have hsqueeze : squeeze (written (us.map styled)) = written (us.map Stretch.jsx) :=
    pass_written rfl fun u hu => (styled u).turns_squeeze (hstyled u hu)
  have hframed : Framed (written (us.map Stretch.jsx)) :=
    (hlaid.map fun u => by rw [Stretch.before_jsx]; exact squeeze_eq_nil).framed
  rw [List.map_id] at hstrip hclasses
  rw [toJsx, hstrip, hclasses, hproperties, hstyles, hclose, collapseBlanks_eq, hsqueeze,
    hframed.trim]

end Markup
end SvgIcon
