import SvgIcon.Proofs.Markup.Dressing

/-!
Markup that goes back and forth.  What the layout leaves of the stretches of a drawing are stretches
again, alike up to blanks; the way into a component gives them a form that the way back and forth no
longer changes.
-/

namespace SvgIcon
namespace Text

/-- A text with the outline of `a`, whatever follows, begins with a part that `P` describes. -/
def Splits (a : List Char) (P : List Char → Prop) : Prop :=
  ∀ rest y : List Char, outline y = outline (a ++ rest) →
    ∃ b r, y = b ++ r ∧ P b ∧ outline r = outline rest

namespace Splits

variable {a a' : List Char} {P Q : List Char → Prop}

theorem append (h : Splits a P) (h' : Splits a' Q) :
    Splits (a ++ a') fun s => ∃ b b', s = b ++ b' ∧ P b ∧ Q b' := by
  intro rest y hy
  rw [List.append_assoc] at hy
  obtain ⟨b, r, rfl, hb, hr⟩ := h _ _ hy
  obtain ⟨b', r', rfl, hb', hr'⟩ := h' _ _ hr
  exact ⟨b ++ b', r', (List.append_assoc _ _ _).symm, ⟨b, b', rfl, hb, hb'⟩, hr'⟩

theorem mono (h : Splits a P) (himp : ∀ s, P s → Q s) : Splits a Q := by
  intro rest y hy
  obtain ⟨b, r, hsplit, hb, hr⟩ := h rest y hy
  exact ⟨b, r, hsplit, himp b hb, hr⟩

/-- Up to a character that is not blank, only blanks may differ. -/
theorem upto {c : Char} (hc : isBlank c = false) (a : List Char) :
    Splits (a ++ [c]) fun s => ∃ b, s = b ++ [c] ∧ outline b = outline a := by
  intro rest y hy
  rw [List.append_assoc, List.singleton_append, outline_append hc] at hy
  obtain ⟨b, r, rfl, hb, hr⟩ := exists_of_outline_eq hc hy
  exact ⟨b ++ [c], r, by simp, ⟨b, rfl, hb⟩, hr⟩

theorem unspaced (h : ∀ c ∈ a, isBlank c = false) : Splits a (· = a) := by
  induction a with
  | nil => exact fun rest y hy => ⟨[], y, rfl, rfl, hy⟩
  | cons c a ih =>
    have hc := upto (h c List.mem_cons_self) []
    have hrest := ih fun d hd => h d (List.mem_cons_of_mem c hd)
    refine (hc.append hrest).mono ?_
    rintro s ⟨_, _, rfl, ⟨b, rfl, hb⟩, rfl⟩
    rw [outline_eq_nil hb]
    rfl

theorem flatMap {α : Type} {f : α → List Char} {R : α → α → Prop} {xs : List α}
    (h : ∀ x ∈ xs, Splits (f x) fun s => ∃ y, s = f y ∧ R x y) :
    Splits (xs.flatMap f) fun s => ∃ ys, s = ys.flatMap f ∧ List.Forall₂ R xs ys := by
  induction xs with
  | nil => exact fun rest y hy => ⟨[], y, rfl, ⟨[], rfl, .nil⟩, hy⟩
  | cons x xs ih =>
    have hx := h x List.mem_cons_self
    have hxs := ih fun z hz => h z (List.mem_cons_of_mem x hz)
    refine (hx.append hxs).mono ?_
    rintro s ⟨_, _, rfl, ⟨y, rfl, hy⟩, ys, rfl, hys⟩
    exact ⟨y :: ys, rfl, .cons hy hys⟩

end Splits

end Text

namespace Markup

open Text

/-! ## Stretches read off an outline -/

theorem Spelled.splits_text {a : Spelled} (h : a.WellFormed) :
    Splits a.text fun s => ∃ b : Spelled, s = b.text ∧ a.Alike b := by
  obtain ⟨c, n, hname⟩ := List.exists_cons_of_ne_nil h.named
  obtain ⟨hfront, hback⟩ := Spelling.enclosed h.value
  obtain ⟨e, z, hlast⟩ : ∃ e z, a.value.back = e :: z := by
    cases a.value <;> exact ⟨_, _, rfl⟩
  have hsolid : ∀ d ∈ Spelling.enclosers, isBlank d = false := fun d hd =>
    (Spelling.solid_of_mem_enclosers hd).1
  have hgap := Splits.upto (h.unspaced c (by simp [hname])) a.gap
  have hmid : Splits (n ++ '=' :: a.value.front) (· = n ++ '=' :: a.value.front) := by
    refine Splits.unspaced fun d hd => ?_
    rcases List.mem_append.1 hd with hd | hd
    · exact h.unspaced d (by simp [hname, hd])
    · rcases List.mem_cons.1 hd with rfl | hd
      · decide
      · exact hsolid d (hfront d hd)
  have hinner := Splits.upto (hsolid e (hback e (by simp [hlast]))) a.value.inner
  have hclose : Splits z (· = z) := Splits.unspaced fun d hd =>
    hsolid d (hback d (by simp [hlast, hd]))
  have hall := (hgap.append hmid).append (hinner.append hclose)
  have htext : a.text =
      a.gap ++ [c] ++ (n ++ '=' :: a.value.front) ++ (a.value.inner ++ [e] ++ z) := by
    simp [text, Spelling.text, hname, hlast]
  rw [htext]
  refine hall.mono ?_
  rintro s ⟨_, _, rfl, ⟨_, _, rfl, ⟨g, rfl, hg⟩, rfl⟩, _, _, rfl, ⟨v, rfl, hv⟩, rfl⟩
  refine ⟨⟨g, a.name, a.value.mapInner fun _ => v⟩, ?_, hg, rfl, v, rfl, hv⟩
  simp [text, Spelling.text, Spelling.front_mapInner, Spelling.inner_mapInner,
    Spelling.back_mapInner, hname, hlast]

theorem Stretch.splits_text {u : Stretch} (h : u.WellFormed) :
    Splits u.text fun s => ∃ v : Stretch, s = v.text ∧ u.Alike v := by
  have hkind : Unspaced u.kind.front ∧ Unspaced (u.kind.back ++ ['>']) := by
    cases u.kind <;> decide
  obtain ⟨d, r, hcons⟩ := List.exists_cons_of_ne_nil
    (show u.kind.back ++ ['>'] ≠ [] by simp)
  have hbefore := Splits.upto (c := '<') (by decide) u.before
  have hname : Splits (u.kind.front ++ u.name) (· = u.kind.front ++ u.name) := by
    refine Splits.unspaced fun c hc => ?_
    rcases List.mem_append.1 hc with hc | hc
    · exact hkind.1 c hc
    · exact h.name.unspaced c hc
  have hattributes := Splits.flatMap fun a ha => Spelled.splits_text (h.attributes a ha)
  have hgap := Splits.upto (hkind.2 d (by simp [hcons])) u.gap
  have hlast : Splits r (· = r) := Splits.unspaced fun c hc => hkind.2 c (by simp [hcons, hc])
  have hall := (hbefore.append hname).append (hattributes.append (hgap.append hlast))
  have hstop : ∀ g : List Char, g ++ [d] ++ r = g ++ u.kind.back ++ ['>'] := fun g => by
    simp [hcons]
  have htext : u.text = u.before ++ ['<'] ++ (u.kind.front ++ u.name) ++
      (u.attributes.flatMap Spelled.text ++ (u.gap ++ [d] ++ r)) := by
    rw [hstop]
    simp [text, tag, inside, stop]
  rw [htext]
  refine hall.mono ?_
  rintro s ⟨_, _, rfl, ⟨_, _, rfl, ⟨b, rfl, hb⟩, rfl⟩, _, _, rfl, ⟨as, rfl, has⟩,
    _, _, rfl, ⟨g, rfl, hg⟩, rfl⟩
  refine ⟨⟨b, u.kind, u.name, as, g⟩, ?_, hb, rfl, rfl, has, hg⟩
  rw [hstop]
  simp [text, tag, inside, stop]

/-- A text with the outline of stretches is one of stretches alike. -/
theorem exists_written_of_outline_eq {us : List Stretch} (h : ∀ u ∈ us, u.WellFormed)
    {y : List Char} (hy : outline y = outline (written us)) :
    ∃ vs, y = written vs ∧ List.Forall₂ Stretch.Alike us vs := by
  have hsplits := Splits.flatMap fun u hu => Stretch.splits_text (h u hu)
  obtain ⟨_, r, rfl, ⟨vs, rfl, hvs⟩, hr⟩ := hsplits [] y (by rw [List.append_nil]; exact hy)
  rw [outline_eq_nil hr, List.append_nil]
  exact ⟨vs, rfl, hvs⟩

/-! ## A form that stays -/

/-- An attribute that has come back once: without an expression, and with a name that has been
restored. -/
def Spelled.Returned (a : Spelled) : Prop :=
  a.value.isPlain = true ∧ ∃ n, ClassNameApart n ∧ a.name = restoredName n

/-- The attribute as it stands in a component, by whether it is read there. -/
def Spelled.jsx (read : Bool) (a : Spelled) : Spelled :=
  ((if read then a.rename turnedName else a).styled).squeezed

theorem Stretch.jsx_eq (u : Stretch) : u.jsx = u.map squeeze (Spelled.jsx u.isRead) := by
  unfold jsx renamed
  cases u.isRead <;> simp [map, Spelled.jsx, turnedName]

theorem Spelling.styled_squeezed {s : Spelling} (hplain : s.isPlain = true) (n : List Char) :
    (((s.styled n).mapInner squeeze).plain.styled n).mapInner squeeze =
      (s.styled n).mapInner squeeze := by
  cases s with
  | number ds => exact absurd hplain (by simp [isPlain])
  | expression q v => exact absurd hplain (by simp [isPlain])
  | literal b => simp [styled, mapInner, plain, unnumbered, unexpressed, squeeze_squeeze]
  | quoted v =>
    by_cases hstyle : "style".toList <:+ n
    · have hstyled : (quoted v).styled n = literal (styleBody v) := if_pos hstyle
      rw [hstyled]
      simp only [mapInner, plain, unnumbered, unexpressed, styled, squeeze_squeeze]
    · have hstyled : ∀ w, (quoted w).styled n = quoted w := fun w => if_neg hstyle
      simp only [hstyled, mapInner, plain, unnumbered, unexpressed, squeeze_squeeze]

theorem Spelled.jsx_plain_jsx {a : Spelled} (h : a.Returned) (read : Bool) :
    ((a.jsx read).plain).jsx read = a.jsx read := by
  obtain ⟨hplain, n, hapart, hname⟩ := h
  have hstays := Spelling.styled_squeezed hplain
  cases read with
  | false =>
    have hback : restoredName a.name = a.name := by rw [hname, restoredName_restoredName]
    simp only [jsx, Bool.false_eq_true, if_false, plain, styled, squeezed, rename, respell, hback,
      hstays, squeeze_squeeze]
  | true =>
    have hback : turnedName (restoredName (turnedName a.name)) = turnedName a.name := by
      rw [hname, turnedName_settled hapart]
    simp only [jsx, if_true, plain, styled, squeezed, rename, respell, hback, hstays,
      squeeze_squeeze]

theorem Stretch.jsx_plain_jsx {u : Stretch} (h : ∀ a ∈ u.attributes, a.Returned) :
    u.jsx.plain.jsx = u.jsx := by
  have hread : (u.map squeeze (Spelled.jsx u.isRead)).plain.isRead = u.isRead := rfl
  rw [jsx_eq u, jsx_eq _, hread, plain, map_map, map_map]
  have hattributes : u.attributes.map (Spelled.jsx u.isRead ∘ Spelled.plain ∘ Spelled.jsx u.isRead) =
      u.attributes.map (Spelled.jsx u.isRead) :=
    List.map_congr_left fun a ha => Spelled.jsx_plain_jsx (h a ha) u.isRead
  simp only [map, Function.comp, id, squeeze_squeeze, Stretch.mk.injEq, true_and, and_true]
  exact hattributes

/-! ## Drawings -/

/-- Another form of the same tag. -/
structure Stretch.Kin (u v : Stretch) : Prop where
  kind : v.kind = u.kind
  name : v.name = u.name
  attributes : v.attributes.length = u.attributes.length
  gap : v.gap = [] ↔ u.gap = []

namespace Stretch

variable {u v w : Stretch}

theorem Kin.trans (h : u.Kin v) (h' : v.Kin w) : u.Kin w :=
  ⟨h'.kind.trans h.kind, h'.name.trans h.name, h'.attributes.trans h.attributes,
    h'.gap.trans h.gap⟩

theorem kin_map (u : Stretch) {spaces : List Char → List Char} {attr : Spelled → Spelled}
    (hspaces : spaces u.gap = [] ↔ u.gap = []) : u.Kin (u.map spaces attr) :=
  ⟨rfl, rfl, List.length_map _, hspaces⟩

theorem kin_plain (u : Stretch) : u.Kin u.plain := u.kin_map Iff.rfl

theorem kin_jsx (u : Stretch) : u.Kin u.jsx := by
  rw [jsx_eq]
  exact u.kin_map squeeze_eq_nil

theorem kin_broken (u : Stretch) : u.Kin u.broken := by
  unfold broken
  split <;> exact ⟨rfl, rfl, rfl, Iff.rfl⟩

theorem Alike.kin (h : u.Alike v) : u.Kin v :=
  ⟨h.kind, h.name, h.attributes.length_eq.symm, eq_nil_iff_of_outline_eq h.gap⟩

theorem Kin.endsSvg (h : u.Kin v) (hv : v.EndsSvg) : u.EndsSvg :=
  ⟨h.kind ▸ hv.1, h.name ▸ hv.2.1, h.gap.1 hv.2.2⟩

/-- A stretch as it comes back from a component. -/
structure Returned (u : Stretch) : Prop where
  wellFormed : u.WellFormed
  attributes : ∀ a ∈ u.attributes, a.Returned

theorem Returned.isPlain (h : u.Returned) : u.IsPlain := fun a ha => (h.attributes a ha).1

theorem returned_plain (h : u.WellFormed) (hnames : ∀ a ∈ u.attributes, ClassNameApart a.name) :
    u.plain.Returned := by
  refine ⟨h.plain, fun a ha => ?_⟩
  obtain ⟨b, hb, rfl⟩ := List.mem_map.1 ha
  exact ⟨Spelling.isPlain_plain _, b.name, hnames b hb, rfl⟩

theorem Returned.broken (h : u.Returned) : u.broken.Returned := by
  unfold Stretch.broken
  split
  · have hfeed : Lacks marks ['\n'] := by decide
    exact ⟨⟨hfeed, h.wellFormed.name, h.wellFormed.attributes, h.wellFormed.gap⟩, h.attributes⟩
  · exact h

theorem Returned.alike (h : u.Returned) (hv : u.Alike v) : v.Returned := by
  refine ⟨hv.wellFormed h.wellFormed h.isPlain, fun b hb => ?_⟩
  obtain ⟨a, ha, halike⟩ := exists_of_forall₂_mem hv.attributes hb
  obtain ⟨hplain, n, hapart, hname⟩ := h.attributes a ha
  exact ⟨halike.isPlain.trans hplain, n, hapart, halike.name.trans hname⟩

theorem notMem_plain_text {c : Char} (hc : isBlank c = true) (hplain : u.IsPlain)
    (h : c ∉ u.text) : c ∉ u.plain.text := by
  intro hmem
  refine h ?_
  simp only [text, tag, inside, stop, plain, map, id, List.mem_append, List.mem_cons,
    List.mem_flatMap, List.mem_map] at hmem ⊢
  rcases hmem with hbefore | hopen | (hfront | hname | ⟨a, ⟨b, hb, rfl⟩, ha⟩ | hstop) | hclose
  · exact Or.inl hbefore
  · exact Or.inr (Or.inl hopen)
  · exact Or.inr (Or.inr (Or.inl (Or.inl hfront)))
  · exact Or.inr (Or.inr (Or.inl (Or.inr (Or.inl hname))))
  · refine Or.inr (Or.inr (Or.inl (Or.inr (Or.inr (Or.inl ⟨b, hb, ?_⟩)))))
    have hvalue : b.plain.value = b.value := Spelling.plain_of_isPlain (hplain b hb)
    simp only [Spelled.text, hvalue, List.mem_append, List.mem_cons] at ha ⊢
    rcases ha with hgap | hname | hrest
    · exact Or.inl hgap
    · rcases mem_restoredName hname with hin | hletter
      · exact Or.inr (Or.inl hin)
      · rw [isBlank_eq_false_of_isNameChar (isNameChar_of_isAsciiLetter hletter)] at hc
        exact absurd hc (by decide)
    · exact Or.inr (Or.inr hrest)
  · exact Or.inr (Or.inr (Or.inl (Or.inr (Or.inr (Or.inr hstop)))))
  · exact Or.inr (Or.inr (Or.inr hclose))

end Stretch

theorem Laid.alike {us vs : List Stretch} (h : Laid us) (halike : List.Forall₂ Stretch.Alike us vs) :
    Laid vs := by
  cases halike with
  | nil => exact h
  | cons huv hrest =>
    refine ⟨(eq_nil_iff_of_outline_eq huv.before).2 h.1, fun v hv => ?_⟩
    obtain ⟨u, hu, hsame⟩ := exists_of_forall₂_mem hrest hv
    exact fun hnil => h.2 u hu ((eq_nil_iff_of_outline_eq hsame.before).1 hnil)

/-- Into SVG, and back into a component. -/
def turn (s : List Char) : List Char := toJsx (ofComponent s)

namespace Drawing

variable {t : Drawing}

/-- What comes back of a drawing are stretches again, one for each of its own. -/
theorem exists_ofComponent_eq (h : t.WellFormed) :
    ∃ vs, ofComponent t.text = written vs ∧ (∀ v ∈ vs, v.Returned) ∧ Laid vs ∧
      List.Forall₂ Stretch.Kin t.stretches vs := by
  obtain ⟨u, us, hcons⟩ : ∃ u us, t.stretches = u :: us := ⟨_, _, rfl⟩
  have hfirst : u.before = [] := by
    rw [← (List.cons.inj hcons).1]
  have hreturned : ∀ v ∈ t.stretches, v.plain.Returned := fun v hv =>
    Stretch.returned_plain (h.stretches v hv) (h.names v hv)
  have hback := ofComponent_written h.stretches
  rw [hcons] at hback hreturned
  -- the tags that the layout breaks apart have a text between them
  have hbroken : ∀ v ∈ u.plain :: (us.map Stretch.plain).map Stretch.broken, v.Returned := by
    intro v hv
    rcases List.mem_cons.1 hv with rfl | hv
    · exact hreturned u List.mem_cons_self
    · obtain ⟨w, hw, rfl⟩ := List.mem_map.1 hv
      obtain ⟨x, hx, rfl⟩ := List.mem_map.1 hw
      exact (hreturned x (List.mem_cons_of_mem u hx)).broken
  have hlaid : Laid (u.plain :: (us.map Stretch.plain).map Stretch.broken) := by
    refine ⟨hfirst, fun v hv => ?_⟩
    obtain ⟨w, _, rfl⟩ := List.mem_map.1 hv
    unfold Stretch.broken
    split
    · simp
    · assumption
  have hbreak := breakTags_written u.plain (us.map Stretch.plain) fun v hv => by
    rw [← List.map_cons] at hv
    obtain ⟨w, hw, rfl⟩ := List.mem_map.1 hv
    exact (hreturned w hw).wellFormed
  have hframed : Framed (breakTags (written (u.plain :: us.map Stretch.plain))) := by
    rw [hbreak]
    exact hlaid.framed
  obtain ⟨vs, hvs, halike⟩ := exists_written_of_outline_eq (fun v hv => (hbroken v hv).wellFormed)
    ((outline_layout hframed).trans (congrArg outline hbreak))
  refine ⟨vs, ?_, fun v hv => ?_, hlaid.alike halike, ?_⟩
  · rw [text, hcons, hback, List.map_cons, hvs]
  · obtain ⟨w, hw, hsame⟩ := exists_of_forall₂_mem halike hv
    exact (hbroken w hw).alike hsame
  · rw [hcons]
    cases halike with
    | cons huv hrest =>
      refine .cons (u.kin_plain.trans huv.kin) ?_
      rw [List.map_map, List.forall₂_map_left_iff] at hrest
      exact hrest.imp fun v w hvw => (v.kin_plain.trans v.plain.kin_broken).trans hvw.kin

/-- The form that a drawing takes in a component stays the same on the way back and forth. -/
theorem turn_written {vs : List Stretch} (h : ∀ v ∈ vs, v.Returned) (hlaid : Laid vs) :
    toJsx (written vs) = written (vs.map Stretch.jsx) ∧
      turn (written (vs.map Stretch.jsx)) = written (vs.map Stretch.jsx) := by
  have hfirst := toJsx_written (fun v hv => (h v hv).wellFormed) (fun v hv => (h v hv).isPlain) hlaid
  have hjsx : ∀ v ∈ vs.map Stretch.jsx, v.WellFormed ∧ v.IsPlain := by
    intro v hv
    obtain ⟨w, hw, rfl⟩ := List.mem_map.1 hv
    refine ⟨(h w hw).wellFormed.jsx (h w hw).isPlain, ?_⟩
    exact ((h w hw).isPlain.renamed propertyName).styled.map fun a ha => by
      rw [Spelled.squeezed, Spelling.isPlain_mapInner, ha]
  have hplain : ∀ v ∈ (vs.map Stretch.jsx).map Stretch.plain, v.WellFormed ∧ v.IsPlain := by
    intro v hv
    obtain ⟨w, hw, rfl⟩ := List.mem_map.1 hv
    refine ⟨(hjsx w hw).1.plain, fun a ha => ?_⟩
    obtain ⟨b, _, rfl⟩ := List.mem_map.1 ha
    exact Spelling.isPlain_plain _
  have hlaid' : Laid ((vs.map Stretch.jsx).map Stretch.plain) := by
    refine (hlaid.map fun u => ?_).map fun u => Iff.rfl
    rw [Stretch.before_jsx]
    exact squeeze_eq_nil
  have hfeed : isBlank '\n' = true := by decide
  have hline : '\n' ∉ written ((vs.map Stretch.jsx).map Stretch.plain) := by
    have hsingle : '\n' ∉ written (vs.map Stretch.jsx) := by
      rw [← hfirst, toJsx, collapseBlanks_eq]
      exact fun hmem => notMem_squeeze_lineBreak (by decide) _ (mem_of_mem_trim hmem)
    intro hmem
    obtain ⟨v, hv, hin⟩ := List.mem_flatMap.1 hmem
    obtain ⟨w, hw, rfl⟩ := List.mem_map.1 hv
    refine Stretch.notMem_plain_text hfeed (hjsx w hw).2 (fun hw' => ?_) hin
    exact hsingle (List.mem_flatMap.2 ⟨w, hw, hw'⟩)
  have hlayout : layout (written ((vs.map Stretch.jsx).map Stretch.plain)) =
      written ((vs.map Stretch.jsx).map Stretch.plain) :=
    layout_of_single hlaid'.framed hline (hlaid'.breakTags fun v hv => (hplain v hv).1)
  have hagain : ((vs.map Stretch.jsx).map Stretch.plain).map Stretch.jsx = vs.map Stretch.jsx := by
    rw [List.map_map, List.map_map]
    exact List.map_congr_left fun v hv => Stretch.jsx_plain_jsx (h v hv).attributes
  refine ⟨hfirst, ?_⟩
  rw [turn, ofComponent_written fun v hv => (hjsx v hv).1, hlayout,
    toJsx_written (fun v hv => (hplain v hv).1) (fun v hv => (hplain v hv).2) hlaid', hagain]

theorem turn_turn (h : t.WellFormed) : turn (turn t.text) = turn t.text := by
  obtain ⟨vs, hback, hreturned, hlaid, _⟩ := exists_ofComponent_eq h
  obtain ⟨hinto, hstays⟩ := turn_written hreturned hlaid
  have hturn : turn t.text = written (vs.map Stretch.jsx) := by rw [turn, hback, hinto]
  rw [hturn, hstays]

/-! ## The ends of a drawing -/

theorem free_svgEnd_text {u : Stretch} (h : u.WellFormed) (hends : ¬ u.EndsSvg) :
    Free svgEnd u.text := by
  have hopen : '<' ∉ u.inside ++ ['>'] := by
    simpa using h.notMem_inside (c := '<') (by decide)
  refine (Free.of_notMem_head (h.before '<' (by decide))).append
    ⟨fun rest => ?_, Free.of_notMem_head hopen⟩
  obtain ⟨c, n, hname⟩ := h.exists_name
  have hslash : '/' ≠ c := by
    rintro rfl
    exact h.name.lacks '/' (by decide) (by simp [hname])
  have hother : ∀ r, after? svgEnd ('<' :: c :: r) = none := fun r => by
    show after? ('<' :: '/' :: "svg>".toList) ('<' :: c :: r) = none
    simp [after?, hslash]
  cases hkind : u.kind with
  | opening =>
    rw [Stretch.inside, hkind, hname]
    exact hother _
  | closed =>
    rw [Stretch.inside, hkind, hname]
    exact hother _
  | closing =>
    have hclose : '>' ∉ '<' :: u.inside := by simpa using h.notMem_inside (c := '>') (by decide)
    have hne : '<' :: u.inside ≠ "</svg".toList := fun heq => by
      have hrest : u.name ++ (u.attributes.flatMap Spelled.text ++ u.gap) = "svg".toList := by
        have hinside : '/' :: (u.name ++ (u.attributes.flatMap Spelled.text ++ u.gap)) = u.inside := by
          simp [Stretch.inside, Stretch.stop, hkind, Kind.front, Kind.back]
        have htail := (List.cons.inj heq).2
        rw [← hinside] at htail
        exact (List.cons.inj htail).2
      -- no blank stands in the name, so neither attributes nor a gap follow it
      have hsolid : Unspaced (u.name ++ (u.attributes.flatMap Spelled.text ++ u.gap)) := by
        rw [hrest]
        decide
      have hgap : u.gap = [] := by
        refine List.eq_nil_iff_forall_not_mem.2 fun d hd => ?_
        have hnot := hsolid d (by simp [hd])
        rw [h.gap d hd] at hnot
        exact Bool.noConfusion hnot
      have hattributes : u.attributes = [] := by
        refine List.eq_nil_iff_forall_not_mem.2 fun a ha => ?_
        have hspelled := h.attributes a ha
        obtain ⟨d, g, hcons⟩ := List.exists_cons_of_ne_nil hspelled.spaced
        have hin : d ∈ a.text := by simp [Spelled.text, hcons]
        have hnot := hsolid d (List.mem_append_right _ (List.mem_append_left _
          (List.mem_flatMap.2 ⟨a, ha, hin⟩)))
        rw [hspelled.gap d (by simp [hcons])] at hnot
        exact Bool.noConfusion hnot
      rw [hgap, hattributes, List.flatMap_nil, List.append_nil, List.append_nil] at hrest
      exact hends ⟨hkind, hrest, hgap⟩
    have hnone := after?_mark_eq_none "</svg".toList [] (by decide) hclose hne rest
    rw [List.cons_append, List.append_assoc]
    exact hnone

theorem free_svgEnd_written {us : List Stretch} (h : ∀ u ∈ us, u.WellFormed ∧ ¬ u.EndsSvg) :
    Free svgEnd (written us) := by
  induction us with
  | nil => exact True.intro
  | cons u us ih =>
    obtain ⟨hu, hends⟩ := h u List.mem_cons_self
    exact (free_svgEnd_text hu hends).append (ih fun v hv => h v (List.mem_cons_of_mem u hv))

theorem exists_of_forall₂_concat {α : Type} {R : α → α → Prop} {xs ys : List α} {x : α}
    (h : List.Forall₂ R (xs ++ [x]) ys) :
    ∃ zs z, ys = zs ++ [z] ∧ List.Forall₂ R xs zs ∧ R x z := by
  induction xs generalizing ys with
  | nil =>
    cases h with
    | cons hxy hrest =>
      cases hrest
      exact ⟨[], _, rfl, .nil, hxy⟩
  | cons w xs ih =>
    cases h with
    | cons hwy hrest =>
      obtain ⟨zs, z, rfl, hzs, hz⟩ := ih hrest
      exact ⟨_ :: zs, z, rfl, .cons hwy hzs, hz⟩

/-- What a drawing becomes begins as an `svg` element does, and ends at its only `</svg>`. -/
theorem exists_turn_eq (h : t.WellFormed) :
    ∃ inner, turn t.text = svgStart ++ (inner ++ svgEnd) ∧ Free svgEnd inner := by
  obtain ⟨vs, hback, hreturned, hlaid, hkin⟩ := exists_ofComponent_eq h
  have hturn : turn t.text = written (vs.map Stretch.jsx) := by
    rw [turn, hback, (turn_written hreturned hlaid).1]
  have hwell : ∀ v ∈ vs.map Stretch.jsx, v.WellFormed := by
    intro v hv
    obtain ⟨w, hw, rfl⟩ := List.mem_map.1 hv
    exact (hreturned w hw).wellFormed.jsx (hreturned w hw).isPlain
  have hlaid' : Laid (vs.map Stretch.jsx) := hlaid.map fun u => by
    rw [Stretch.before_jsx]
    exact squeeze_eq_nil
  have hkin' : List.Forall₂ Stretch.Kin t.stretches (vs.map Stretch.jsx) := by
    rw [List.forall₂_map_right_iff]
    exact hkin.imp fun u v huv => huv.trans v.kin_jsx
  obtain ⟨zs, z, hsplit, hopened, hlast⟩ := exists_of_forall₂_concat hkin'
  rw [hsplit] at hturn hwell hlaid'
  cases hopened with
  | @cons _ y _ ys hfirst hmid =>
    have hy := hwell y (by simp)
    have hz := hwell z (by simp)
    have hopen : '<' ∉ y.attributes.flatMap Spelled.text ++ (y.stop ++ ['>']) := by
      have hin := hy.notMem_inside (c := '<') (by decide)
      simp only [Stretch.inside, List.mem_append, not_or] at hin
      simp only [List.mem_append, List.mem_singleton, not_or]
      exact ⟨hin.2.2.1, hin.2.2.2, by decide⟩
    have hstart : y.text = svgStart ++ (y.attributes.flatMap Spelled.text ++ (y.stop ++ ['>'])) := by
      have hname : y.kind.front ++ y.name = "svg".toList := by
        rw [hfirst.kind, hfirst.name]
        rfl
      have hbefore : y.before = [] := hlaid'.1
      have htag : y.tag = '<' :: (y.kind.front ++ y.name ++
          (y.attributes.flatMap Spelled.text ++ (y.stop ++ ['>']))) := by
        simp [Stretch.tag, Stretch.inside]
      rw [Stretch.text, hbefore, htag, hname]
      rfl
    have hstop : z.text = z.before ++ svgEnd := by
      have hattributes : z.attributes = [] := List.eq_nil_of_length_eq_zero hlast.attributes
      have hgap : z.gap = [] := hlast.gap.2 rfl
      have hkind : z.kind = .closing := hlast.kind
      have hname : z.name = "svg".toList := hlast.name
      rw [Stretch.text, Stretch.tag, Stretch.inside, Stretch.stop, hattributes, hgap, hkind, hname]
      rfl
    refine ⟨y.attributes.flatMap Spelled.text ++ (y.stop ++ ['>']) ++ (written ys ++ z.before),
      ?_, ?_⟩
    · rw [hturn, List.cons_append, written_cons, written_append, hstart]
      simp [written, hstop]
    · refine (Free.of_notMem_head hopen).append
        ((free_svgEnd_written fun v hv => ⟨hwell v (by simp [hv]), fun hends => ?_⟩).append
          (Free.of_notMem_head (hz.before '<' (by decide))))
      obtain ⟨u, hu, huv⟩ := exists_of_forall₂_mem hmid hv
      exact h.single u (List.mem_cons_of_mem _ hu) (huv.endsSvg hends)

end Drawing

end Markup
end SvgIcon
