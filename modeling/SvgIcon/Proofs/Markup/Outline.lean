import Mathlib.Data.List.TakeWhile
import SvgIcon.Proofs.Markup.Blanks
import SvgIcon.Proofs.Markup.Lines

/-!
Texts up to the length of their runs of blanks.  Neither the layout nor the collapsing of blanks
changes more than that, apart from the breaks between tags; and a text whose outline is known can be
taken apart at every character that is not blank.
-/

namespace SvgIcon
namespace Text

def startsBlank (s : List Char) : Bool := s.head?.any isBlank

/-- Each run of blanks as one space. -/
def outline : List Char → List Char
  | [] => []
  | c :: s =>
    if isBlank c then
      if startsBlank s then outline s else ' ' :: outline s
    else c :: outline s

theorem outline_cons {c : Char} (hc : isBlank c = false) (s : List Char) :
    outline (c :: s) = c :: outline s := by
  rw [outline, if_neg (by simp [hc])]

theorem outline_blank {c : Char} (hc : isBlank c = true) (s : List Char) :
    outline (c :: s) = if startsBlank s then outline s else ' ' :: outline s := by
  rw [outline, if_pos hc]

theorem startsBlank_outline (s : List Char) : startsBlank (outline s) = startsBlank s := by
  induction s with
  | nil => rfl
  | cons c s ih =>
    by_cases hc : isBlank c = true
    · have hstart : startsBlank (c :: s) = true := by simpa [startsBlank] using hc
      rw [outline_blank hc, hstart]
      split
      · rename_i hs
        rw [ih, hs]
      · rfl
    · rw [outline_cons (by simpa using hc)]
      rfl

theorem outline_append {a : List Char} {c : Char} (hc : isBlank c = false) (b : List Char) :
    outline (a ++ c :: b) = outline a ++ c :: outline b := by
  induction a with
  | nil => exact outline_cons hc b
  | cons d a ih =>
    have hstart : startsBlank (a ++ c :: b) = startsBlank a := by
      cases a with
      | nil => simpa [startsBlank] using hc
      | cons e a => rfl
    rw [List.cons_append]
    by_cases hd : isBlank d = true
    · rw [outline_blank hd, outline_blank hd, hstart, ih]
      split <;> rfl
    · have hsolid : isBlank d = false := by simpa using hd
      rw [outline_cons hsolid, outline_cons hsolid, ih, List.cons_append]

/-- A text is taken apart where its outline is, at a character that is not blank. -/
theorem exists_of_outline_eq {t x y : List Char} {c : Char} (hc : isBlank c = false)
    (h : outline t = x ++ c :: y) : ∃ a b, t = a ++ c :: b ∧ outline a = x ∧ outline b = y := by
  induction t generalizing x with
  | nil => exact absurd h (by simp [outline])
  | cons d t ih =>
    by_cases hd : isBlank d = true
    · rw [outline_blank hd] at h
      by_cases hstart : startsBlank t = true
      · rw [if_pos hstart] at h
        obtain ⟨a, b, rfl, ha, hb⟩ := ih h
        have ha' : startsBlank a = true := by
          cases a with
          | nil => simp [startsBlank, hc] at hstart
          | cons e a => exact hstart
        exact ⟨d :: a, b, rfl, by rw [outline_blank hd, if_pos ha', ha], hb⟩
      · rw [if_neg hstart] at h
        cases x with
        | nil =>
          have hspace := (List.cons.inj h).1
          rw [← hspace] at hc
          exact absurd hc (by decide)
        | cons e x =>
          obtain ⟨rfl, hx⟩ := List.cons.inj h
          obtain ⟨a, b, rfl, ha, hb⟩ := ih hx
          have ha' : ¬ startsBlank a = true := by
            cases a with
            | nil => simp [startsBlank]
            | cons e a => exact hstart
          exact ⟨d :: a, b, rfl, by rw [outline_blank hd, if_neg ha', ha], hb⟩
    · have hsolid : isBlank d = false := by simpa using hd
      rw [outline_cons hsolid] at h
      cases x with
      | nil =>
        obtain ⟨rfl, ht⟩ := List.cons.inj h
        exact ⟨[], t, rfl, rfl, ht⟩
      | cons e x =>
        obtain ⟨rfl, hx⟩ := List.cons.inj h
        obtain ⟨a, b, rfl, ha, hb⟩ := ih hx
        exact ⟨d :: a, b, rfl, by rw [outline_cons hsolid, ha], hb⟩

theorem outline_eq_nil {s : List Char} (h : outline s = []) : s = [] := by
  induction s with
  | nil => rfl
  | cons c s ih =>
    by_cases hc : isBlank c = true
    · rw [outline_blank hc] at h
      split at h
      · rename_i hs
        rw [ih h] at hs
        exact absurd hs (by decide)
      · exact absurd h (by simp)
    · rw [outline_cons (by simpa using hc)] at h
      exact absurd h (by simp)

/-! ## Replacing a part by one of the same outline -/

theorem outline_append_congr {s s' : List Char} (x : List Char) (h : outline s = outline s') :
    outline (x ++ s) = outline (x ++ s') := by
  induction x with
  | nil => exact h
  | cons c x ih =>
    have hstart : startsBlank (x ++ s) = startsBlank (x ++ s') := by
      rw [← startsBlank_outline, ih, startsBlank_outline]
    rw [List.cons_append, List.cons_append, outline, outline, hstart, ih]

/-- A run of blanks counts as one space. -/
theorem outline_blanks {g : List Char} (hne : g ≠ []) (hg : ∀ c ∈ g, isBlank c = true)
    (s : List Char) : outline (g ++ s) = outline (' ' :: s) := by
  induction g with
  | nil => exact absurd rfl hne
  | cons c g ih =>
    have hc := hg c List.mem_cons_self
    cases g with
    | nil => rw [List.singleton_append, outline_blank hc, outline_blank (by decide)]
    | cons d g =>
      have hrest := ih (by simp) fun e he => hg e (List.mem_cons_of_mem c he)
      have hstart : startsBlank (d :: g ++ s) = true := by
        simpa [startsBlank] using hg d (by simp)
      rw [List.cons_append, outline_blank hc, if_pos hstart, hrest]

/-- Blanks between line feeds make no difference. -/
theorem outline_line {g g' : List Char} (hg : ∀ c ∈ g, isBlank c = true)
    (hg' : ∀ c ∈ g', isBlank c = true) (l rest : List Char) :
    outline ('\n' :: (g ++ l) ++ (g' ++ '\n' :: rest)) = outline ('\n' :: l ++ '\n' :: rest) := by
  have hfeed : isBlank '\n' = true := by decide
  have hback : outline (g' ++ '\n' :: rest) = outline ('\n' :: rest) := by
    have hlong := outline_blanks (g := g' ++ ['\n']) (by simp)
      (by simpa [or_imp, forall_and, hfeed] using hg') rest
    have hshort := outline_blanks (g := ['\n']) (by simp) (by simpa using hfeed) rest
    rw [List.append_assoc] at hlong
    exact hlong.trans hshort.symm
  have hfront : outline ('\n' :: g ++ (l ++ '\n' :: rest)) = outline ('\n' :: (l ++ '\n' :: rest)) := by
    have hlong := outline_blanks (g := '\n' :: g) (by simp) (by simpa [hfeed] using hg)
      (l ++ '\n' :: rest)
    have hshort := outline_blanks (g := ['\n']) (by simp) (by simpa using hfeed) (l ++ '\n' :: rest)
    exact hlong.trans hshort.symm
  calc outline ('\n' :: (g ++ l) ++ (g' ++ '\n' :: rest))
      = outline ('\n' :: (g ++ l) ++ '\n' :: rest) := outline_append_congr _ hback
    _ = outline ('\n' :: g ++ (l ++ '\n' :: rest)) := by
        rw [List.cons_append, List.cons_append, List.append_assoc]
    _ = outline ('\n' :: l ++ '\n' :: rest) := hfront

/-! ## Characters that are not blank -/

/-- The characters that are not blank. -/
def solid (s : List Char) : List Char := s.filter fun c => !isBlank c

theorem solid_outline (s : List Char) : solid (outline s) = solid s := by
  induction s with
  | nil => rfl
  | cons c s ih =>
    by_cases hc : isBlank c = true
    · have hdrop : solid (c :: s) = solid s := List.filter_cons_of_neg (by simp [hc])
      rw [outline_blank hc, hdrop]
      split
      · exact ih
      · exact (List.filter_cons_of_neg (by decide)).trans ih
    · have hkeep : solid (c :: s) = c :: solid s := List.filter_cons_of_pos (by simpa using hc)
      have hkeep' : solid (c :: outline s) = c :: solid (outline s) :=
        List.filter_cons_of_pos (by simpa using hc)
      rw [outline_cons (by simpa using hc), hkeep, hkeep', ih]

section
variable {a b : List Char}

theorem solid_eq_of_outline_eq (h : outline a = outline b) : solid a = solid b := by
  rw [← solid_outline, h, solid_outline]

theorem mem_iff_of_outline_eq (h : outline a = outline b) {c : Char} (hc : isBlank c = false) :
    c ∈ a ↔ c ∈ b := by
  have hsolid : ∀ s, c ∈ s ↔ c ∈ solid s := fun s => by simp [solid, hc]
  rw [hsolid a, hsolid b, solid_eq_of_outline_eq h]

theorem count_eq_of_outline_eq (h : outline a = outline b) {c : Char} (hc : isBlank c = false) :
    a.count c = b.count c := by
  have hsolid : ∀ s : List Char, s.count c = (solid s).count c := fun s =>
    (List.count_filter (by simpa using hc)).symm
  rw [hsolid a, hsolid b, solid_eq_of_outline_eq h]

theorem eq_nil_iff_of_outline_eq (h : outline a = outline b) : a = [] ↔ b = [] := by
  constructor
  · rintro rfl
    exact outline_eq_nil h.symm
  · rintro rfl
    exact outline_eq_nil h

theorem isBlank_of_outline_eq (h : outline a = outline b) (hb : ∀ c ∈ b, isBlank c = true) :
    ∀ c ∈ a, isBlank c = true := by
  intro c hc
  cases hsolid : isBlank c with
  | true => rfl
  | false => rw [← hsolid, hb c ((mem_iff_of_outline_eq h hsolid).1 hc)]

end

end Text

namespace Markup

open Text

theorem Framed.outline_between {s : List Char} (h : Framed s) :
    outline ('\n' :: (s ++ ['\n'])) = ' ' :: (outline s ++ [' ']) := by
  obtain ⟨c, r, hstart, hc⟩ := h.start
  obtain ⟨a, d, hstop, hd⟩ := h.stop
  have hfeed : isBlank '\n' = true := by decide
  have hfirst : startsBlank (s ++ ['\n']) = false := by
    simpa [hstart, startsBlank] using hc
  have hlast : outline (s ++ ['\n']) = outline s ++ [' '] := by
    rw [hstop, List.append_assoc, List.singleton_append, outline_append hd, outline_append hd,
      List.append_assoc]
    rfl
  rw [outline_blank hfeed, hfirst, if_neg (by simp), hlast]

/-! ## The layout -/

/-- Lines with a line feed around each. -/
def fed (ls : List (List Char)) : List Char := ls.flatMap ('\n' :: ·) ++ ['\n']

theorem fed_eq_join {ls : List (List Char)} (h : ls ≠ []) :
    '\n' :: (join ['\n'] ls ++ ['\n']) = fed ls := by
  induction ls with
  | nil => exact absurd rfl h
  | cons l ls ih =>
    cases ls with
    | nil => simp [fed, join]
    | cons k ls =>
      have hrest := ih (by simp)
      rw [fed, List.flatMap_cons, List.append_assoc, ← fed, ← hrest, join_cons_cons]
      simp

theorem exists_fed_eq (ls : List (List Char)) : ∃ rest, fed ls = '\n' :: rest := by
  cases ls with
  | nil => exact ⟨[], rfl⟩
  | cons l ls => exact ⟨_, rfl⟩

theorem isBlank_of_mem_indent {n : Nat} {c : Char} (h : c ∈ indent n) : isBlank c = true := by
  rw [List.eq_of_mem_replicate h]
  decide

theorem outline_fed_indentLines (depth : Nat) (ls : List (List Char)) :
    outline (fed (indentLines depth (ls.map trim))) = outline (fed ls) := by
  induction ls generalizing depth with
  | nil => rfl
  | cons l ls ih =>
    obtain ⟨n, depth', hlines⟩ := indentLines_eq_cons depth (trim l) (ls.map trim)
    obtain ⟨rest, hrest⟩ := exists_fed_eq ls
    obtain ⟨g, g', hl, hg, hg'⟩ := exists_trim l
    have hfed : ∀ k ks, fed (k :: ks) = '\n' :: k ++ fed ks := fun k ks => by
      rw [fed, List.flatMap_cons, List.append_assoc, ← fed]
    have hindented : outline ('\n' :: (indent n ++ trim l) ++ '\n' :: rest) =
        outline ('\n' :: trim l ++ '\n' :: rest) :=
      outline_line (fun _ hc => isBlank_of_mem_indent hc) (List.forall_mem_nil _) (trim l) rest
    have hwhole := outline_line hg hg' (trim l) rest
    rw [List.map_cons, hlines, hfed, hfed, outline_append_congr _ (ih depth'), hrest]
    have hsplit : '\n' :: (g ++ trim l) ++ (g' ++ '\n' :: rest) = '\n' :: l ++ '\n' :: rest := by
      have hline := congrArg (fun u => '\n' :: u ++ '\n' :: rest) hl
      simpa using hline.symm
    rw [hsplit] at hwhole
    exact hindented.trans hwhole.symm

/-- Between two line feeds, the layout of a text has the outline of the text with its tags broken
apart. -/
theorem outline_layout_between (s : List Char) :
    outline ('\n' :: (layout s ++ ['\n'])) = outline ('\n' :: (breakTags s ++ ['\n'])) := by
  have hne : pieces '\n' (breakTags s) ≠ [] := pieces_ne_nil _ _
  have hlines : indentLines 0 ((pieces '\n' (breakTags s)).map trim) ≠ [] := fun hnil =>
    hne (List.map_eq_nil_iff.1 (indentLines_eq_nil.1 hnil))
  obtain ⟨g, g', hjoin, hg, hg'⟩ :=
    exists_trim (join ['\n'] (indentLines 0 ((pieces '\n' (breakTags s)).map trim)))
  have htrim := outline_line hg hg' (layout s) []
  have hbroken := fed_eq_join hne
  rw [join_pieces] at hbroken
  rw [hbroken, ← outline_fed_indentLines 0, ← fed_eq_join hlines]
  simp only [List.cons_append, List.append_assoc] at htrim
  rw [hjoin, List.append_assoc, List.append_assoc]
  exact htrim.symm

/-- The layout of a text differs from the text with its tags broken apart by blanks only, and by
none where there were none. -/
theorem outline_layout {s : List Char} (h : Framed (breakTags s)) :
    outline (layout s) = outline (breakTags s) := by
  have hall := outline_layout_between s
  rw [h.outline_between] at hall
  have hlaid : layout s ≠ [] := by
    intro hnil
    rw [hnil, show outline ('\n' :: ([] ++ ['\n'])) = [' '] by decide] at hall
    exact absurd (congrArg List.length hall) (by simp)
  have hframed : Framed (layout s) := framed_trim hlaid
  rw [hframed.outline_between] at hall
  exact List.append_cancel_right (List.cons.inj hall).2

theorem solid_breakTags (s : List Char) : solid (breakTags s) = solid s := by
  induction s with
  | nil => rfl
  | cons c s ih =>
    have hcons : ∀ u, solid (c :: u) = if isBlank c then solid u else c :: solid u := fun u => by
      by_cases hc : isBlank c = true <;> simp [solid, hc]
    rw [breakTags]
    split
    · rw [hcons, hcons, ← ih]
      rfl
    · rw [hcons, hcons, ih]

/-- The layout changes nothing but blanks. -/
theorem solid_layout (s : List Char) : solid (layout s) = solid s := by
  have hbetween : ∀ u : List Char, solid ('\n' :: (u ++ ['\n'])) = solid u := fun u => by
    have hfeed : isBlank '\n' = true := by decide
    simp [solid, hfeed]
  have hall := solid_eq_of_outline_eq (outline_layout_between s)
  rwa [hbetween, hbetween, solid_breakTags] at hall

/-- A text on one line with nothing to break is laid out already. -/
theorem layout_of_single {s : List Char} (hs : Framed s) (hline : '\n' ∉ s)
    (hbreak : breakTags s = s) : layout s = s := by
  have hlines : brokenLines s = [s] := by
    rw [brokenLines, hbreak, pieces_of_notMem hline, List.map_singleton, hs.trim]
  rw [layout_eq, hlines, laid_of_framed (by simp) (by simpa using hs), indentLines_cons hs.ne_nil,
    indent_enter_zero]
  rfl

/-! ## Collapsing -/

/-- A run that is long enough is taken as a whole, and any other character is copied. -/
theorem rewrite_run?_cons (inRun : Char → Bool) {least : Nat} (hleast : 0 < least) (c : Char)
    (s : List Char) :
    (least ≤ ((c :: s).takeWhile inRun).length ∧ rewrite (run? inRun least) (c :: s) =
        ' ' :: rewrite (run? inRun least) ((c :: s).dropWhile inRun)) ∨
      (((c :: s).takeWhile inRun).length < least ∧ rewrite (run? inRun least) (c :: s) =
        c :: rewrite (run? inRun least) s) := by
  by_cases hlong : least ≤ ((c :: s).takeWhile inRun).length
  · obtain ⟨k, hk⟩ := Nat.exists_eq_succ_of_ne_zero
      (show ((c :: s).takeWhile inRun).length ≠ 0 by omega)
    have hfind : run? inRun least (c :: s) = some (k + 1, [' ']) := by
      rw [run?, if_pos hlong, hk]
    have hdrop : (c :: s).drop (k + 1) = (c :: s).dropWhile inRun := by
      have hwhole := congrArg (List.drop (k + 1))
        (List.takeWhile_append_dropWhile (p := inRun) (l := c :: s))
      rw [← hwhole]
      exact List.drop_left' hk
    refine Or.inl ⟨hlong, ?_⟩
    rw [rewrite_of_some hfind (by simp), hdrop]
    rfl
  · have hnone : run? inRun least (c :: s) = none := by rw [run?, if_neg hlong]
    exact Or.inr ⟨by omega, rewrite_of_none hnone⟩

theorem length_dropWhile_lt {inRun : Char → Bool} {s : List Char}
    (h : 0 < (s.takeWhile inRun).length) : (s.dropWhile inRun).length < s.length := by
  have hsum := congrArg List.length (List.takeWhile_append_dropWhile (p := inRun) (l := s))
  rw [List.length_append] at hsum
  omega

theorem outline_rewrite_run? {inRun : Char → Bool} {least : Nat} (hleast : 0 < least)
    (hrun : ∀ c, inRun c = true → isBlank c = true) (s : List Char) :
    outline (rewrite (run? inRun least) s) = outline s := by
  -- a run is taken as a whole, so the induction is on the length
  induction hlength : s.length using Nat.strongRecOn generalizing s with
  | ind n ih =>
    cases s with
    | nil => rfl
    | cons c s =>
      rcases rewrite_run?_cons inRun hleast c s with ⟨hlong, heq⟩ | ⟨_, heq⟩
      · have hshorter := ih _ (hlength ▸ length_dropWhile_lt (by omega))
          ((c :: s).dropWhile inRun) rfl
        have hblanks := outline_blanks (g := (c :: s).takeWhile inRun)
          (fun hnil => by rw [hnil, List.length_nil] at hlong; omega)
          (fun d hd => hrun d (List.mem_takeWhile_imp hd)) ((c :: s).dropWhile inRun)
        rw [List.takeWhile_append_dropWhile] at hblanks
        rw [heq, hblanks]
        exact outline_append_congr [' '] hshorter
      · rw [heq]
        exact outline_append_congr [c] (ih s.length (by simp [← hlength]) s rfl)

theorem isBlank_of_isLineBreak {c : Char} (h : isLineBreak c = true) : isBlank c = true := by
  cases hsolid : isBlank c with
  | true => rfl
  | false =>
    rw [isLineBreak_eq_false hsolid] at h
    exact Bool.noConfusion h

theorem outline_squeeze (s : List Char) : outline (squeeze s) = outline s := by
  rw [squeeze, outline_rewrite_run? Nat.two_pos fun _ h => h,
    outline_rewrite_run? Nat.one_pos fun _ => isBlank_of_isLineBreak]

/-- Blanks in front make no difference to what a pass over runs leaves behind its blanks in front. -/
theorem trimStart_rewrite_run? {inRun : Char → Bool} {least : Nat} (hleast : 0 < least)
    (hrun : ∀ c, inRun c = true → isBlank c = true) (s : List Char) :
    trimStart isBlank (rewrite (run? inRun least) s) =
      trimStart isBlank (rewrite (run? inRun least) (trimStart isBlank s)) := by
  induction hlength : s.length using Nat.strongRecOn generalizing s with
  | ind n ih =>
    cases s with
    | nil => rfl
    | cons c s =>
      cases hc : isBlank c with
      | false => rw [trimStart, trimStart, trimStart, List.dropWhile_cons_of_neg (by simp [hc])]
      | true =>
        have hskip : ∀ {d} (t : List Char), isBlank d = true →
            trimStart isBlank (d :: t) = trimStart isBlank t := fun t hd =>
          List.dropWhile_cons_of_pos hd
        rcases rewrite_run?_cons inRun hleast c s with ⟨hlong, heq⟩ | ⟨_, heq⟩
        · -- a run is blank, so it may as well be taken off first
          have hrest := ih _ (hlength ▸ length_dropWhile_lt (by omega))
            ((c :: s).dropWhile inRun) rfl
          have hsame : trimStart isBlank ((c :: s).dropWhile inRun) = trimStart isBlank (c :: s) := by
            have hwhole : ((c :: s).takeWhile inRun ++ (c :: s).dropWhile inRun).dropWhile isBlank =
                ((c :: s).dropWhile inRun).dropWhile isBlank :=
              List.dropWhile_append_of_pos fun d hd => hrun d (List.mem_takeWhile_imp hd)
            rw [List.takeWhile_append_dropWhile] at hwhole
            exact hwhole.symm
          rw [heq, hskip _ (by decide), hrest, hsame]
        · rw [heq, hskip _ hc, hskip _ hc, ih s.length (by simp [← hlength]) s rfl]

/-- Blanks in front of a text are gone once it is collapsed. -/
theorem collapseBlanks_append_gap {gap : List Char} (hgap : ∀ c ∈ gap, isBlank c = true)
    (s : List Char) : collapseBlanks (gap ++ s) = collapseBlanks s := by
  have hfront : ∀ t, trimStart isBlank (squeeze t) =
      trimStart isBlank (squeeze (trimStart isBlank t)) := fun t => by
    have hbreaks := trimStart_rewrite_run? Nat.one_pos (fun _ => isBlank_of_isLineBreak) t
    rw [squeeze, squeeze, trimStart_rewrite_run? Nat.two_pos fun _ h => h, hbreaks,
      ← trimStart_rewrite_run? Nat.two_pos fun _ h => h]
  have hsame : trimStart isBlank (gap ++ s) = trimStart isBlank s :=
    List.dropWhile_append_of_pos hgap
  rw [collapseBlanks_eq, collapseBlanks_eq, trim, trim, hfront, hsame, ← hfront]

/-- No blank follows another one. -/
def Spaced : List Char → Prop
  | [] => True
  | c :: s => ¬ (isBlank c = true ∧ startsBlank s = true) ∧ Spaced s

theorem startsBlank_dropWhile (s : List Char) : startsBlank (s.dropWhile isBlank) = false := by
  cases hs : s.dropWhile isBlank with
  | nil => rfl
  | cons c r =>
    have hnot := List.head?_dropWhile_not isBlank s
    rw [hs] at hnot
    simpa [startsBlank] using hnot

theorem spaced_rewrite_run? (s : List Char) : Spaced (rewrite (run? isBlank 2) s) := by
  have hstart : ∀ u, startsBlank (rewrite (run? isBlank 2) u) = startsBlank u := fun u => by
    rw [← startsBlank_outline, outline_rewrite_run? Nat.two_pos fun _ h => h, startsBlank_outline]
  induction hlength : s.length using Nat.strongRecOn generalizing s with
  | ind n ih =>
    cases s with
    | nil => exact True.intro
    | cons c s =>
      rcases rewrite_run?_cons isBlank Nat.two_pos c s with ⟨hlong, heq⟩ | ⟨hshort, heq⟩
      · rw [heq]
        refine ⟨?_, ih _ (hlength ▸ length_dropWhile_lt (by omega)) _ rfl⟩
        rw [hstart, startsBlank_dropWhile]
        simp
      · rw [heq]
        refine ⟨?_, ih s.length (by simp [← hlength]) s rfl⟩
        rintro ⟨hc, hs⟩
        rw [hstart] at hs
        cases s with
        | nil => exact absurd hs (by decide)
        | cons d s =>
          have hd : isBlank d = true := by simpa [startsBlank] using hs
          simp only [List.takeWhile_cons, hc, hd, if_true, List.length_cons] at hshort
          omega

theorem rewrite_of_spaced {s : List Char} (h : Spaced s) : rewrite (run? isBlank 2) s = s := by
  induction s with
  | nil => rfl
  | cons c s ih =>
    have hnone : run? isBlank 2 (c :: s) = none := by
      simp only [run?]
      rw [if_neg]
      cases s with
      | nil => cases hc : isBlank c <;> simp [hc]
      | cons d s =>
        have hnot := h.1
        cases hc : isBlank c <;> cases hd : isBlank d <;> simp_all [startsBlank]
    rw [rewrite_of_none hnone, ih h.2]

theorem rewrite_of_unbroken {s : List Char} (h : ∀ c ∈ s, isLineBreak c = false) :
    rewrite (run? isLineBreak 1) s = s := by
  induction s with
  | nil => rfl
  | cons c s ih =>
    have hc := h c List.mem_cons_self
    have hnone : run? isLineBreak 1 (c :: s) = none := by simp [run?, hc]
    rw [rewrite_of_none hnone, ih fun d hd => h d (List.mem_cons_of_mem c hd)]

theorem squeeze_squeeze (s : List Char) : squeeze (squeeze s) = squeeze s := by
  have hunbroken : ∀ c ∈ squeeze s, isLineBreak c = false := fun c hc => by
    rw [← Bool.not_eq_true]
    exact fun hbreak => notMem_squeeze_lineBreak hbreak s hc
  have hspaced : Spaced (squeeze s) := spaced_rewrite_run? _
  rw [squeeze, rewrite_of_unbroken hunbroken, rewrite_of_spaced hspaced]

end Markup
end SvgIcon
