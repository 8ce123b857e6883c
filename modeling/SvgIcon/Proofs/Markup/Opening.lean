import SvgIcon.Proofs.Markup.Dressing

/-!
A text that starts as an `svg` element does goes on starting so, whatever stands behind: no pass
finds anything that begins in `<svg` or in the blanks before it, but for a tag or an empty element
that begins with this very `<`, and what is put in their place begins with `<svg` as well.
-/

namespace SvgIcon
namespace Markup

open Text

/-- Nothing but blanks stands before the start of an `svg` element. -/
def Opens (s : List Char) : Prop :=
  ∃ gap rest, (∀ c ∈ gap, isBlank c = true) ∧ s = gap ++ (svgStart ++ rest)

theorem exists_trim_svgStart (s : List Char) : ∃ t, trim (svgStart ++ s) = svgStart ++ t :=
  exists_trim_append (c := '<') (d := 'g') (by decide) (by decide) ['s', 'v'] s

theorem Opens.exists_trim {s : List Char} (h : Opens s) : ∃ t, trim s = svgStart ++ t := by
  obtain ⟨gap, rest, hgap, rfl⟩ := h
  rw [trim_append_gap hgap]
  exact exists_trim_svgStart rest

theorem opens_svgStart (s : List Char) : Opens (svgStart ++ s) :=
  ⟨[], s, List.forall_mem_nil _, rfl⟩

theorem looksLikeSvg_iff {s : List Char} : looksLikeSvg s = true ↔ Opens s := by
  rw [looksLikeSvg, Option.isSome_iff_exists]
  constructor
  · rintro ⟨rest, hrest⟩
    obtain ⟨gap, behind, hs, hgap, _⟩ := Text.exists_trim s
    refine ⟨gap, rest ++ behind, hgap, ?_⟩
    rw [after?_eq_some_iff.1 hrest, List.append_assoc] at hs
    exact hs
  · intro h
    obtain ⟨t, ht⟩ := h.exists_trim
    exact ⟨t, after?_eq_some_iff.2 ht⟩

/-! ## Passes -/

/-- A pass that copies blanks, and that leaves `<svg` where a text starts with it. -/
structure KeepsStart (pass : List Char → List Char) : Prop where
  blank : ∀ {c}, isBlank c = true → Turns pass [c] [c]
  start : ∀ rest, ∃ t, pass (svgStart ++ rest) = svgStart ++ t

theorem Opens.pass {pass : List Char → List Char} (hpass : KeepsStart pass) {s : List Char}
    (h : Opens s) : Opens (pass s) := by
  obtain ⟨gap, rest, hgap, rfl⟩ := h
  obtain ⟨t, ht⟩ := hpass.start rest
  have hcopy : Turns pass gap gap := Turns.copy fun c hc => hpass.blank (hgap c hc)
  exact ⟨gap, t, hgap, by rw [hcopy, ht]⟩

/-- A rewriting that looks for something with a character in front that is not blank, and that
`<svg` does not hold. -/
theorem keepsStart_of_other {find : Recogniser} {p : Char}
    (hother : ∀ {c}, c ≠ p → ∀ s, find (c :: s) = none) (hp : isBlank p = false)
    (hnone : p ∉ svgStart) : KeepsStart (rewrite find) where
  blank hc := turns_rewrite_char (hother (ne_of_isBlank hc hp))
  start rest :=
    have hcopy : Turns (rewrite find) svgStart svgStart :=
      turns_rewrite_of_notMem hnone fun _ => hother
    ⟨rewrite find rest, hcopy rest⟩

/-- A rewriting that looks for something with `<` in front, and puts `<svg` in front of what it
puts in place of `<svg`. -/
theorem keepsStart_of_match {find : Recogniser}
    (hother : ∀ {c}, c ≠ '<' → ∀ s, find (c :: s) = none)
    (hmatch : ∀ {rest n new}, find (svgStart ++ rest) = some (n, new) → ∃ t, new = svgStart ++ t) :
    KeepsStart (rewrite find) where
  blank hc := turns_rewrite_char (hother (ne_of_isBlank hc (by decide)))
  start rest := by
    have hletters : Turns (rewrite find) ['s', 'v', 'g'] ['s', 'v', 'g'] :=
      turns_rewrite_of_notMem (c := '<') (by decide) fun _ => hother
    show ∃ t, rewriteFrom find 0 ('<' :: (['s', 'v', 'g'] ++ rest)) = _
    rw [rewriteFrom]
    split
    · rename_i n new hfind
      obtain ⟨t, rfl⟩ := hmatch hfind
      exact ⟨t ++ rewriteFrom find n (['s', 'v', 'g'] ++ rest), List.append_assoc _ _ _⟩
    · exact ⟨rewrite find rest, congrArg (List.cons '<') (hletters rest)⟩

theorem keepsStart_of_spares {find : Recogniser} (h : SparesTags find) :
    KeepsStart (rewrite find) := by
  refine keepsStart_of_match (fun hc s => h.other _ hc s) fun {rest n new} hfind => ?_
  have hnone : find (svgStart ++ rest) = none := h.start 's' (by decide) (['v', 'g'] ++ rest)
  rw [hnone] at hfind
  exact absurd hfind (by simp)

theorem tagLength?_svgStart (rest : List Char) :
    tagLength? (svgStart ++ rest) = (tagEnd? none rest).map (· + 4) := by
  show ((((tagEnd? none rest).map (· + 1)).map (· + 1)).map (· + 2)) = _
  rw [Option.map_map, Option.map_map]
  rfl

theorem keepsStart_renameAttributes (f : List Char → List Char) :
    KeepsStart (renameAttributes f) := by
  have hsolid : ∀ c ∈ svgStart, isBlank c = false := by decide
  have htag : Turns (renameInTag f) svgStart svgStart := Turns.copy fun c hc =>
    turns_rewrite_char fun s => by rw [read?_of_not_blank (hsolid c hc), Option.map_none]
  refine keepsStart_of_match (fun hc s => by rw [Stretch.tagLength?_of_ne hc, Option.map_none]) ?_
  intro rest n new hfind
  rw [tagLength?_svgStart, Option.map_map] at hfind
  obtain ⟨m, _, hm⟩ := Option.map_eq_some_iff.1 hfind
  -- the tag runs past `<svg`, and no attribute begins before a blank
  have htake : (svgStart ++ rest).take (m + 4) = svgStart ++ rest.take m := rfl
  refine ⟨renameInTag f (rest.take m), ?_⟩
  rw [← htag, ← htake]
  exact (Prod.mk.inj hm).2.symm

theorem keepsStart_convertStyles : KeepsStart convertStyles where
  blank hc := turns_convertStyles_char (ne_of_isBlank hc (by decide))
  start rest := ⟨convertStyles rest, rfl⟩

theorem keepsStart_selfCloseEmpty : KeepsStart selfCloseEmpty := by
  refine keepsStart_of_match (fun hc s => emptyPair?_of_ne hc s) ?_
  intro rest n new hfind
  have hinner : (['s', 'v', 'g'] ++ rest).takeWhile (· ≠ '>') =
      ['s', 'v', 'g'] ++ rest.takeWhile (· ≠ '>') := rfl
  show ∃ t, new = '<' :: (['s', 'v', 'g'] ++ t)
  change emptyPair? ('<' :: (['s', 'v', 'g'] ++ rest)) = _ at hfind
  simp only [emptyPair?] at hfind
  split at hfind
  · split at hfind
    · obtain ⟨_, rfl⟩ := Prod.mk.inj (Option.some.inj hfind)
      exact ⟨_, by rw [hinner, List.cons_append, List.append_assoc]⟩
    · exact absurd hfind (by simp)
  · exact absurd hfind (by simp)

theorem Opens.squeeze {s : List Char} (h : Opens s) : Opens (squeeze s) := by
  obtain ⟨gap, rest, hgap, rfl⟩ := h
  have hgaps := turns_squeeze (c := '<') (by decide) gap (['s', 'v', 'g'] ++ rest)
  have hletters : Turns Markup.squeeze ['s', 'v', 'g'] ['s', 'v', 'g'] :=
    turns_squeeze_solid (by decide)
  refine ⟨Markup.squeeze gap, Markup.squeeze rest, fun c hc => ?_, ?_⟩
  · rcases mem_squeeze hc with hc | rfl
    · exact hgap c hc
    · decide
  · rw [hletters, List.append_assoc] at hgaps
    rw [List.append_assoc] at hgaps
    exact hgaps

/-- What comes out of the forward passes starts with `<svg` at once. -/
theorem Opens.exists_toJsx {s : List Char} (h : Opens s) : ∃ t, toJsx s = svgStart ++ t := by
  have hstripped : Opens (stripDeclarations s) :=
    (h.pass (keepsStart_of_spares (sparesTags_lineSpan (by decide) (by decide)))).pass
      (keepsStart_of_spares (sparesTags_lineSpan (by decide) (by decide)))
  have hrenamed : Opens (renameToProperties (renameClass (stripDeclarations s))) :=
    (hstripped.pass (keepsStart_renameAttributes _)).pass (keepsStart_renameAttributes _)
  have hclosed := (hrenamed.pass keepsStart_convertStyles).pass keepsStart_selfCloseEmpty
  exact hclosed.squeeze.exists_trim

/-! ## The way back -/

theorem keepsStart_restoreClass : KeepsStart restoreClass where
  blank hc := restoreClass_char <| by
    refine Bool.eq_false_iff.2 fun hword => ?_
    rw [isBlank_eq_false_of_isWord hword] at hc
    exact absurd hc (by simp)
  start rest := ⟨restoreClassFrom true 0 rest, rfl⟩

theorem keepsStart_breakTags : KeepsStart breakTags where
  blank hc := turns_breakTags_char (ne_of_isBlank hc (by decide))
  start rest := ⟨breakTags rest, turns_breakTags (by decide) rest⟩

/-- The first line that is not blank is the one with `<svg`, and it stands at depth zero. -/
theorem Opens.exists_indentLines {s : List Char} (h : Opens s) : ∃ n t ls,
    indentLines 0 ((pieces '\n' s).map trim) = List.replicate n [] ++ (svgStart ++ t) :: ls := by
  obtain ⟨gap, rest, hgap, rfl⟩ := h
  induction gap with
  | nil =>
    have hfeed : '\n' ∉ svgStart := by decide
    obtain ⟨p, ps, _, hpieces⟩ := exists_pieces_append hfeed rest
    obtain ⟨t, ht⟩ := exists_trim_svgStart p
    have hlines := indentLines_cons (l := svgStart ++ t) (by simp [svgStart]) 0 (ps.map trim)
    rw [indent_enter_zero, List.nil_append] at hlines
    exact ⟨0, t, _, by rw [List.nil_append, hpieces, List.map_cons, ht, hlines]; rfl⟩
  | cons c gap ih =>
    obtain ⟨n, t, ls, hlines⟩ := ih fun d hd => hgap d (List.mem_cons_of_mem c hd)
    by_cases hfeed : c = '\n'
    · refine ⟨n + 1, t, ls, ?_⟩
      rw [List.cons_append, pieces, if_pos hfeed, List.map_cons]
      exact congrArg (List.cons []) hlines
    · obtain ⟨p, ps, hp, hcons⟩ :=
        exists_pieces_append (a := [c]) (by simpa using Ne.symm hfeed) (gap ++ (svgStart ++ rest))
      refine ⟨n, t, ls, ?_⟩
      have htrim : trim ([c] ++ p) = trim p := trim_cons (hgap c List.mem_cons_self) p
      rw [List.cons_append, ← List.singleton_append, hcons, List.map_cons, htrim, ← List.map_cons,
        ← hp, hlines]

/-- What comes back starts with `<svg` at once, too. -/
theorem Opens.exists_ofComponent {s : List Char} (h : Opens s) :
    ∃ t, ofComponent s = svgStart ++ t := by
  have hnumbers := (h.pass keepsStart_restoreClass).pass
    (keepsStart_of_other (fun hc s => Spelling.numberExpression?_other hc s) (by decide) (by decide))
  have htexts := hnumbers.pass
    (keepsStart_of_other (fun hc s => Spelling.textExpression?_other hc s) (by decide) (by decide))
  have hbroken := (htexts.pass (keepsStart_of_spares sparesTags_fragment)).pass keepsStart_breakTags
  obtain ⟨n, t, ls, hlines⟩ := hbroken.exists_indentLines
  have hjoined : Opens (join ['\n'] (List.replicate n [] ++ (svgStart ++ t) :: ls)) := by
    obtain ⟨u, hu⟩ := exists_join_append ['\n'] svgStart t ls
    have hgap : ∀ c ∈ List.replicate n '\n', isBlank c = true := fun c hc => by
      rw [List.eq_of_mem_replicate hc]
      decide
    exact ⟨List.replicate n '\n', u, hgap, by rw [join_replicate_nil, hu]⟩
  rw [ofComponent, layout, hlines]
  exact hjoined.exists_trim

/-! ## Turns -/

/-- A way that a text is turned. -/
inductive Turn
  /-- To the markup inside a component. -/
  | forward
  /-- From component markup to SVG. -/
  | back
  deriving DecidableEq, Repr

def Turn.apply : Turn → List Char → List Char
  | forward => toJsx
  | back => ofComponent

theorem looksLikeSvg_turn (t : Turn) {s : List Char} (h : looksLikeSvg s = true) :
    looksLikeSvg (t.apply s) = true := by
  rw [looksLikeSvg_iff] at h ⊢
  cases t with
  | forward =>
    obtain ⟨u, hu⟩ := h.exists_toJsx
    rw [Turn.apply, hu]
    exact opens_svgStart u
  | back =>
    obtain ⟨u, hu⟩ := h.exists_ofComponent
    rw [Turn.apply, hu]
    exact opens_svgStart u

theorem looksLikeSvg_turns (turns : List Turn) {s : List Char} (h : looksLikeSvg s = true) :
    looksLikeSvg (turns.foldl (fun s t => t.apply s) s) = true := by
  induction turns generalizing s with
  | nil => exact h
  | cons t turns ih => exact ih (looksLikeSvg_turn t h)

end Markup
end SvgIcon
