import Mathlib.Data.List.Induction
import SvgIcon.Proofs.Markup.Outline

/-!
The layout of any text at all.  Taken apart into lines once more, a layout gives the very lines that
were indented: nothing is left in them to trim, to cut or to break.  A text on a single line stands
in these lines whole.
-/

namespace SvgIcon
namespace Markup

open Text

/-! ## The depth behind lines -/

/-- The depth for the lines that follow. -/
def depthAfter : Nat → List (List Char) → Nat
  | depth, [] => depth
  | depth, line :: rest =>
    if line = [] then depthAfter depth rest
    else depthAfter ((lineKind line).leave ((lineKind line).enter depth)) rest

theorem indentLines_append (depth : Nat) (ls ms : List (List Char)) :
    indentLines depth (ls ++ ms) =
      indentLines depth ls ++ indentLines (depthAfter depth ls) ms := by
  induction ls generalizing depth with
  | nil => rfl
  | cons l ls ih =>
    by_cases hl : l = []
    · rw [List.cons_append, indentLines, indentLines, depthAfter, if_pos hl, if_pos hl, if_pos hl,
        ih, List.cons_append]
    · rw [List.cons_append, indentLines_cons hl, indentLines_cons hl, depthAfter, if_neg hl, ih,
        List.cons_append]

theorem depthAfter_append (depth : Nat) (ls ms : List (List Char)) :
    depthAfter depth (ls ++ ms) = depthAfter (depthAfter depth ls) ms := by
  induction ls generalizing depth with
  | nil => rfl
  | cons l ls ih =>
    rw [List.cons_append, depthAfter, depthAfter]
    split <;> exact ih _

/-! ## Blanks around a text -/

theorem laid_cons_nil (ls : List (List Char)) : laid ([] :: ls) = laid ls := by
  cases ls with
  | nil => rfl
  | cons l ls =>
    obtain ⟨n, depth, hlines⟩ := indentLines_eq_cons 0 l ls
    have hfirst : indentLines 0 ([] :: l :: ls) = [] :: indentLines 0 (l :: ls) := by
      rw [indentLines, if_pos rfl]
    rw [laid, laid, hfirst, hlines, join_cons_cons]
    exact trim_cons (by decide) _

theorem laid_concat_nil (ls : List (List Char)) : laid (ls ++ [[]]) = laid ls := by
  have hlast : ∀ depth, indentLines depth [[]] = [[]] := fun _ => rfl
  by_cases hls : ls = []
  · rw [hls]
    rfl
  · rw [laid, laid, indentLines_append, hlast,
      join_append _ (fun h => hls (indentLines_eq_nil.1 h)) (by simp), join, List.append_nil]
    exact trim_append_blank (by decide) _

theorem layout_cons_blank {c : Char} (hc : isBlank c = true) (s : List Char) :
    layout (c :: s) = layout s := by
  have hbreak : breakTags (c :: s) = c :: breakTags s :=
    turns_breakTags_char (ne_of_isBlank hc (by decide)) s
  obtain ⟨p, ps, hp⟩ := List.exists_cons_of_ne_nil (pieces_ne_nil '\n' (breakTags s))
  rw [layout_eq, layout_eq, brokenLines, brokenLines, hbreak, pieces]
  split
  · exact laid_cons_nil _
  · rw [hp, List.map_cons, List.map_cons, trim_cons hc]

theorem layout_concat_blank {c : Char} (hc : isBlank c = true) (s : List Char) :
    layout (s ++ [c]) = layout s := by
  have hbreak : breakTags (s ++ [c]) = breakTags s ++ [c] := by
    rw [breakTags_append (ne_of_isBlank hc (by decide))]
    exact congrArg _ (turns_breakTags_char (ne_of_isBlank hc (by decide)) [])
  obtain ⟨front, last, hs, hmeet⟩ := exists_pieces_meet '\n' (breakTags s)
  rw [layout_eq, layout_eq, brokenLines, brokenLines, hbreak]
  by_cases hfeed : c = '\n'
  · subst hfeed
    rw [pieces_separator, List.map_append]
    exact laid_concat_nil _
  · have hlast : trim (last ++ [c]) = trim last :=
      trim_append_blank (by simpa using hc) last
    rw [hmeet [c] [c] [] (by rw [pieces, if_neg hfeed]; rfl), hs, List.map_append,
      List.map_append, List.map_singleton, List.map_singleton, hlast]

theorem layout_append_gap {gap : List Char} (hgap : ∀ c ∈ gap, isBlank c = true) (s : List Char) :
    layout (gap ++ s) = layout s := by
  induction gap with
  | nil => rfl
  | cons c gap ih =>
    rw [List.cons_append, layout_cons_blank (hgap c List.mem_cons_self)]
    exact ih fun d hd => hgap d (List.mem_cons_of_mem c hd)

theorem layout_append_blank {g : List Char} (hg : ∀ c ∈ g, isBlank c = true) (s : List Char) :
    layout (s ++ g) = layout s := by
  induction g using List.reverseRecOn with
  | nil => rw [List.append_nil]
  | append_singleton g c ih =>
    rw [← List.append_assoc, layout_concat_blank (hg c (by simp))]
    exact ih fun d hd => hg d (by simp [hd])

/-- Blanks around a text do not show in its layout. -/
theorem layout_trim (s : List Char) : layout (trim s) = layout s := by
  obtain ⟨g, g', hs, hg, hg'⟩ := exists_trim s
  conv_rhs => rw [hs]
  rw [layout_append_gap hg, layout_append_blank hg']

/-! ## Texts with nothing to break -/

theorem breakTags_breakTags (s : List Char) : breakTags (breakTags s) = breakTags s := by
  induction s with
  | nil => rfl
  | cons c s ih =>
    have hhead : (breakTags s).head? = s.head? := by
      cases s with
      | nil => rfl
      | cons d s =>
        rw [breakTags]
        split <;> rfl
    by_cases hc : c = '>' ∧ s.head? = some '<'
    · rw [breakTags, if_pos hc, breakTags, if_neg (by simp), breakTags, if_neg (by simp), ih]
    · rw [breakTags, if_neg hc, breakTags, hhead, if_neg hc, ih]

theorem breakTags_of_isInfix {a s : List Char} (ha : a <:+: s) (h : breakTags s = s) :
    breakTags a = a :=
  breakTags_eq_self_iff.2 fun hsub => breakTags_eq_self_iff.1 h (hsub.trans ha)

theorem breakTags_join {ls : List (List Char)} (h : ∀ l ∈ ls, breakTags l = l) :
    breakTags (join ['\n'] ls) = join ['\n'] ls := by
  induction ls with
  | nil => rfl
  | cons l ls ih =>
    have hl := h l List.mem_cons_self
    cases ls with
    | nil => exact hl
    | cons k ls =>
      have hrest := ih fun d hd => h d (List.mem_cons_of_mem l hd)
      rw [join_cons_cons, List.append_assoc, List.singleton_append,
        breakTags_append (by decide), hl, breakTags, if_neg (by simp), hrest]

/-! ## Lines that are laid out -/

/-- A line that trimming, cutting and breaking leave alone. -/
structure IsSettled (l : List Char) : Prop where
  trim : trim l = l
  single : '\n' ∉ l
  unbroken : breakTags l = l

theorem isSettled_brokenLines {s l : List Char} (h : l ∈ brokenLines s) : IsSettled l := by
  obtain ⟨p, hp, rfl⟩ := List.mem_map.1 h
  have hinfix : Text.trim p <:+: breakTags s := (isInfix_trim p).trans (isInfix_of_mem_pieces hp)
  exact ⟨trim_trim p, fun hfeed => notMem_of_mem_pieces hp (mem_of_mem_trim hfeed),
    breakTags_of_isInfix hinfix (breakTags_breakTags s)⟩

/-- What takes the indentation off every line gives the lines back. -/
theorem map_indentLines {f : List Char → List Char} {ls : List (List Char)}
    (h : ∀ l ∈ ls, ∀ n, f (indent n ++ l) = l) (depth : Nat) :
    (indentLines depth ls).map f = ls := by
  induction ls generalizing depth with
  | nil => rfl
  | cons l ls ih =>
    obtain ⟨n, depth', hlines⟩ := indentLines_eq_cons depth l ls
    rw [hlines, List.map_cons, ih (fun k hk => h k (List.mem_cons_of_mem l hk)),
      h l List.mem_cons_self]

theorem notMem_indent {c : Char} (hc : c ≠ ' ') (n : Nat) : c ∉ indent n := fun hmem =>
  hc (List.eq_of_mem_replicate hmem)

theorem pieces_join_indentLines {ls : List (List Char)} (hne : ls ≠ []) (h : ∀ l ∈ ls, '\n' ∉ l)
    (depth : Nat) : pieces '\n' (join ['\n'] (indentLines depth ls)) = indentLines depth ls := by
  refine pieces_join (fun hnil => hne (indentLines_eq_nil.1 hnil)) fun l hl => ?_
  obtain ⟨n, k, hk, rfl⟩ := exists_of_mem_indentLines hl
  simp [notMem_indent (show '\n' ≠ ' ' by decide) n, h k hk]

theorem breakTags_join_indentLines {ls : List (List Char)} (h : ∀ l ∈ ls, breakTags l = l)
    (depth : Nat) :
    breakTags (join ['\n'] (indentLines depth ls)) = join ['\n'] (indentLines depth ls) := by
  refine breakTags_join fun l hl => ?_
  obtain ⟨n, k, hk, rfl⟩ := exists_of_mem_indentLines hl
  rw [turns_breakTags (notMem_indent (by decide) n), h k hk]

/-- The lines of a layout, taken apart once more, are the lines that were indented. -/
theorem brokenLines_indentLines {ls : List (List Char)} (hne : ls ≠ [])
    (h : ∀ l ∈ ls, IsSettled l) : brokenLines (join ['\n'] (indentLines 0 ls)) = ls := by
  rw [brokenLines, breakTags_join_indentLines fun l hl => (h l hl).unbroken,
    pieces_join_indentLines hne fun l hl => (h l hl).single]
  refine map_indentLines (fun l hl n => ?_) 0
  rw [trim_append_gap fun _ => isBlank_of_mem_indent, (h l hl).trim]

theorem brokenLines_ne_nil (s : List Char) : brokenLines s ≠ [] :=
  fun h => pieces_ne_nil '\n' (breakTags s) (List.map_eq_nil_iff.1 h)

/-- A text that has been laid out is its own layout. -/
theorem layout_layout (s : List Char) : layout (layout s) = layout s := by
  have hlines := brokenLines_indentLines (brokenLines_ne_nil s) fun l => isSettled_brokenLines
  calc layout (layout s)
      = layout (join ['\n'] (indentLines 0 (brokenLines s))) := layout_trim _
    _ = laid (brokenLines (join ['\n'] (indentLines 0 (brokenLines s)))) := layout_eq _
    _ = layout s := by rw [hlines, layout_eq]

/-! ## Nothing is lost -/

theorem Framed.boundary {a b : List Char} (h : Framed (a ++ '>' :: '<' :: b)) :
    Framed (a ++ ['>']) ∧ Framed ('<' :: b) := by
  obtain ⟨c, r, hstart, hc⟩ := h.start
  obtain ⟨x, d, hstop, hd⟩ := h.stop
  refine ⟨⟨?_, a, '>', rfl, by decide⟩, ⟨'<', b, rfl, by decide⟩, ?_⟩
  · cases a with
    | nil => exact ⟨'>', [], rfl, by decide⟩
    | cons e a => exact ⟨e, a ++ ['>'], rfl, (List.cons.inj hstart).1 ▸ hc⟩
  · rcases List.eq_nil_or_concat b with rfl | ⟨y, e, rfl⟩
    · exact ⟨[], '<', rfl, by decide⟩
    · have hlast : (a ++ '>' :: '<' :: y) ++ [e] = x ++ [d] := by
        rw [← hstop, List.concat_eq_append]
        simp
      obtain rfl : e = d := List.singleton_inj.1 (List.append_inj' hlast rfl).2
      exact ⟨'<' :: y, e, by rw [List.concat_eq_append]; rfl, hd⟩

/-- A text on one line, taken apart between its tags, goes to pieces at whose ends nothing can be
trimmed off. -/
theorem framed_pieces {s : List Char} (hs : Framed s) (hline : '\n' ∉ s) :
    (pieces '\n' (breakTags s)).flatten = s ∧ ∀ p ∈ pieces '\n' (breakTags s), Framed p := by
  -- any boundary of two tags will do, so the induction is on the length
  induction hlength : s.length using Nat.strongRecOn generalizing s with
  | ind n ih =>
    by_cases hbreak : breakTags s = s
    · rw [hbreak, pieces_of_notMem hline]
      simpa using hs
    · obtain ⟨a, b, hsplit⟩ := not_not.1 (mt breakTags_eq_self_iff.2 hbreak)
      obtain rfl : a ++ '>' :: '<' :: b = s := by simpa using hsplit
      obtain ⟨hleft, hright⟩ := hs.boundary
      simp only [List.mem_append, List.mem_cons, not_or] at hline
      obtain ⟨ha, hclose, hopen, hb⟩ := hline
      obtain ⟨hflat, hframed⟩ := ih (a ++ ['>']).length (by simp [← hlength]) hleft
        (by simp [ha]) rfl
      obtain ⟨hflat', hframed'⟩ := ih ('<' :: b).length (by simp [← hlength]; omega) hright
        (by simp [hb]) rfl
      rw [breakTags_boundary, pieces_separator, List.flatten_append, hflat, hflat']
      refine ⟨by simp, fun p hp => ?_⟩
      exact (List.mem_append.1 hp).elim (hframed p) (hframed' p)

/-- A line without the spaces in front of it. -/
def unindent (line : List Char) : List Char := line.dropWhile (· = ' ')

theorem unindent_indent (n : Nat) {l : List Char} (h : Framed l) : unindent (indent n ++ l) = l := by
  obtain ⟨c, r, rfl, hc⟩ := h.start
  have hspace : c ≠ ' ' := by
    rintro rfl
    exact absurd hc (by decide)
  refine dropWhile_append_of_head (fun d hd => ?_) fun d hd => ?_
  · simp [List.eq_of_mem_replicate hd]
  · obtain rfl : c = d := by simpa using hd
    simpa using hspace

theorem flatten_unindent_layout {s : List Char} (hline : '\n' ∉ s) :
    ((pieces '\n' (layout s)).map unindent).flatten = trim s := by
  rw [← layout_trim]
  by_cases hnil : trim s = []
  · rw [hnil]
    rfl
  · have hs : Framed (trim s) := framed_trim hnil
    obtain ⟨hflat, hframed⟩ := framed_pieces hs fun hmem => hline (mem_of_mem_trim hmem)
    have hne := pieces_ne_nil '\n' (breakTags (trim s))
    have hlines : brokenLines (trim s) = pieces '\n' (breakTags (trim s)) :=
      (List.map_congr_left fun p hp => (hframed p hp).trim).trans (List.map_id _)
    rw [layout_eq, hlines, laid_of_framed hne hframed,
      pieces_join_indentLines hne (fun p => notMem_of_mem_pieces),
      map_indentLines (fun p hp n => unindent_indent n (hframed p hp)), hflat]

/-- A layout has the characters of its text, but for blanks; it breaks all tags apart; and if the
text is a single line, its lines without their indentation are the text. -/
theorem layout_keeps (s : List Char) :
    solid (layout s) = solid s ∧ ¬ ['>', '<'] <:+: layout s ∧
      ('\n' ∉ s → ((pieces '\n' (layout s)).map unindent).flatten = trim s) := by
  have hbreak := breakTags_join_indentLines (fun l (hl : l ∈ brokenLines s) =>
    (isSettled_brokenLines hl).unbroken) 0
  have hunbroken := breakTags_eq_self_iff.1 (breakTags_of_isInfix (isInfix_trim _) hbreak)
  exact ⟨solid_layout s, hunbroken, flatten_unindent_layout⟩

/-- One line of tags that do not fit together, with blanks of many kinds. -/
def tangle : List Char := "\t</a><b c='>'>  d <\r><///b>< e>\u2003".toList

theorem layout_keeps_tangle :
    '\n' ∉ tangle ∧
    layout tangle = "</a>\n<b c='>'>  d <\r>\n  <///b>\n  < e>".toList ∧
    ((pieces '\n' (layout tangle)).map unindent).flatten = trim tangle := by
  have hline : '\n' ∉ tangle := by decide
  exact ⟨hline, by decide +kernel, (layout_keeps tangle).2.2 hline⟩

end Markup
end SvgIcon
