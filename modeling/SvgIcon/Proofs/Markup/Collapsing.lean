import Mathlib.Data.List.SplitBy
import SvgIcon.Proofs.Markup.Framing
import SvgIcon.Proofs.Markup.Outline

/-!
Collapsing the blanks of any text.  What is left has the words of the text and one blank between two of
them: the one that stood there if it stood alone and was no line break, and a space otherwise.
-/

namespace SvgIcon
namespace Text

variable {a b g s w : List Char} {c : Char}

/-! ## Words -/

/-- Words do not reach across a place where blanks begin or end. -/
theorem words_append (h : ∀ c ∈ a.getLast?, ∀ d ∈ b.head?, isBlank c ≠ isBlank d) :
    words (a ++ b) = words a ++ words b := by
  rw [words, List.splitBy_append fun c hc d hd => beq_eq_false_iff_ne.2 (h c hc d hd),
    List.filter_append]
  rfl

theorem words_blanks (hg : ∀ c ∈ g, isBlank c = true) : words g = [] := by
  rw [words, List.filter_eq_nil_iff]
  intro w hw hsolid
  obtain ⟨c, hc⟩ := List.exists_mem_of_ne_nil w (List.ne_nil_of_mem_splitBy hw)
  have hmem : c ∈ g := by
    rw [← List.flatten_splitBy (fun a b => isBlank a == isBlank b) g]
    exact List.mem_flatten_of_mem hw hc
  have hany : w.any isBlank = true := List.any_eq_true.2 ⟨c, hc, hg c hmem⟩
  simp [hany] at hsolid

theorem words_solid (hne : w ≠ []) (hw : ∀ c ∈ w, isBlank c = false) : words w = [w] := by
  have hchain : w.IsChain fun a b => (isBlank a == isBlank b) = true := by
    refine List.Pairwise.isChain (List.pairwise_of_forall_mem_list fun a ha b hb => ?_)
    rw [hw a ha, hw b hb]
    rfl
  have hany : w.any isBlank = false := List.any_eq_false.2 fun c hc => by simp [hw c hc]
  rw [words, List.splitBy_of_isChain hne hchain, List.filter_cons_of_pos (by simp [hany]),
    List.filter_nil]

theorem words_trimStart (s : List Char) : words (trimStart isBlank s) = words s := by
  have hblanks : ∀ c ∈ s.takeWhile isBlank, isBlank c = true := fun c hc => List.mem_takeWhile_imp hc
  have hsplit : words (s.takeWhile isBlank ++ s.dropWhile isBlank) =
      words (s.takeWhile isBlank) ++ words (s.dropWhile isBlank) := by
    refine words_append fun c hc d hd => ?_
    have hd' := List.head?_dropWhile_not isBlank s
    rw [hd] at hd'
    rw [hblanks c (List.mem_of_getLast? hc)]
    simpa using hd'
  rw [List.takeWhile_append_dropWhile, words_blanks hblanks, List.nil_append] at hsplit
  exact hsplit.symm

theorem words_cons_blank (hc : isBlank c = true) (s : List Char) : words (c :: s) = words s := by
  rw [← words_trimStart (c :: s), trimStart, List.dropWhile_cons_of_pos hc, ← trimStart,
    words_trimStart]

/-- A word is taken up to the next blank. -/
theorem words_word (hne : w ≠ []) (hw : ∀ c ∈ w, isBlank c = false)
    (hb : ∀ c ∈ b.head?, isBlank c = true) : words (w ++ b) = w :: words b := by
  rw [words_append, words_solid hne hw, List.singleton_append]
  intro c hc d hd
  rw [hw c (List.mem_of_getLast? hc), hb d hd]
  exact Bool.false_ne_true

theorem exists_word (s : List Char) : ∃ w r, s = w ++ r ∧ (∀ c ∈ w, isBlank c = false) ∧
    ∀ c ∈ r.head?, isBlank c = true := by
  refine ⟨_, _, (List.takeWhile_append_dropWhile (p := fun c => !isBlank c)).symm, ?_, ?_⟩
  · intro c hc
    simpa using List.mem_takeWhile_imp hc
  · intro c hc
    have hstop := List.head?_dropWhile_not (fun c => !isBlank c) s
    rw [hc] at hstop
    simpa using hstop

theorem outline_solid (hw : ∀ c ∈ w, isBlank c = false) (s : List Char) :
    outline (w ++ s) = w ++ outline s := by
  induction w with
  | nil => rfl
  | cons c w ih =>
    rw [List.cons_append, outline_cons (hw c List.mem_cons_self),
      ih fun d hd => hw d (List.mem_cons_of_mem c hd), List.cons_append]

theorem head?_outline (hs : ∀ c ∈ s.head?, isBlank c = true) :
    ∀ c ∈ (outline s).head?, isBlank c = true := by
  intro c hc
  have hsame := startsBlank_outline s
  cases s with
  | nil => simp [outline] at hc
  | cons d s =>
    rw [startsBlank, hc, startsBlank, List.head?_cons, Option.any_some, Option.any_some,
      hs d rfl] at hsame
    exact hsame

/-- How many blanks stand between words makes no difference to the words. -/
theorem words_outline (s : List Char) : words (outline s) = words s := by
  -- a word is taken as a whole, so the induction is on the length
  induction hlength : s.length using Nat.strongRecOn generalizing s with
  | ind n ih =>
    cases s with
    | nil => rfl
    | cons c s =>
      cases hc : isBlank c with
      | true =>
        rw [words_cons_blank hc, outline_blank hc, ← ih s.length (by simp [← hlength]) s rfl]
        split
        · rfl
        · exact words_cons_blank (by decide) _
      | false =>
        obtain ⟨w, r, rfl, hw, hr⟩ := exists_word s
        have hword : ∀ d ∈ c :: w, isBlank d = false := by
          rintro d (_ | ⟨_, hd⟩)
          · exact hc
          · exact hw d hd
        have hshorter : r.length < n := by
          rw [← hlength, List.length_cons, List.length_append]
          omega
        rw [← List.cons_append, outline_solid hword, words_word (by simp) hword (head?_outline hr),
          words_word (by simp) hword hr, ih _ hshorter r rfl]

theorem words_gap (hg : ∀ c ∈ g, isBlank c = true) (s : List Char) : words (g ++ s) = words s := by
  induction g with
  | nil => rfl
  | cons c g ih =>
    rw [List.cons_append, words_cons_blank (hg c List.mem_cons_self),
      ih fun d hd => hg d (List.mem_cons_of_mem c hd)]

theorem words_trim (s : List Char) : words (trim s) = words s := by
  obtain ⟨g, g', hs, hg, hg'⟩ := exists_trim s
  have hback : words (trim s ++ g') = words (trim s) ++ words g' := by
    refine words_append fun c hc d hd => ?_
    obtain ⟨a, e, hstop, he⟩ := (Markup.framed_trim (s := s) fun hnil => by simp [hnil] at hc).stop
    rw [hstop, List.getLast?_concat] at hc
    rw [← Option.some.inj hc, he, hg' d (List.mem_of_head? hd)]
    exact Bool.false_ne_true
  rw [words_blanks hg', List.append_nil] at hback
  have hwhole := congrArg words hs
  rw [words_gap hg, hback] at hwhole
  exact hwhole.symm

end Text

namespace Markup

open Text

variable {a b g s t : List Char} {c d : Char}

/-! ## Trimming around a stretch -/

theorem framed_trim_of_mem (hmem : c ∈ s) (hc : isBlank c = false) : Framed (trim s) := by
  refine framed_trim fun hnil => ?_
  obtain ⟨g, g', hs, hg, hg'⟩ := exists_trim s
  rw [hnil, List.nil_append] at hs
  rw [hs] at hmem
  rcases List.mem_append.1 hmem with hin | hin
  · exact absurd (hg c hin) (by simp [hc])
  · exact absurd (hg' c hin) (by simp [hc])

theorem Framed.around (hs : Framed s) (ht : Framed t) (g : List Char) : Framed (s ++ (g ++ t)) := by
  obtain ⟨c, r, rfl, hc⟩ := hs.start
  obtain ⟨a, d, rfl, hd⟩ := ht.stop
  exact ⟨⟨c, _, rfl, hc⟩, ⟨c :: (r ++ (g ++ a)), d, by simp, hd⟩⟩

/-- Nothing is trimmed off beside a character that is not blank. -/
theorem trim_around (hc : isBlank c = false) (hd : isBlank d = false) (a g b : List Char) :
    trim (a ++ c :: (g ++ d :: b)) = trim (a ++ [c]) ++ (g ++ trim (d :: b)) := by
  obtain ⟨front, front', hfront, hblank, hblank'⟩ := exists_trim (a ++ [c])
  obtain ⟨back, back', hback, hback_blank, hback_blank'⟩ := exists_trim (d :: b)
  obtain rfl : front' = [] := by
    rcases List.eq_nil_or_concat front' with hnil | ⟨f, e, rfl⟩
    · exact hnil
    · rw [List.concat_eq_append, ← List.append_assoc, ← List.append_assoc] at hfront
      obtain rfl := List.singleton_inj.1 (List.append_inj' hfront rfl).2
      exact absurd (hblank' c (by simp)) (by simp [hc])
  obtain rfl : back = [] := by
    cases back with
    | nil => rfl
    | cons e f =>
      obtain rfl := (List.cons.inj hback).1
      exact absurd (hback_blank d List.mem_cons_self) (by simp [hd])
  have hframed : Framed (trim (a ++ [c]) ++ (g ++ trim (d :: b))) :=
    (framed_trim_of_mem (by simp) hc).around (framed_trim_of_mem List.mem_cons_self hd) g
  have hwhole : a ++ c :: (g ++ d :: b) =
      front ++ (trim (a ++ [c]) ++ (g ++ trim (d :: b)) ++ back') :=
    calc a ++ c :: (g ++ d :: b)
        = (a ++ [c]) ++ (g ++ d :: b) := by simp
      _ = (front ++ (trim (a ++ [c]) ++ [])) ++ (g ++ ([] ++ (trim (d :: b) ++ back'))) := by
          rw [← hfront, ← hback]
      _ = front ++ (trim (a ++ [c]) ++ (g ++ trim (d :: b)) ++ back') := by simp
  rw [hwhole, trim_append_gap hblank, trim_append_blank hback_blank', hframed.trim]

/-! ## One run of blanks -/

/-- What a run of blanks between two words becomes: a lone blank that is no line break stays. -/
def collapsedRun : List Char → List Char
  | [c] => if isLineBreak c then [' '] else [c]
  | _ => [' ']

theorem collapsedRun_long (hlong : 2 ≤ g.length) : collapsedRun g = [' '] := by
  rw [collapsedRun]
  rintro c rfl
  simp at hlong

/-- A long run of blanks is taken as a whole. -/
theorem rewrite_blanks (hlong : 2 ≤ g.length) (hg : ∀ c ∈ g, isBlank c = true) :
    rewrite (run? isBlank 2) g = [' '] := by
  obtain ⟨c, r, rfl⟩ := List.exists_cons_of_ne_nil (show g ≠ [] by rintro rfl; simp at hlong)
  have htake : (c :: r).takeWhile isBlank = c :: r := List.takeWhile_eq_self_iff.2 hg
  have hdrop : (c :: r).dropWhile isBlank = [] := List.dropWhile_eq_nil_iff.2 hg
  rcases rewrite_run?_cons isBlank Nat.two_pos c r with ⟨_, heq⟩ | ⟨hshort, _⟩
  · rw [heq, hdrop, rewrite_nil]
  · rw [htake] at hshort
    omega

theorem squeeze_blanks (hne : g ≠ []) (hg : ∀ c ∈ g, isBlank c = true) :
    squeeze g = collapsedRun g := by
  have hspace : rewrite (run? isBlank 2) [' '] = [' '] := by decide
  have houtline : ∀ u, outline (rewrite (run? isLineBreak 1) u) = outline u :=
    outline_rewrite_run? Nat.one_pos fun _ => isBlank_of_isLineBreak
  have hblanks : ∀ c ∈ rewrite (run? isLineBreak 1) g, isBlank c = true :=
    isBlank_of_outline_eq (houtline g) hg
  obtain ⟨c, r, rfl⟩ := List.exists_cons_of_ne_nil hne
  cases r with
  | nil =>
    cases hc : isLineBreak c with
    | true =>
      have hbreak : rewrite (run? isLineBreak 1) [c] = [' '] := by
        simp [rewrite, rewriteFrom, run?, hc]
      rw [squeeze, hbreak, hspace, collapsedRun, if_pos hc]
    | false =>
      have hspaced : Spaced [c] := ⟨by simp [startsBlank], True.intro⟩
      rw [squeeze, rewrite_of_unbroken (by simpa using hc), rewrite_of_spaced hspaced, collapsedRun,
        if_neg (by simp [hc])]
  | cons e r =>
    rw [squeeze, collapsedRun_long (by simp)]
    rcases rewrite_run?_cons isLineBreak Nat.one_pos c (e :: r) with ⟨_, heq⟩ | ⟨_, heq⟩
    · -- only line breaks: the run is a space before its length is looked at
      cases hrest : rewrite (run? isLineBreak 1) ((c :: e :: r).dropWhile isLineBreak) with
      | nil => rw [heq, hrest, hspace]
      | cons f u => exact rewrite_blanks (by rw [heq, hrest]; simp) hblanks
    · have hrest : rewrite (run? isLineBreak 1) (e :: r) ≠ [] := fun hnil =>
        absurd ((eq_nil_iff_of_outline_eq (houtline (e :: r))).1 hnil) (by simp)
      refine rewrite_blanks ?_ hblanks
      rw [heq, List.length_cons]
      exact Nat.succ_le_succ (List.length_pos_iff.2 hrest)

/-! ## Collapsed texts -/

theorem squeeze_cons (hc : isBlank c = false) (s : List Char) : squeeze (c :: s) = c :: squeeze s :=
  turns_squeeze_char hc s

theorem squeeze_concat (hc : isBlank c = false) (s : List Char) :
    squeeze (s ++ [c]) = squeeze s ++ [c] := by
  have hturns := turns_squeeze hc s []
  rwa [List.append_nil, show squeeze [] = [] from rfl, List.append_nil] at hturns

/-- A run of blanks between two characters that are not blank collapses on its own, and so does what
stands before it and behind it. -/
theorem collapseBlanks_run (hc : isBlank c = false) (hd : isBlank d = false) (hne : g ≠ [])
    (hg : ∀ c ∈ g, isBlank c = true) (a b : List Char) :
    collapseBlanks (a ++ c :: (g ++ d :: b)) =
      collapseBlanks (a ++ [c]) ++ (collapsedRun g ++ collapseBlanks (d :: b)) := by
  have hfront := turns_squeeze hc a (g ++ d :: b)
  have hrun := turns_squeeze hd g b
  rw [List.append_assoc, List.singleton_append] at hfront hrun
  rw [collapseBlanks_eq, collapseBlanks_eq, collapseBlanks_eq, hfront, hrun, squeeze_blanks hne hg,
    squeeze_concat hc, squeeze_cons hd, ← trim_around hc hd]
  simp

theorem words_collapseBlanks (s : List Char) : words (collapseBlanks s) = words s := by
  rw [collapseBlanks_eq, words_trim, ← words_outline, outline_squeeze, words_outline]

theorem notMem_collapseBlanks (hc : isLineBreak c = true) (s : List Char) : c ∉ collapseBlanks s :=
  fun hmem => notMem_squeeze_lineBreak hc s (mem_of_mem_trim hmem)

theorem Spaced.of_append (h : Spaced (a ++ b)) : Spaced b := by
  induction a with
  | nil => exact h
  | cons c a ih => exact ih h.2

theorem spaced_of_apart
    (h : ∀ a c d b, s = a ++ c :: d :: b → isBlank c = false ∨ isBlank d = false) : Spaced s := by
  induction s with
  | nil => exact True.intro
  | cons c s ih =>
    refine ⟨?_, ih fun a e f b hs => h (c :: a) e f b (by rw [hs, List.cons_append])⟩
    rintro ⟨hc, hs⟩
    cases s with
    | nil => simp [startsBlank] at hs
    | cons d s =>
      have hd : isBlank d = true := by simpa [startsBlank] using hs
      rcases h [] c d s rfl with hnot | hnot
      · exact absurd hc (by simp [hnot])
      · exact absurd hd (by simp [hnot])

/-- No two blanks stand side by side. -/
theorem apart_of_collapseBlanks (h : collapseBlanks s = a ++ c :: d :: b) :
    isBlank c = false ∨ isBlank d = false := by
  obtain ⟨g, g', hs, _, _⟩ := exists_trim (squeeze s)
  have hspaced : Spaced (squeeze s) := spaced_rewrite_run? _
  have hshape : squeeze s = (g ++ a) ++ c :: d :: (b ++ g') := by
    rw [hs, ← collapseBlanks_eq, h]
    simp
  rw [hshape] at hspaced
  have hnot := hspaced.of_append.1
  cases hc : isBlank c with
  | false => exact .inl rfl
  | true =>
    refine .inr ?_
    rw [← Bool.not_eq_true]
    exact fun hd => hnot ⟨hc, by simpa [startsBlank] using hd⟩

theorem collapseBlanks_collapseBlanks (s : List Char) :
    collapseBlanks (collapseBlanks s) = collapseBlanks s := by
  by_cases hnil : collapseBlanks s = []
  · rw [hnil]
    rfl
  have hunbroken : ∀ c ∈ collapseBlanks s, isLineBreak c = false := fun c hc => by
    rw [← Bool.not_eq_true]
    exact fun hbreak => notMem_collapseBlanks hbreak s hc
  have hspaced : Spaced (collapseBlanks s) := spaced_of_apart fun _ _ _ _ => apart_of_collapseBlanks
  rw [collapseBlanks_eq (collapseBlanks s), squeeze, rewrite_of_unbroken hunbroken,
    rewrite_of_spaced hspaced]
  exact (framed_trim hnil).trim

/-- Neither the first character of a collapsed text nor the last is blank. -/
theorem ends_collapseBlanks (s : List Char) :
    (∀ c ∈ (collapseBlanks s).head?, isBlank c = false) ∧
      ∀ c ∈ (collapseBlanks s).getLast?, isBlank c = false := by
  by_cases hnil : collapseBlanks s = []
  · simp [hnil]
  have hframed : Framed (collapseBlanks s) := framed_trim hnil
  constructor
  · intro c hc
    obtain ⟨d, r, hstart, hd⟩ := hframed.start
    rw [hstart] at hc
    exact Option.some.inj hc ▸ hd
  · intro c hc
    obtain ⟨a, d, hstop, hd⟩ := hframed.stop
    rw [hstop, List.getLast?_concat] at hc
    exact Option.some.inj hc ▸ hd

/-- What collapsing makes of a text: the same words with one blank between two of them.  A blank that
stands alone and is no line break stays; any other run of blanks is a space. -/
structure Collapses (s : List Char) : Prop where
  words_eq : words (collapseBlanks s) = words s
  unbroken : '\r' ∉ collapseBlanks s ∧ '\n' ∉ collapseBlanks s
  apart : ∀ a c d b, collapseBlanks s = a ++ c :: d :: b → isBlank c = false ∨ isBlank d = false
  head : ∀ c ∈ (collapseBlanks s).head?, isBlank c = false
  last : ∀ c ∈ (collapseBlanks s).getLast?, isBlank c = false
  lone : ∀ a c e d b, s = a ++ c :: e :: d :: b → isBlank c = false → isBlank d = false →
    isBlank e = true → e ≠ '\r' → e ≠ '\n' →
    collapseBlanks s = collapseBlanks (a ++ [c]) ++ e :: collapseBlanks (d :: b)
  run : ∀ a c g d b, s = a ++ c :: (g ++ d :: b) → isBlank c = false → isBlank d = false →
    (∀ e ∈ g, isBlank e = true) → 2 ≤ g.length ∨ g = ['\r'] ∨ g = ['\n'] →
    collapseBlanks s = collapseBlanks (a ++ [c]) ++ ' ' :: collapseBlanks (d :: b)
  again : collapseBlanks (collapseBlanks s) = collapseBlanks s

/-- Every text is collapsed, and the markup for a component is one line whatever it was made from. -/
theorem collapses (s : List Char) : Collapses s ∧ '\r' ∉ toJsx s ∧ '\n' ∉ toJsx s := by
  have hlone : ∀ e, e ≠ '\r' → e ≠ '\n' → collapsedRun [e] = [e] := fun e hreturn hfeed =>
    if_neg (by simp [isLineBreak, hreturn, hfeed])
  have hrun : ∀ g : List Char, 2 ≤ g.length ∨ g = ['\r'] ∨ g = ['\n'] → collapsedRun g = [' '] := by
    rintro g (hlong | rfl | rfl)
    · exact collapsedRun_long hlong
    · rfl
    · rfl
  obtain ⟨hhead, hlast⟩ := ends_collapseBlanks s
  refine ⟨⟨words_collapseBlanks s, ⟨?_, ?_⟩, fun _ _ _ _ => apart_of_collapseBlanks, hhead, hlast, ?_,
    ?_, collapseBlanks_collapseBlanks s⟩, ?_, ?_⟩
  case refine_3 =>
    rintro a c e d b rfl hc hd he hreturn hfeed
    have hsplit := collapseBlanks_run hc hd (List.cons_ne_nil e []) (by simpa using he) a b
    rwa [hlone e hreturn hfeed] at hsplit
  case refine_4 =>
    rintro a c g d b rfl hc hd hg hspace
    have hne : g ≠ [] := by rintro rfl; simp at hspace
    have hsplit := collapseBlanks_run hc hd hne hg a b
    rwa [hrun g hspace] at hsplit
  all_goals exact notMem_collapseBlanks (by decide) _

/-- A no-break space stays, and a line break is a space together with the blanks around it. -/
theorem collapses_mixed_blanks :
    collapseBlanks "\r\n a\u00a0b \t\r\nc\u2028".toList = "a\u00a0b c".toList ∧
      words "\r\n a\u00a0b \t\r\nc\u2028".toList = ["a".toList, "b".toList, "c".toList] := by
  have hlone := (collapses "\r\n a\u00a0b \t\r\nc\u2028".toList).1.lone "\r\n ".toList 'a' '\u00a0' 'b'
    " \t\r\nc\u2028".toList rfl rfl rfl rfl (by decide) (by decide)
  have hrun := (collapses "b \t\r\nc\u2028".toList).1.run [] 'b' " \t\r\n".toList 'c' "\u2028".toList
    rfl rfl rfl (by decide) (.inl (by decide))
  have hfront : collapseBlanks ("\r\n ".toList ++ ['a']) = ['a'] := by decide
  have hmiddle : collapseBlanks ([] ++ ['b']) = ['b'] := by decide
  have hback : collapseBlanks ('c' :: "\u2028".toList) = ['c'] := by decide
  have hwhole : collapseBlanks "\r\n a\u00a0b \t\r\nc\u2028".toList = "a\u00a0b c".toList := by
    rw [hlone, hfront]
    exact congrArg ("a\u00a0".toList ++ ·) (hrun.trans (by rw [hmiddle, hback]; rfl))
  refine ⟨hwhole, ?_⟩
  rw [← (collapses _).1.words_eq, hwhole]
  decide

end Markup
end SvgIcon
