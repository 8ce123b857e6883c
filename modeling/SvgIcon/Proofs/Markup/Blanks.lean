import SvgIcon.Proofs.Markup.Forward

/-!
Collapsing the blanks of a printed tree.  Blanks stand there before attributes, in values and in
texts only, and each of these stretches ends at a character that is not blank; so the blanks of a
value or a text collapse as if it stood alone.
-/

namespace SvgIcon
namespace Markup

open Text

variable {α : Type}

/-- Blanks collapsed as in `collapseBlanks`, with those at the ends kept. -/
def squeeze (s : List Char) : List Char := rewrite (run? isBlank 2) (rewrite (run? isLineBreak 1) s)

theorem collapseBlanks_eq (s : List Char) : collapseBlanks s = trim (squeeze s) := rfl

/-! ## Runs end where their class does -/

theorem takeWhile_append_stop {inRun : Char → Bool} {c : Char} (hc : inRun c = false)
    (a rest : List Char) : (a ++ c :: rest).takeWhile inRun = a.takeWhile inRun := by
  induction a with
  | nil => rw [List.nil_append, List.takeWhile_cons_of_neg (by simp [hc])]; rfl
  | cons d a ih =>
    rw [List.cons_append, List.takeWhile_cons, List.takeWhile_cons, ih]

/-- What stands before a character outside the class is rewritten on its own. -/
theorem rewrite_run?_append {inRun : Char → Bool} {least : Nat} (hleast : 0 < least) {c : Char}
    (hc : inRun c = false) (a rest : List Char) :
    rewrite (run? inRun least) (a ++ c :: rest) =
      rewrite (run? inRun least) a ++ c :: rewrite (run? inRun least) rest := by
  match a with
  | [] =>
    have hnone : run? inRun least (c :: rest) = none := by
      simp only [run?, List.takeWhile_cons_of_neg (by simp [hc] : ¬ inRun c = true),
        List.length_nil]
      rw [if_neg (by omega)]
    exact rewrite_of_none hnone
  | d :: a =>
    have hrun := takeWhile_append_stop hc (d :: a) rest
    have hlength := (List.takeWhile_sublist inRun (l := d :: a)).length_le
    by_cases hlong : least ≤ ((d :: a).takeWhile inRun).length
    · -- the run is replaced, and what is left of `a` behind it is shorter
      obtain ⟨n, hn⟩ := Nat.exists_eq_succ_of_ne_zero
        (show ((d :: a).takeWhile inRun).length ≠ 0 by omega)
      have hfind : run? inRun least (d :: a) = some (n + 1, [' ']) := by
        simp only [run?, hn] at hlong ⊢
        rw [if_pos hlong]
      have hfind' : run? inRun least ((d :: a) ++ c :: rest) = some (n + 1, [' ']) := by
        simp only [run?, hrun, hn] at hlong ⊢
        rw [if_pos hlong]
      have hdrop : ((d :: a) ++ c :: rest).drop (n + 1) = (d :: a).drop (n + 1) ++ c :: rest :=
        List.drop_append_of_le_length (by omega)
      have hshorter := rewrite_run?_append hleast hc ((d :: a).drop (n + 1)) rest
      rw [rewrite_of_some hfind (by simp), rewrite_of_some hfind' (by simp), hdrop, hshorter]
      simp
    · have hnone : run? inRun least (d :: a) = none := by
        simp only [run?]
        rw [if_neg hlong]
      have hnone' : run? inRun least (d :: (a ++ c :: rest)) = none := by
        simp only [run?, ← List.cons_append, hrun]
        rw [if_neg hlong]
      have hshorter := rewrite_run?_append hleast hc a rest
      rw [List.cons_append, rewrite_of_none hnone, rewrite_of_none hnone', hshorter,
        List.cons_append]
  termination_by a.length
  decreasing_by all_goals simp only [List.length_drop, List.length_cons]; omega

theorem isLineBreak_eq_false {c : Char} (h : isBlank c = false) : isLineBreak c = false := by
  rw [← Bool.not_eq_true]
  intro hbreak
  simp only [isLineBreak, Bool.or_eq_true, decide_eq_true_eq] at hbreak
  rcases hbreak with rfl | rfl <;> revert h <;> decide

/-- A text collapses on its own if no blank stands behind it. -/
theorem turns_squeeze {c : Char} (hc : isBlank c = false) (a : List Char) :
    Turns squeeze (a ++ [c]) (squeeze a ++ [c]) := by
  intro rest
  have hbreaks := rewrite_run?_append Nat.one_pos (isLineBreak_eq_false hc) a rest
  have hblanks := rewrite_run?_append Nat.two_pos hc (rewrite (run? isLineBreak 1) a)
    (rewrite (run? isLineBreak 1) rest)
  simp only [squeeze, List.append_assoc, List.singleton_append, hbreaks, hblanks]

theorem turns_squeeze_char {c : Char} (hc : isBlank c = false) : Turns squeeze [c] [c] :=
  turns_squeeze hc []

theorem turns_squeeze_space {c : Char} (hc : isBlank c = false) :
    Turns squeeze [' ', c] [' ', c] := turns_squeeze hc [' ']

theorem turns_squeeze_solid {a : List Char} (h : ∀ c ∈ a, isBlank c = false) :
    Turns squeeze a a := Turns.copy fun c hc => turns_squeeze_char (h c hc)

theorem eq_space_of_run? {inRun : Char → Bool} {least n : Nat} {s replacement : List Char}
    (h : run? inRun least s = some (n, replacement)) : replacement = [' '] := by
  simp only [run?] at h
  split at h
  · exact (Prod.mk.inj (Option.some.inj h)).2.symm
  · exact absurd h (by simp)

theorem mem_squeeze {c : Char} {s : List Char} (h : c ∈ squeeze s) : c ∈ s ∨ c = ' ' := by
  have hstep : ∀ {inRun least} {u : List Char}, c ∈ rewrite (run? inRun least) u →
      c ∈ u ∨ c = ' ' := by
    intro inRun least u hc
    rcases mem_rewrite hc with hu | ⟨_, _, replacement, hfind, hr⟩
    · exact Or.inl hu
    · rw [eq_space_of_run? hfind, List.mem_singleton] at hr
      exact Or.inr hr
  rcases hstep h with hbreaks | hspace
  · exact hstep hbreaks
  · exact Or.inr hspace

theorem notMem_rewrite_run? {inRun : Char → Bool} {c : Char} (hc : inRun c = true)
    (hspace : c ≠ ' ') (s : List Char) : c ∉ rewrite (run? inRun 1) s := by
  suffices hfrom : ∀ n, c ∉ rewriteFrom (run? inRun 1) n s from hfrom 0
  induction s with
  | nil => intro n; cases n <;> exact List.not_mem_nil
  | cons d s ih =>
    intro n
    cases n with
    | succ n => exact ih n
    | zero =>
      rw [rewriteFrom]
      split
      · rename_i n replacement hfind
        rw [eq_space_of_run? hfind]
        simpa [hspace] using ih n
      · rename_i hfind
        have hne : c ≠ d := by
          rintro rfl
          refine hfind (s.takeWhile inRun).length [' '] ?_
          simp [run?, hc]
        simpa [hne] using ih 0

theorem notMem_squeeze_lineBreak {c : Char} (hc : isLineBreak c = true) (s : List Char) :
    c ∉ squeeze s := by
  have hspace : c ≠ ' ' := by
    rintro rfl
    exact absurd hc (by decide)
  intro hmem
  rcases mem_rewrite hmem with h | ⟨_, _, replacement, hfind, h⟩
  · exact notMem_rewrite_run? hc hspace s h
  · rw [eq_space_of_run? hfind, List.mem_singleton] at h
    exact hspace h

theorem squeeze_ne_nil {s : List Char} (h : s ≠ []) : squeeze s ≠ [] := by
  have hrun : ∀ (inRun : Char → Bool) (least : Nat) (u : List Char), u ≠ [] →
      rewrite (run? inRun least) u ≠ [] := by
    intro inRun least u hu
    obtain ⟨c, r, rfl⟩ := List.exists_cons_of_ne_nil hu
    rw [rewrite, rewriteFrom]
    split
    · rename_i hfind
      rw [eq_space_of_run? hfind]
      simp
    · simp
  exact hrun _ _ _ (hrun _ _ _ h)

/-! ## A printed tree -/

theorem isBlank_of_mem_attributeName {n : List Char} (h : isAttributeName n = true) {c : Char}
    (hc : c ∈ n) : isBlank c = false := by
  have hname := isNameChar_of_mem_attributeName h hc
  simp only [Attribute.isNameChar, Bool.or_eq_true, decide_eq_true_eq] at hname
  rcases hname with ((hword | rfl) | rfl) | rfl
  · exact isBlank_eq_false_of_isWord hword
  all_goals decide

namespace Quoted

def squeezed (a : Quoted) : Quoted := { a with value := squeeze a.value }

theorem turns_squeeze_text {a : Quoted} (hn : isAttributeName a.name = true) :
    Turns squeeze (' ' :: a.text) (' ' :: a.squeezed.text) := by
  obtain ⟨name, value⟩ := a
  cases name with
  | nil => simp [isAttributeName] at hn
  | cons c s =>
    have hblank : ∀ d ∈ c :: s, isBlank d = false := fun d hd =>
      isBlank_of_mem_attributeName hn hd
    have hspace : Turns squeeze [' ', c] [' ', c] :=
      turns_squeeze_space (hblank c List.mem_cons_self)
    have hname : Turns squeeze s s := turns_squeeze_solid fun d hd =>
      hblank d (List.mem_cons_of_mem c hd)
    have hmarks : Turns squeeze ['=', '"'] ['=', '"'] :=
      Turns.cons (turns_squeeze_char (by decide)) (turns_squeeze_char (by decide))
    have hvalue : Turns squeeze (value ++ ['"']) (squeeze value ++ ['"']) :=
      turns_squeeze (by decide) value
    have hall := ((hspace.append hname).append hmarks).append hvalue
    simpa [text, squeezed] using hall

end Quoted

theorem Element.turns_squeeze_mark (e : Element α) : Turns squeeze e.mark e.mark := by
  have hparts := e.turns_mark (f := fun c => [c]) (turns_squeeze_char (by decide))
    (turns_squeeze_char (by decide)) (turns_squeeze_space (by decide))
  rwa [List.flatMap_singleton'] at hparts

theorem written_squeeze {e : Element Quoted} (hn : isElementName e.name = true)
    {f : Quoted → Quoted} (ha : ∀ a ∈ e.attributes, isAttributeName (f a).name = true) :
    e.Written (Turns squeeze) (fun a => (f a).text) (fun a => (f a).squeezed.text) id squeeze := by
  have hname : Turns squeeze e.name e.name := turns_squeeze_solid fun c hc =>
    isBlank_eq_false_of_isWord (isWord_of_mem_elementName hn hc)
  have hend : Turns squeeze ('/' :: (e.name ++ ['>'])) ('/' :: (e.name ++ ['>'])) :=
    Turns.cons (turns_squeeze_char (by decide))
      (hname.append (turns_squeeze_char (by decide)))
  have hbracket : Turns squeeze ['<'] ['<'] := turns_squeeze_char (by decide)
  refine ⟨?_, fun s _ => ?_, Turns.cons hbracket hend⟩
  · exact turns_tag hbracket (fun c _ rest => hname (c :: rest))
      (fun a hmem => Quoted.turns_squeeze_text (ha a hmem)) e.turns_squeeze_mark
  · have htext : Turns squeeze (s ++ ['<']) (squeeze s ++ ['<']) := turns_squeeze (by decide) s
    have hall := htext.append hend
    simpa [endTag] using hall

end Markup
end SvgIcon
