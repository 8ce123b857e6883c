import SvgIcon.Markup.Layout
import SvgIcon.Proofs.Text.Passes
import SvgIcon.Proofs.Text.Pieces

/-!
What the layout does to a text.  It breaks the text between tags, trims the lines, and puts blanks in
front of them; where a line is framed by characters that are not blank, only the breaks are new.
-/

namespace SvgIcon
namespace Markup

open Text

/-- The text begins and ends with characters that are not blank. -/
structure Framed (s : List Char) : Prop where
  start : ∃ c r, s = c :: r ∧ isBlank c = false
  stop : ∃ a d, s = a ++ [d] ∧ isBlank d = false

theorem Framed.ne_nil {s : List Char} (h : Framed s) : s ≠ [] := by
  obtain ⟨c, r, rfl, _⟩ := h.start
  simp

theorem Framed.trim {s : List Char} (h : Framed s) : trim s = s := by
  obtain ⟨c, r, hstart, hc⟩ := h.start
  obtain ⟨a, d, hstop, hd⟩ := h.stop
  exact trim_eq_self hstart hstop hc hd

theorem framed_trim {s : List Char} (h : trim s ≠ []) : Framed (trim s) := by
  have hhead : ∀ {u : List Char} {c r}, u.dropWhile isBlank = c :: r → isBlank c = false := by
    intro u c r hu
    have hnot := List.head?_dropWhile_not isBlank u
    rw [hu] at hnot
    simpa using hnot
  refine ⟨?_, ?_⟩
  · -- what is taken off the end leaves the front of a text that is not empty
    obtain ⟨c, r, hcons⟩ := List.exists_cons_of_ne_nil h
    have hstart := trim_append s
    rw [hcons] at hstart
    exact ⟨c, r, hcons, hhead hstart.symm⟩
  · cases hback : (trimStart isBlank s).reverse.dropWhile isBlank with
    | nil =>
      have hnil : Text.trim s = [] := by rw [Text.trim, trimEnd, hback]; rfl
      exact absurd hnil h
    | cons d a =>
      have hend : Text.trim s = a.reverse ++ [d] := by
        rw [Text.trim, trimEnd, hback, List.reverse_cons]
      exact ⟨a.reverse, d, hend, hhead hback⟩

theorem trim_trim (s : List Char) : trim (trim s) = trim s := by
  by_cases h : trim s = []
  · rw [h]
    rfl
  · exact (framed_trim h).trim

/-! ## Breaks between tags -/

theorem turns_breakTags_char {c : Char} (h : c ≠ '>') : Turns breakTags [c] [c] := by
  intro rest
  show breakTags (c :: rest) = c :: breakTags rest
  rw [breakTags, if_neg fun hand => h hand.1]

theorem turns_breakTags {s : List Char} (h : '>' ∉ s) : Turns breakTags s s :=
  Turns.copy fun _ hc => turns_breakTags_char fun heq => h (heq ▸ hc)

theorem breakTags_append {c : Char} (hc : c ≠ '<') (a b : List Char) :
    breakTags (a ++ c :: b) = breakTags a ++ breakTags (c :: b) := by
  induction a with
  | nil => rfl
  | cons d a ih =>
    have hhead : (a ++ c :: b).head? = some '<' ↔ a.head? = some '<' := by
      cases a with
      | nil => simpa using hc
      | cons e a => rfl
    rw [List.cons_append, breakTags, breakTags, ih]
    simp only [hhead]
    split <;> rfl

theorem breakTags_boundary (a b : List Char) :
    breakTags (a ++ '>' :: '<' :: b) = breakTags (a ++ ['>']) ++ '\n' :: breakTags ('<' :: b) := by
  have hbreak : breakTags ('>' :: '<' :: b) = '>' :: '\n' :: breakTags ('<' :: b) := by
    rw [breakTags, if_pos ⟨rfl, rfl⟩]
  rw [breakTags_append (by decide), breakTags_append (by decide), hbreak, List.append_assoc]
  rfl

theorem length_le_breakTags (s : List Char) : s.length ≤ (breakTags s).length := by
  induction s with
  | nil => exact Nat.le_refl 0
  | cons c s ih =>
    rw [breakTags]
    split <;> simp only [List.length_cons] <;> omega

theorem breakTags_cons {c : Char} {s : List Char} (h : breakTags (c :: s) = c :: s) :
    breakTags s = s ∧ ¬ (c = '>' ∧ s.head? = some '<') := by
  rw [breakTags] at h
  split at h
  · have hlong := congrArg List.length h
    have hrest := length_le_breakTags s
    simp only [List.length_cons] at hlong
    omega
  · rename_i hnot
    exact ⟨(List.cons.inj h).2, hnot⟩

theorem breakTags_eq_self_iff {s : List Char} : breakTags s = s ↔ ¬ ['>', '<'] <:+: s := by
  constructor
  · rintro h ⟨a, b, rfl⟩
    induction a with
    | nil => exact (breakTags_cons h).2 ⟨rfl, rfl⟩
    | cons c a ih => exact ih (breakTags_cons h).1
  · intro h
    induction s with
    | nil => rfl
    | cons c s ih =>
      have hrest := ih fun hs => h (hs.trans (List.suffix_cons c s).isInfix)
      have hnot : ¬ (c = '>' ∧ s.head? = some '<') := by
        rintro ⟨rfl, hs⟩
        obtain ⟨r, rfl⟩ := List.head?_eq_some_iff.1 hs
        exact h ⟨[], r, rfl⟩
      rw [breakTags, if_neg hnot, hrest]

/-! ## Indented lines -/

theorem indentLines_cons {l : List Char} (hl : l ≠ []) (depth : Nat) (ls : List (List Char)) :
    indentLines depth (l :: ls) = (indent ((lineKind l).enter depth) ++ l) ::
      indentLines ((lineKind l).leave ((lineKind l).enter depth)) ls := by
  rw [indentLines, if_neg hl]

theorem indentLines_eq_cons (depth : Nat) (l : List Char) (ls : List (List Char)) :
    ∃ n depth', indentLines depth (l :: ls) = (indent n ++ l) :: indentLines depth' ls := by
  rw [indentLines]
  split
  · rename_i hl
    exact ⟨0, depth, by rw [hl]; rfl⟩
  · exact ⟨_, _, rfl⟩

theorem length_indentLines (depth : Nat) (ls : List (List Char)) :
    (indentLines depth ls).length = ls.length := by
  induction ls generalizing depth with
  | nil => rfl
  | cons l ls ih =>
    obtain ⟨n, depth', hlines⟩ := indentLines_eq_cons depth l ls
    rw [hlines, List.length_cons, List.length_cons, ih]

theorem indentLines_eq_nil {depth : Nat} {ls : List (List Char)} :
    indentLines depth ls = [] ↔ ls = [] := by
  rw [← List.length_eq_zero_iff, length_indentLines, List.length_eq_zero_iff]

theorem exists_of_mem_indentLines {depth : Nat} {ls : List (List Char)} {l : List Char}
    (h : l ∈ indentLines depth ls) : ∃ n, ∃ k ∈ ls, l = indent n ++ k := by
  induction ls generalizing depth with
  | nil => exact absurd h List.not_mem_nil
  | cons k ls ih =>
    obtain ⟨n, depth', hlines⟩ := indentLines_eq_cons depth k ls
    rw [hlines] at h
    rcases List.mem_cons.1 h with rfl | h
    · exact ⟨n, k, List.mem_cons_self, rfl⟩
    · obtain ⟨m, j, hj, hl⟩ := ih h
      exact ⟨m, j, List.mem_cons_of_mem k hj, hl⟩

/-- A closing line would lower the depth, but there is none below zero. -/
theorem indent_enter_zero (kind : LineKind) : indent (kind.enter 0) = [] := by
  cases kind <;> rfl

/-- Nothing can be trimmed off indented lines, since the first one stands at depth zero. -/
theorem framed_join_indentLines {ls : List (List Char)} (hne : ls ≠ [])
    (h : ∀ l ∈ ls, Framed l) : Framed (join ['\n'] (indentLines 0 ls)) := by
  constructor
  · obtain ⟨l, ls, rfl⟩ := List.exists_cons_of_ne_nil hne
    obtain ⟨c, r, rfl, hc⟩ := (h l List.mem_cons_self).start
    rw [indentLines_cons (by simp), indent_enter_zero, List.nil_append]
    obtain ⟨t, ht⟩ := exists_join_append ['\n'] [c] r
      (indentLines ((lineKind (c :: r)).leave ((lineKind (c :: r)).enter 0)) ls)
    exact ⟨c, t, ht, hc⟩
  · rcases List.eq_nil_or_concat (indentLines 0 ls) with hnil | ⟨front, last, hlines⟩
    · exact absurd (indentLines_eq_nil.1 hnil) hne
    · rw [List.concat_eq_append] at hlines
      obtain ⟨n, k, hk, rfl⟩ := exists_of_mem_indentLines
        (show last ∈ indentLines 0 ls by rw [hlines]; simp)
      obtain ⟨x, d, hlast, hd⟩ := (h k hk).stop
      obtain ⟨y, hy⟩ := isSuffix_join ['\n'] front (List.cons_ne_nil (indent n ++ k) [])
      refine ⟨y ++ (indent n ++ x), d, ?_, hd⟩
      rw [hlines, ← hy, join, hlast]
      simp

/-- The lines of a text as they are indented: broken between tags, and trimmed. -/
def brokenLines (s : List Char) : List (List Char) := (pieces '\n' (breakTags s)).map trim

/-- Lines indented and put together. -/
def laid (ls : List (List Char)) : List Char := trim (join ['\n'] (indentLines 0 ls))

theorem layout_eq (s : List Char) : layout s = laid (brokenLines s) := rfl

theorem laid_of_framed {ls : List (List Char)} (hne : ls ≠ []) (h : ∀ l ∈ ls, Framed l) :
    laid ls = join ['\n'] (indentLines 0 ls) :=
  (framed_join_indentLines hne h).trim

end Markup
end SvgIcon
