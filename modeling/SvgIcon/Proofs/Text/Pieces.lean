import Mathlib.Data.List.Basic
import Mathlib.Data.List.TakeWhile
import SvgIcon.Text.Blank
import SvgIcon.Text.Scan

/-!
Texts cut at a separator, put together again, and trimmed.  Two texts that are put together share
one piece, the one in which they meet; trimming takes a run of blanks off either end.
-/

namespace SvgIcon
namespace Text

/-! ## Joining -/

section
variable (between : List Char)

theorem join_cons_cons (p q : List Char) (ps : List (List Char)) :
    join between (p :: q :: ps) = p ++ between ++ join between (q :: ps) := rfl

theorem join_append {ps qs : List (List Char)} (hps : ps ≠ []) (hqs : qs ≠ []) :
    join between (ps ++ qs) = join between ps ++ between ++ join between qs := by
  induction ps with
  | nil => exact absurd rfl hps
  | cons p ps ih =>
    cases ps with
    | nil =>
      obtain ⟨q, qs, rfl⟩ := List.exists_cons_of_ne_nil hqs
      rfl
    | cons r ps =>
      have hrest := ih (by simp)
      rw [List.cons_append] at hrest ⊢
      rw [List.cons_append, join_cons_cons, hrest, join_cons_cons]
      simp

theorem isSuffix_join (front : List (List Char)) {ps : List (List Char)} (hps : ps ≠ []) :
    join between ps <:+ join between (front ++ ps) := by
  by_cases hfront : front = []
  · exact hfront ▸ List.suffix_rfl
  · rw [join_append between hfront hps]
    exact List.suffix_append _ _

theorem exists_join_append (a s : List Char) (ps : List (List Char)) :
    ∃ t, join between ((a ++ s) :: ps) = a ++ t := by
  cases ps with
  | nil => exact ⟨s, rfl⟩
  | cons p ps =>
    exact ⟨s ++ between ++ join between (p :: ps), by rw [join_cons_cons]; simp⟩

/-- What is joined stands in the whole. -/
theorem isInfix_join {p : List Char} {ps : List (List Char)} (h : p ∈ ps) : p <:+: join between ps := by
  obtain ⟨front, others, rfl⟩ := List.append_of_mem h
  obtain ⟨t, ht⟩ := exists_join_append between p [] others
  have hsuffix := isSuffix_join between front (List.cons_ne_nil p others)
  rw [List.append_nil] at ht
  rw [ht] at hsuffix
  exact (List.prefix_append p t).isInfix.trans hsuffix.isInfix

theorem intercalate_eq_join (ps : List (List Char)) : between.intercalate ps = join between ps := by
  induction ps with
  | nil => rfl
  | cons p ps ih =>
    cases ps with
    | nil => exact List.intercalate_singleton
    | cons q ps => rw [List.intercalate_cons_cons, ih, join_cons_cons]

end

theorem join_replicate_nil (separator : Char) (n : Nat) (p : List Char) (ps : List (List Char)) :
    join [separator] (List.replicate n [] ++ p :: ps) =
      List.replicate n separator ++ join [separator] (p :: ps) := by
  induction n with
  | zero => rfl
  | succ n ih =>
    rw [List.replicate_succ, List.replicate_succ, List.cons_append, List.cons_append, ← ih]
    cases n with
    | zero => rfl
    | succ n => rfl

theorem mem_join {between : List Char} {c : Char} {ps : List (List Char)}
    (h : c ∈ join between ps) : c ∈ between ∨ ∃ p ∈ ps, c ∈ p := by
  induction ps with
  | nil => exact absurd h List.not_mem_nil
  | cons p ps ih =>
    cases ps with
    | nil => exact Or.inr ⟨p, List.mem_cons_self, h⟩
    | cons q ps =>
      simp only [join, List.mem_append] at h
      rcases h with (hp | hb) | hrest
      · exact Or.inr ⟨p, List.mem_cons_self, hp⟩
      · exact Or.inl hb
      · rcases ih hrest with hb | ⟨r, hr, hc⟩
        · exact Or.inl hb
        · exact Or.inr ⟨r, List.mem_cons_of_mem p hr, hc⟩

/-! ## Pieces -/

/-- Where two texts meet, the last piece of the one and the first piece of the other are one. -/
theorem exists_pieces_meet (separator : Char) (a : List Char) :
    ∃ front last, pieces separator a = front ++ [last] ∧
      ∀ b first others, pieces separator b = first :: others →
        pieces separator (a ++ b) = front ++ (last ++ first) :: others := by
  induction a with
  | nil => exact ⟨[], [], rfl, fun b first others hb => hb⟩
  | cons c a ih =>
    obtain ⟨front, last, ha, hmeet⟩ := ih
    by_cases hc : c = separator
    · refine ⟨[] :: front, last, ?_, fun b first others hb => ?_⟩
      · rw [pieces, if_pos hc, ha, List.cons_append]
      · rw [List.cons_append, pieces, if_pos hc, hmeet b first others hb, List.cons_append]
    · cases front with
      | nil =>
        refine ⟨[], c :: last, ?_, fun b first others hb => ?_⟩
        · rw [pieces, if_neg hc, ha]
          rfl
        · rw [List.cons_append, pieces, if_neg hc, hmeet b first others hb]
          rfl
      | cons p front =>
        refine ⟨(c :: p) :: front, last, ?_, fun b first others hb => ?_⟩
        · rw [pieces, if_neg hc, ha]
          rfl
        · rw [List.cons_append, pieces, if_neg hc, hmeet b first others hb]
          rfl

theorem pieces_separator (separator : Char) (a b : List Char) :
    pieces separator (a ++ separator :: b) = pieces separator a ++ pieces separator b := by
  obtain ⟨front, last, ha, hmeet⟩ := exists_pieces_meet separator a
  have hb : pieces separator (separator :: b) = [] :: pieces separator b := by
    rw [pieces, if_pos rfl]
  rw [hmeet _ _ _ hb, ha]
  simp

section
variable {separator : Char}

theorem pieces_of_notMem {l : List Char} (h : separator ∉ l) : pieces separator l = [l] := by
  induction l with
  | nil => rfl
  | cons c l ih =>
    have hc : c ≠ separator := fun e => h (by simp [e])
    rw [pieces, if_neg hc, ih fun hmem => h (List.mem_cons_of_mem c hmem)]

theorem pieces_append {l : List Char} (h : separator ∉ l) (rest : List Char) :
    pieces separator (l ++ separator :: rest) = l :: pieces separator rest := by
  rw [pieces_separator, pieces_of_notMem h, List.singleton_append]

/-- What stands before the first separator is a front part of the first piece. -/
theorem exists_pieces_append {a : List Char} (ha : separator ∉ a) (s : List Char) :
    ∃ p ps, pieces separator s = p :: ps ∧ pieces separator (a ++ s) = (a ++ p) :: ps := by
  obtain ⟨p, ps, hpieces⟩ := List.exists_cons_of_ne_nil (pieces_ne_nil separator s)
  obtain ⟨front, last, hlast, hmeet⟩ := exists_pieces_meet separator a
  rw [pieces_of_notMem ha] at hlast
  obtain ⟨rfl, hlast⟩ : [] = front ∧ [a] = [last] := List.append_inj' hlast rfl
  obtain rfl := List.singleton_inj.1 hlast
  exact ⟨p, ps, hpieces, hmeet s p ps hpieces⟩

theorem pieces_join {ls : List (List Char)} (hne : ls ≠ []) (h : ∀ l ∈ ls, separator ∉ l) :
    pieces separator (join [separator] ls) = ls := by
  induction ls with
  | nil => exact absurd rfl hne
  | cons l ls ih =>
    have hl : separator ∉ l := h l List.mem_cons_self
    cases ls with
    | nil => exact pieces_of_notMem hl
    | cons k ls =>
      have hrest := ih (by simp) fun d hd => h d (List.mem_cons_of_mem l hd)
      rw [join_cons_cons, List.append_assoc, List.singleton_append, pieces_append hl, hrest]

section
variable {s piece : List Char}

theorem notMem_of_mem_pieces (h : piece ∈ pieces separator s) : separator ∉ piece := by
  induction s generalizing piece with
  | nil =>
    obtain rfl : piece = [] := by simpa [pieces] using h
    simp
  | cons c s ih =>
    rw [pieces] at h
    split at h
    · rcases List.mem_cons.1 h with rfl | h
      · simp
      · exact ih h
    · rename_i hc
      split at h
      · obtain rfl : piece = [c] := by simpa using h
        simpa using fun heq : separator = c => hc heq.symm
      · rename_i first others hpieces
        rw [hpieces] at ih
        rcases List.mem_cons.1 h with rfl | h
        · rw [List.mem_cons, not_or]
          exact ⟨fun heq => hc heq.symm, ih List.mem_cons_self⟩
        · exact ih (List.mem_cons_of_mem first h)

theorem isInfix_of_mem_pieces (h : piece ∈ pieces separator s) : piece <:+: s := by
  have hinside := isInfix_join [separator] h
  rwa [join_pieces] at hinside

theorem mem_of_mem_pieces {c : Char} (hpiece : piece ∈ pieces separator s) (hc : c ∈ piece) :
    c ∈ s :=
  (isInfix_of_mem_pieces hpiece).subset hc

end
end

/-! ## Trimming -/

theorem ne_of_isBlank {c d : Char} (hc : isBlank c = true) (hd : isBlank d = false) : c ≠ d := by
  rintro rfl
  rw [hc] at hd
  exact Bool.noConfusion hd

/-- What is trimmed off the end. -/
theorem trim_append (s : List Char) :
    trim s ++ ((trimStart isBlank s).reverse.takeWhile isBlank).reverse = trimStart isBlank s := by
  rw [trim, trimEnd, ← List.reverse_append, List.takeWhile_append_dropWhile, List.reverse_reverse]

theorem exists_trim (s : List Char) : ∃ g g', s = g ++ (trim s ++ g') ∧
    (∀ c ∈ g, isBlank c = true) ∧ ∀ c ∈ g', isBlank c = true := by
  have hmem : ∀ (u : List Char), ∀ c ∈ u.takeWhile isBlank, isBlank c = true := fun u c hc =>
    List.mem_takeWhile_imp hc
  refine ⟨s.takeWhile isBlank, ((trimStart isBlank s).reverse.takeWhile isBlank).reverse, ?_,
    hmem s, fun c hc => hmem _ c (List.mem_reverse.1 hc)⟩
  rw [trim_append, trimStart, List.takeWhile_append_dropWhile]

theorem isInfix_trim (s : List Char) : trim s <:+: s := by
  obtain ⟨g, g', hs, _, _⟩ := exists_trim s
  exact ⟨g, g', by rw [List.append_assoc, ← hs]⟩

theorem mem_of_mem_trim {c : Char} {s : List Char} (h : c ∈ trim s) : c ∈ s :=
  (isInfix_trim s).subset h

theorem trim_eq_self {s r a : List Char} {c d : Char} (hstart : s = c :: r) (hstop : s = a ++ [d])
    (hc : isBlank c = false) (hd : isBlank d = false) : trim s = s := by
  have hfront : trimStart isBlank s = s := by
    rw [hstart, trimStart, List.dropWhile_cons_of_neg (by simp [hc])]
  have hback : s.reverse = d :: a.reverse := by
    rw [hstop, List.reverse_append]
    rfl
  rw [trim, hfront, trimEnd, hback, List.dropWhile_cons_of_neg (by simp [hd]), ← hback,
    List.reverse_reverse]

theorem trim_cons {c : Char} (hc : isBlank c = true) (s : List Char) : trim (c :: s) = trim s := by
  rw [trim, trimStart, List.dropWhile_cons_of_pos hc, ← trimStart, ← trim]

theorem trim_append_gap {gap : List Char} (hgap : ∀ c ∈ gap, isBlank c = true) (s : List Char) :
    trim (gap ++ s) = trim s := by
  rw [trim, trim, trimStart, trimStart, List.dropWhile_append_of_pos hgap]

theorem trim_append_blank {g : List Char} (hg : ∀ c ∈ g, isBlank c = true) (s : List Char) :
    trim (s ++ g) = trim s := by
  rw [trim, trim, trimStart, trimStart, List.dropWhile_append]
  split
  · rename_i hnil
    rw [List.isEmpty_iff.1 hnil, List.dropWhile_eq_nil_iff.2 hg]
  · rw [trimEnd, trimEnd, List.reverse_append,
      List.dropWhile_append_of_pos fun c hc => hg c (List.mem_reverse.1 hc)]

/-- Trimming spares the front of a text up to a character that is not blank. -/
theorem exists_trim_append {c d : Char} (hc : isBlank c = false) (hd : isBlank d = false)
    (a s : List Char) : ∃ t, trim (c :: (a ++ d :: s)) = c :: (a ++ d :: t) := by
  have hfront : trimStart isBlank (c :: (a ++ d :: s)) = c :: (a ++ d :: s) :=
    List.dropWhile_cons_of_neg (by simp [hc])
  have hback : (c :: (a ++ d :: s)).reverse = s.reverse ++ d :: (c :: a).reverse := by simp
  have hstop : (d :: (c :: a).reverse).dropWhile isBlank = d :: (c :: a).reverse :=
    List.dropWhile_cons_of_neg (by simp [hd])
  rw [trim, hfront, trimEnd, hback, List.dropWhile_append]
  split
  · exact ⟨[], by rw [hstop]; simp⟩
  · exact ⟨(s.reverse.dropWhile isBlank).reverse, by simp⟩

end Text
end SvgIcon
