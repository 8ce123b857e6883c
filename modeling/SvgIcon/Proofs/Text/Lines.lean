import SvgIcon.Proofs.Text.Passes
import SvgIcon.Proofs.Text.Pieces

/-!
Lines of texts, and copies of one text in another.  A text that has a line feed behind it is copied in
another one exactly where a line that is ended ends so.
-/

namespace SvgIcon
namespace Text

/-! ## Copies -/

theorem contains_append (needle front rest : List Char) :
    contains needle (front ++ needle ++ rest) = true := by
  induction front with
  | nil =>
    have hfront : after? needle (needle ++ rest) = some rest := after?_eq_some_iff.2 rfl
    cases hs : needle ++ rest with
    | nil => simp [contains, cut?, List.append_eq_nil_iff.1 hs]
    | cons c s =>
      rw [hs] at hfront
      simp [contains, hs, cut?, hfront]
  | cons c front ih =>
    rw [List.cons_append, List.cons_append, contains, cut?]
    split
    · rfl
    · simpa [contains] using ih

theorem contains_iff {needle s : List Char} : contains needle s = true ↔ needle <:+: s := by
  constructor
  · intro h
    obtain ⟨⟨front, rest⟩, hcut⟩ := Option.isSome_iff_exists.1 h
    exact ⟨front, rest, (eq_append_of_cut? hcut).symm⟩
  · rintro ⟨front, rest, rfl⟩
    exact contains_append needle front rest

/-- Two texts are cut alike at the first copy of a character. -/
theorem append_cons_inj {c : Char} {a b s t : List Char} (ha : c ∉ a) (hb : c ∉ b)
    (h : a ++ c :: s = b ++ c :: t) : a = b ∧ s = t := by
  have hfront := congrArg (List.takeWhile (· ≠ c)) h
  have hrest := congrArg (List.dropWhile (· ≠ c)) h
  rw [takeWhile_ne ha, takeWhile_ne hb] at hfront
  rw [dropWhile_ne ha, dropWhile_ne hb] at hrest
  exact ⟨hfront, (List.cons.inj hrest).2⟩

/-! ## Lines -/

/-- The lines that a line feed ends. -/
def endedLines (s : List Char) : List (List Char) := (pieces '\n' s).dropLast

/-- The lines of a text.  A line feed ends a line, and the last line may do without. -/
def lines (s : List Char) : List (List Char) :=
  let ps := pieces '\n' s
  if ps.getLast? = some [] then ps.dropLast else ps

section
variable {s t b : List Char}

theorem endedLines_feed (s t : List Char) :
    endedLines (s ++ '\n' :: t) = pieces '\n' s ++ endedLines t := by
  rw [endedLines, pieces_separator, List.dropLast_append_of_ne_nil (pieces_ne_nil '\n' t), endedLines]

theorem endedLines_append (h : '\n' ∉ b) (t : List Char) :
    endedLines (b ++ '\n' :: t) = b :: endedLines t := by
  rw [endedLines_feed, pieces_of_notMem h, List.singleton_append]

/-- Behind a line feed the lines start afresh. -/
theorem lines_feed (s t : List Char) : lines (s ++ '\n' :: t) = pieces '\n' s ++ lines t := by
  have hne := pieces_ne_nil '\n' t
  rw [lines, lines, pieces_separator, List.getLast?_append_of_ne_nil _ hne,
    List.dropLast_append_of_ne_nil hne]
  split <;> rfl

theorem lines_append (h : '\n' ∉ b) (t : List Char) : lines (b ++ '\n' :: t) = b :: lines t := by
  rw [lines_feed, pieces_of_notMem h, List.singleton_append]

/-- Whole lines behind a text whose lines are ended are lines behind its lines. -/
theorem lines_append_of_ended {ls : List (List Char)} (hs : s = [] ∨ s.getLast? = some '\n')
    (ht : pieces '\n' t = ls ++ [[]]) : lines (s ++ t) = lines s ++ ls := by
  have hlines : lines t = ls := by
    rw [lines, ht]
    simp
  rcases List.eq_nil_or_concat s with rfl | ⟨a, c, rfl⟩
  · exact hlines
  obtain rfl : c = '\n' := by simpa using hs
  rw [List.concat_eq_append, List.append_assoc, List.singleton_append, lines_feed, lines_feed, hlines]
  show _ = pieces '\n' a ++ [] ++ ls
  rw [List.append_nil]

/-- A text that stops in the middle of a line has that line too. -/
theorem lines_of_getLast?_ne (hne : s ≠ []) (h : s.getLast? ≠ some '\n') :
    lines s = pieces '\n' s := by
  rcases List.eq_nil_or_concat s with rfl | ⟨a, c, rfl⟩
  · exact absurd rfl hne
  rw [List.concat_eq_append] at h ⊢
  have hc : c ≠ '\n' := by simpa using h
  obtain ⟨front, last, _, hmeet⟩ := exists_pieces_meet '\n' a
  have hpiece : pieces '\n' [c] = [[c]] := pieces_of_notMem (by simpa using hc.symm)
  rw [lines, hmeet _ _ _ hpiece]
  simp

/-- A text with a line feed behind it stands in another one exactly where one of the lines that are
ended ends so. -/
theorem contains_line_iff (hb : '\n' ∉ b) :
    contains (b ++ ['\n']) s = true ↔ ∃ l ∈ endedLines s, b <:+ l := by
  rw [contains_iff]
  constructor
  · rintro ⟨front, rest, rfl⟩
    obtain ⟨ls, last, _, hmeet⟩ := exists_pieces_meet '\n' front
    have hlines : endedLines (front ++ (b ++ ['\n']) ++ rest) =
        ls ++ [last ++ b] ++ endedLines rest := by
      have hsplit : front ++ (b ++ ['\n']) ++ rest = (front ++ b) ++ '\n' :: rest := by simp
      rw [hsplit, endedLines_feed, hmeet b b [] (pieces_of_notMem hb)]
    refine ⟨last ++ b, ?_, List.suffix_append last b⟩
    rw [hlines]
    simp
  · rintro ⟨l, hl, a, rfl⟩
    -- the line is no last piece, so a separator stands behind it
    obtain ⟨front, others, hsplit⟩ := List.append_of_mem hl
    have hwhole := List.dropLast_concat_getLast (pieces_ne_nil '\n' s)
    rw [show (pieces '\n' s).dropLast = front ++ (a ++ b) :: others from hsplit, List.append_assoc,
      List.cons_append] at hwhole
    obtain ⟨q, qs, hq⟩ := List.exists_cons_of_ne_nil
      (List.concat_ne_nil ((pieces '\n' s).getLast (pieces_ne_nil '\n' s)) others)
    rw [hq] at hwhole
    have hrest := isSuffix_join ['\n'] front (List.cons_ne_nil (a ++ b) (q :: qs))
    rw [hwhole, join_pieces, join_cons_cons] at hrest
    have hline : a ++ b ++ ['\n'] <:+: s := (List.prefix_append _ _).isInfix.trans hrest.isInfix
    exact List.IsInfix.trans ⟨a, [], by simp⟩ hline

end
end Text
end SvgIcon
