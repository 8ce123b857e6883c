import SvgIcon.Text.Scan
import SvgIcon.Text.Blank
import SvgIcon.Text.Word

/-!
Passes over a text.  A pass is described piece by piece: `Turns pass a b` says that wherever `a`
stands at the front of what is left, the pass writes `b` for it and goes on behind it.  Such facts
compose along a text, so what a pass makes of printed markup is read off what it makes of the
parts that the printer writes.
-/

namespace SvgIcon
namespace Text

variable {β : Type}

/-- The pass answers `b` for `a`, whatever follows. -/
def Turns (pass : List Char → List β) (a : List Char) (b : List β) : Prop :=
  ∀ rest, pass (a ++ rest) = b ++ pass rest

namespace Turns

section
variable {pass : List Char → List β} {a a' : List Char} {b b' : List β}

theorem nil : Turns pass [] [] := fun _ => rfl

theorem append (h : Turns pass a b) (h' : Turns pass a' b') : Turns pass (a ++ a') (b ++ b') := by
  intro rest
  rw [List.append_assoc, h, h', List.append_assoc]

theorem flatMap {α : Type} {f : α → List Char} {g : α → List β} {xs : List α}
    (h : ∀ x ∈ xs, Turns pass (f x) (g x)) : Turns pass (xs.flatMap f) (xs.flatMap g) := by
  induction xs with
  | nil => exact nil
  | cons x xs ih =>
    have hx : Turns pass (f x) (g x) := h x List.mem_cons_self
    exact append hx (ih fun y hy => h y (List.mem_cons_of_mem x hy))

theorem skip (h : ∀ c ∈ a, Turns pass [c] []) : Turns pass a [] := by
  induction a with
  | nil => exact nil
  | cons c a ih =>
    exact append (h c List.mem_cons_self) (ih fun d hd => h d (List.mem_cons_of_mem c hd))

theorem whole (h : Turns pass a b) (hnil : pass [] = []) : pass a = b := by
  have hend := h []
  rwa [List.append_nil, hnil, List.append_nil] at hend

end

section
variable {pass : List Char → List Char} {a b : List Char}

theorem cons {c : Char} (hc : Turns pass [c] [c]) (h : Turns pass a b) :
    Turns pass (c :: a) (c :: b) := append hc h

theorem copy (h : ∀ c ∈ a, Turns pass [c] [c]) : Turns pass a a := by
  induction a with
  | nil => exact nil
  | cons c a ih =>
    exact cons (h c List.mem_cons_self) (ih fun d hd => h d (List.mem_cons_of_mem c hd))

end

end Turns

variable {find : Recogniser}

theorem turns_rewrite_char {c : Char} (h : ∀ s, find (c :: s) = none) :
    Turns (rewrite find) [c] [c] := fun s => rewrite_of_none (h s)

theorem turns_rewrite_match {a b : List Char} (ha : a ≠ [])
    (h : ∀ rest, find (a ++ rest) = some (a.length, b)) : Turns (rewrite find) a b := by
  intro rest
  obtain ⟨c, s, rfl⟩ := List.exists_cons_of_ne_nil ha
  have hfind : find (c :: s ++ rest) = some (s.length + 1, b) := h rest
  rw [rewrite_of_some hfind (by simp)]
  simp

/-- What can only be found at a `c` is not found in a text without one. -/
theorem turns_rewrite_of_notMem {c : Char} {s : List Char} (hs : c ∉ s)
    (hother : ∀ d, d ≠ c → ∀ u, find (d :: u) = none) : Turns (rewrite find) s s :=
  Turns.copy fun d hd => turns_rewrite_char (hother d fun heq => hs (heq ▸ hd))

theorem turns_rewrite_cons {c : Char} {s : List Char} (hs : c ∉ s)
    (hother : ∀ d, d ≠ c → ∀ u, find (d :: u) = none)
    (hhere : ∀ rest, find (c :: (s ++ rest)) = none) :
    Turns (rewrite find) (c :: s) (c :: s) := by
  intro rest
  rw [List.cons_append, rewrite_of_none (hhere rest), turns_rewrite_of_notMem hs hother]
  rfl

/-- A text without a character that every match holds is left as it is. -/
theorem rewrite_of_notMem {c : Char} {s : List Char} (hfind : ∀ u, c ∉ u → find u = none)
    (h : c ∉ s) : rewrite find s = s := by
  induction s with
  | nil => rfl
  | cons d s ih =>
    rw [rewrite_of_none (hfind _ h), ih fun hs => h (List.mem_cons_of_mem d hs)]

theorem mem_rewrite {c : Char} {s : List Char} (h : c ∈ rewrite find s) :
    c ∈ s ∨ ∃ u n replacement, find u = some (n, replacement) ∧ c ∈ replacement := by
  -- the count of covered characters changes along the text, so the induction is for every count
  suffices hfrom : ∀ (s : List Char) (n : Nat), c ∈ rewriteFrom find n s →
      c ∈ s ∨ ∃ u n replacement, find u = some (n, replacement) ∧ c ∈ replacement from hfrom s 0 h
  intro s
  induction s with
  | nil => intro n hc; cases n <;> simp [rewriteFrom] at hc
  | cons d s ih =>
    intro n hc
    cases n with
    | succ n =>
      rcases ih n hc with hs | hr
      · exact Or.inl (List.mem_cons_of_mem d hs)
      · exact Or.inr hr
    | zero =>
      simp only [rewriteFrom] at hc
      split at hc
      · rename_i n replacement hfind
        rcases List.mem_append.1 hc with hr | hs
        · exact Or.inr ⟨d :: s, n + 1, replacement, hfind, hr⟩
        · exact (ih n hs).imp_left (List.mem_cons_of_mem d)
      · rcases List.mem_cons.1 hc with rfl | hs
        · exact Or.inl List.mem_cons_self
        · exact (ih 0 hs).imp_left (List.mem_cons_of_mem d)

/-! ## Up to a character -/

theorem takeWhile_ne {c : Char} {v : List Char} (h : c ∉ v) (rest : List Char) :
    (v ++ c :: rest).takeWhile (· ≠ c) = v := by
  have hv : ∀ d ∈ v, decide (d ≠ c) = true := fun d hd => by
    rw [decide_eq_true_eq]
    rintro rfl
    exact h hd
  rw [List.takeWhile_append_of_pos hv, List.takeWhile_cons_of_neg (by simp), List.append_nil]

theorem dropWhile_ne {c : Char} {v : List Char} (h : c ∉ v) (rest : List Char) :
    (v ++ c :: rest).dropWhile (· ≠ c) = c :: rest := by
  have hv : ∀ d ∈ v, decide (d ≠ c) = true := fun d hd => by
    rw [decide_eq_true_eq]
    rintro rfl
    exact h hd
  rw [List.dropWhile_append_of_pos hv, List.dropWhile_cons_of_neg (by simp)]

/-! ## Where a fixed text cannot start -/

/-- What stops a run of characters is told by the first of them. -/
theorem takeWhile_append_of_head {p : Char → Bool} {w s : List Char} (hw : ∀ c ∈ w, p c = true)
    (hs : ∀ c ∈ s.head?, p c = false) : (w ++ s).takeWhile p = w := by
  rw [List.takeWhile_append_of_pos hw]
  cases s with
  | nil => simp
  | cons c s => rw [List.takeWhile_cons_of_neg (by simp [hs c rfl]), List.append_nil]

theorem dropWhile_append_of_head {p : Char → Bool} {w s : List Char} (hw : ∀ c ∈ w, p c = true)
    (hs : ∀ c ∈ s.head?, p c = false) : (w ++ s).dropWhile p = s := by
  rw [List.dropWhile_append_of_pos hw]
  cases s with
  | nil => rfl
  | cons c s => rw [List.dropWhile_cons_of_neg (by simp [hs c rfl])]

theorem after?_append (start rest : List Char) : after? start (start ++ rest) = some rest :=
  after?_eq_some_iff.2 rfl

theorem after?_cons_ne {p c : Char} {start s : List Char} (h : p ≠ c) :
    after? (p :: start) (c :: s) = none := by
  simp [after?, h]

/-- A text does not start in `u` if it is not a front part of `u` and does not hold the character
behind `u`. -/
theorem after?_append_eq_none {start u rest : List Char} {c : Char} (hc : c ∉ start)
    (hu : ¬ start <+: u) : after? start (u ++ c :: rest) = none := by
  rw [Option.eq_none_iff_forall_ne_some]
  intro r hr
  rcases List.append_eq_append_iff.1 (after?_eq_some_iff.1 hr) with ⟨v, hv, htail⟩ | ⟨v, hv, _⟩
  · cases v with
    | nil => exact hu ⟨[], by rw [hv, List.append_nil, List.append_nil]⟩
    | cons d v =>
      obtain ⟨rfl, _⟩ := List.cons.inj htail
      exact hc (by rw [hv]; simp)
  · exact hu ⟨v, hv.symm⟩

/-- No copy of `start` begins in `a`, whatever follows. -/
def Free (start : List Char) : List Char → Prop
  | [] => True
  | c :: a => (∀ rest, after? start (c :: a ++ rest) = none) ∧ Free start a

namespace Free

variable {start a b : List Char}

theorem append (ha : Free start a) (hb : Free start b) : Free start (a ++ b) := by
  induction a with
  | nil => exact hb
  | cons c a ih =>
    refine ⟨fun rest => ?_, ih ha.2⟩
    have hhere := ha.1 (b ++ rest)
    rwa [← List.append_assoc] at hhere

theorem of_notMem_head {p : Char} (h : p ∉ a) : Free (p :: start) a := by
  induction a with
  | nil => exact True.intro
  | cons c a ih =>
    have hc : p ≠ c := fun e => h (by simp [e])
    exact ⟨fun rest => after?_cons_ne hc, ih fun hmem => h (List.mem_cons_of_mem c hmem)⟩

/-- A text that lacks a character of `start`, with a character behind it that `start` lacks. -/
theorem concat {c x : Char} (hc : c ∉ start) (hx : x ∈ start) (ha : x ∉ a) :
    Free start (a ++ [c]) := by
  induction a with
  | nil =>
    have hprefix : ¬ start <+: [] := fun h => by simp [List.prefix_nil.1 h] at hx
    exact ⟨fun rest => after?_append_eq_none hc hprefix, True.intro⟩
  | cons d a ih =>
    have hprefix : ¬ start <+: d :: a := fun h => ha (h.subset hx)
    refine ⟨fun rest => ?_, ih fun hmem => ha (List.mem_cons_of_mem d hmem)⟩
    have hhere : after? start (d :: a ++ c :: rest) = none := after?_append_eq_none hc hprefix
    simpa using hhere

/-- A text that goes on as `start` does, but does not end as `start` begins. -/
theorem concat_mark (front behind : List Char) {mark : Char} (hfront : mark ∉ front)
    (ha : mark ∉ a) (hend : ¬ front <:+ a) : Free (front ++ mark :: behind) (a ++ [mark]) := by
  -- a copy that starts in `a` has its first mark where the text has it, so `a` ends as `front`
  have hhere : ∀ u rest, u <:+ a → after? (front ++ mark :: behind) (u ++ mark :: rest) = none := by
    intro u rest hu
    rw [Option.eq_none_iff_forall_ne_some]
    intro r hr
    have htext := after?_eq_some_iff.1 hr
    rw [List.append_assoc, List.cons_append] at htext
    have hsame := congrArg (List.takeWhile (fun d => decide (d ≠ mark))) htext
    rw [takeWhile_ne fun h => ha (hu.subset h), takeWhile_ne hfront] at hsame
    exact hend (hsame ▸ hu)
  -- every place in the text is the start of such a suffix
  clear hend
  induction a with
  | nil => exact ⟨fun rest => hhere [] rest List.suffix_rfl, True.intro⟩
  | cons d a ih =>
    refine ⟨fun rest => ?_, ih (fun h => ha (List.mem_cons_of_mem d h)) fun u rest hu =>
      hhere u rest (hu.trans (List.suffix_cons d a))⟩
    have hd := hhere (d :: a) rest List.suffix_rfl
    simpa using hd

/-- If even a front part of `start` begins nowhere, `start` does not. -/
theorem of_front (front behind : List Char) (h : Free front a) : Free (front ++ behind) a := by
  induction a with
  | nil => exact True.intro
  | cons c a ih =>
    refine ⟨fun rest => ?_, ih h.2⟩
    rw [Option.eq_none_iff_forall_ne_some]
    intro r hr
    have hhere := h.1 rest
    rw [Option.eq_none_iff_forall_ne_some] at hhere
    refine hhere (behind ++ r) (after?_eq_some_iff.2 ?_)
    rw [after?_eq_some_iff.1 hr, List.append_assoc]

/-- A rewriting that looks for `start` copies the text up to where `start` may begin. -/
theorem rewrite_append (hfind : ∀ s, after? start s = none → find s = none)
    (h : Free start (a ++ b)) (rest : List Char) :
    rewrite find (a ++ (b ++ rest)) = a ++ rewrite find (b ++ rest) := by
  induction a with
  | nil => rfl
  | cons c a ih =>
    have hhere : after? start (c :: (a ++ b) ++ rest) = none := h.1 rest
    rw [List.cons_append, List.append_assoc] at hhere
    rw [List.cons_append, rewrite_of_none (hfind _ hhere), ih h.2, List.cons_append]

theorem turns (hfind : ∀ s, after? start s = none → find s = none) (h : Free start a) :
    Turns (rewrite find) a a := fun rest =>
  rewrite_append (b := []) hfind (by rwa [List.append_nil]) rest

theorem cut?_append (h : Free start a) (rest : List Char) :
    cut? start (a ++ (start ++ rest)) = some (a, rest) := by
  induction a with
  | nil =>
    rw [List.nil_append]
    cases hne : start ++ rest with
    | nil =>
      obtain ⟨rfl, rfl⟩ := List.append_eq_nil_iff.1 hne
      rfl
    | cons c s =>
      have hafter : after? start (c :: s) = some rest := by rw [← hne]; exact after?_append _ _
      simp [cut?, hafter]
  | cons c a ih =>
    have hhere : after? start (c :: (a ++ (start ++ rest))) = none := h.1 _
    rw [List.cons_append, cut?, hhere]
    simp [ih h.2]

end Free

end Text
end SvgIcon
