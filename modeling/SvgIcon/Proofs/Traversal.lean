import Mathlib.Data.List.Forall2
import SvgIcon.Failure

/-!
Traversals: lists of which every item is tried in turn, until one of them fails.
-/

namespace SvgIcon

variable {α β : Type} {f : α → Except Fault β} {items : List α}

theorem mapM_of_ok {R : α → β → Prop} (h : ∀ a ∈ items, ∃ b, f a = .ok b ∧ R a b) :
    ∃ found, items.mapM f = .ok found ∧ List.Forall₂ R items found := by
  induction items with
  | nil => exact ⟨[], rfl, .nil⟩
  | cons a items ih =>
    obtain ⟨first, hfirst, ha⟩ := h a List.mem_cons_self
    obtain ⟨others, hothers, hall⟩ := ih fun b hb => h b (List.mem_cons_of_mem a hb)
    refine ⟨first :: others, ?_, .cons ha hall⟩
    rw [List.mapM_cons, hfirst, hothers]
    rfl

theorem mapM_eq_map {g : α → β} (h : ∀ a ∈ items, f a = .ok (g a)) :
    items.mapM f = .ok (items.map g) := by
  induction items with
  | nil => rfl
  | cons a items ih =>
    rw [List.mapM_cons, h a List.mem_cons_self, ih fun b hb => h b (List.mem_cons_of_mem a hb)]
    rfl

theorem mapM_of_error {P : Fault → Prop} (h : ∀ a ∈ items, ∀ e, f a = .error e → P e)
    (hsome : ∃ a ∈ items, ∃ e, f a = .error e) : ∃ e, items.mapM f = .error e ∧ P e := by
  induction items with
  | nil =>
    obtain ⟨a, ha, _⟩ := hsome
    exact absurd ha List.not_mem_nil
  | cons a items ih =>
    rw [List.mapM_cons]
    cases hfirst : f a with
    | error e => exact ⟨e, rfl, h a List.mem_cons_self e hfirst⟩
    | ok first =>
      have hothers : ∃ b ∈ items, ∃ e, f b = .error e := by
        obtain ⟨b, hb, e, he⟩ := hsome
        rcases List.mem_cons.1 hb with rfl | hmem
        · rw [hfirst] at he
          exact absurd he nofun
        · exact ⟨b, hmem, e, he⟩
      obtain ⟨e, he, hP⟩ := ih (fun b hb => h b (List.mem_cons_of_mem a hb)) hothers
      refine ⟨e, ?_, hP⟩
      rw [he]
      rfl

end SvgIcon
