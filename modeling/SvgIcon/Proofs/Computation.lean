/-!
Computations in sequence, taken apart.  What a sequence does is what its first part does and then
what is left; a sequence that succeeds is made of parts that do, and in one that fails a part does.
-/

namespace SvgIcon

variable {σ ε α β : Type}

theorem bind_of_eq {act : StateM σ α} {next : α → StateM σ β} {s s' : σ} {a : α}
    (h : act s = (a, s')) : (act >>= next) s = next a s' := by
  show next (act s).1 (act s).2 = next a s'
  rw [h]

theorem exists_of_bind_eq_ok {x : Except ε α} {next : α → Except ε β} {b : β}
    (h : x >>= next = .ok b) : ∃ a, x = .ok a ∧ next a = .ok b := by
  cases x with
  | error e => exact absurd h (by simp [bind, Except.bind])
  | ok a => exact ⟨a, rfl, h⟩

section
variable {act : ExceptT ε (StateM σ) α} {next : α → ExceptT ε (StateM σ) β} {s s' : σ}

theorem run_bind_of_ok {a : α} (h : act.run s = (.ok a, s')) :
    (act >>= next).run s = (next a).run s' := by
  show ExceptT.bindCont next (act.run s).1 (act.run s).2 = _
  rw [h]
  rfl

theorem run_bind_of_error {e : ε} (h : act.run s = (.error e, s')) :
    (act >>= next).run s = (.error e, s') := by
  show ExceptT.bindCont next (act.run s).1 (act.run s).2 = _
  rw [h]
  rfl

theorem exists_of_run_bind {b : β} (h : (act >>= next).run s = (.ok b, s')) :
    ∃ a s₁, act.run s = (.ok a, s₁) ∧ (next a).run s₁ = (.ok b, s') := by
  rcases hact : act.run s with ⟨e | a, s₁⟩
  · rw [run_bind_of_error hact] at h
    exact absurd (Prod.mk.inj h).1 (by simp)
  · rw [run_bind_of_ok hact] at h
    exact ⟨a, s₁, rfl, h⟩

theorem exists_of_run_bind_error {e : ε} (h : (act >>= next).run s = (.error e, s')) :
    act.run s = (.error e, s') ∨
      ∃ a s₁, act.run s = (.ok a, s₁) ∧ (next a).run s₁ = (.error e, s') := by
  rcases hact : act.run s with ⟨e' | a, s₁⟩
  · rw [run_bind_of_error hact] at h
    obtain ⟨he, rfl⟩ := Prod.mk.inj h
    exact .inl (by rw [Except.error.inj he])
  · rw [run_bind_of_ok hact] at h
    exact .inr ⟨a, s₁, rfl, h⟩

end
end SvgIcon
