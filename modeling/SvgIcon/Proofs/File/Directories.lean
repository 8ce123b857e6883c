import SvgIcon.Proofs.File.Writing

/-!
Making directories.  A directory is only ever made where nothing is and where its path leads, so what
such a step keeps is kept however many are made.  Whatever comes of it, directories have come where
nothing was, and nothing else has changed.
-/

namespace SvgIcon
namespace Disk

variable {d d' d'' : Disk} {q : Place} {p : Path}

/-! ## Steps -/

/-- A relation between disks that is kept by each directory that is made. -/
structure Admits (R : Disk → Disk → Prop) : Prop where
  refl : ∀ d, R d d
  trans : ∀ {d d' d''}, R d d' → R d' d'' → R d d''
  made : ∀ {d : Disk} {p place}, d.locate p = .ok place → d.find? place = none →
    R d (d.put place .directory)

/-- Whatever comes of it, the disks before and behind are related. -/
def Moves {α : Type} (R : Disk → Disk → Prop) (act : Action α) : Prop := ∀ d, R d (act.run d).2

section
variable {α β : Type} {R : Disk → Disk → Prop} {act : Action α} {next : α → Action β}

theorem Moves.bind (hR : Admits R) (h : Moves R act) (hnext : ∀ a, Moves R (next a)) :
    Moves R (act >>= next) := by
  intro d
  rcases hact : act.run d with ⟨f | a, d'⟩
  · rw [run_bind_of_error hact]
    have hd := h d
    rwa [hact] at hd
  · rw [run_bind_of_ok hact]
    have hd := h d
    rw [hact] at hd
    exact hR.trans hd (hnext a d')

theorem moves_throw (hR : Admits R) (f : Fault) : Moves R (throw f : Action α) := fun d => hR.refl d

theorem moves_ensureDirectory (hR : Admits R) {whenMissing : Action Unit} (p : Path)
    (h : Moves R whenMissing) : Moves R (ensureDirectory p whenMissing) := by
  intro d
  rw [ensureDirectory, run_bind_of_ok (run_getThe d)]
  cases hmake : d.makeDirectory p with
  | ok made =>
    obtain ⟨place, hplace, hmade⟩ := exists_of_bind_eq_ok hmake
    cases hfind : d.find? place with
    | some node => simp [hfind] at hmade
    | none =>
      simp only [hfind] at hmade
      obtain rfl := Except.ok.inj hmade
      exact hR.made hplace hfind
  | error r =>
    cases r with
    | missing => exact h d
    | nullInName => exact moves_throw hR _ d
    | _ =>
      cases his : d.isDirectory? p with
      | error f => exact hR.refl d
      | ok is => cases is <;> exact hR.refl d

theorem moves_makeDirectories (hR : Admits R) (p : Path) : Moves R (makeDirectories p) := by
  have hlast : ∀ p, Moves R (ensureLast p) := fun p => moves_ensureDirectory hR p (moves_throw hR _)
  rw [makeDirectories]
  induction p.names.reverse with
  | nil => exact hlast _
  | cons name above ih => exact moves_ensureDirectory hR _ (ih.bind hR fun _ => hlast _)

end

/-! ## What has come -/

/-- Directories have come where nothing was. -/
structure Spread (d d' : Disk) : Prop where
  cwd : d'.cwd = d.cwd
  find? : ∀ q, d'.find? q = d.find? q ∨ d.find? q = none ∧ d'.find? q = some .directory

theorem Spread.file (h : Spread d d') {bytes : ByteArray} (hfile : d.find? q = some (.file bytes)) :
    d'.find? q = some (.file bytes) := by
  rcases h.find? q with heq | ⟨hnone, _⟩
  · rw [heq, hfile]
  · exact absurd (hnone.symm.trans hfile) (by simp)

theorem ne_nil_of_find?_none (h : d.find? q = none) : q ≠ [] :=
  ne_nil_of_ne_directory (d := d) (by simp [h])

theorem admits_spread : Admits Spread where
  refl d := ⟨rfl, fun _ => .inl rfl⟩
  trans h h' := by
    refine ⟨h'.cwd.trans h.cwd, fun q => ?_⟩
    rcases h.find? q with heq | ⟨hnone, hmade⟩ <;> rcases h'.find? q with heq' | ⟨hnone', hmade'⟩
    · exact .inl (heq'.trans heq)
    · exact .inr ⟨heq ▸ hnone', hmade'⟩
    · exact .inr ⟨hnone, heq'.trans hmade⟩
    · exact .inr ⟨hnone, hmade'⟩
  made := by
    intro d p place _ hnone
    refine ⟨rfl, fun q => ?_⟩
    by_cases hq : q = place
    · subst hq
      exact .inr ⟨hnone, find?_put_self _ (ne_nil_of_find?_none hnone)⟩
    · exact .inl (find?_put_of_ne _ hq)

end Disk
end SvgIcon
