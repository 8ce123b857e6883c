import SvgIcon.Proofs.File.Trees

/-!
Directories that stand.  Where directories have been made the path reaches the last of them, and goes on
reaching it while files are put.  Writing a file there takes no more directories, so that one place is
written and everything else stays.
-/

namespace SvgIcon
namespace Disk

variable {d d' d'' : Disk} {p directory : Path} {q place : Place} {name text : String} {node : Node}
  {touched touched' : List Place}

/-! ## Reaching a directory -/

/-- The path leads to a directory. -/
structure Reaches (d : Disk) (p : Path) (q : Place) : Prop where
  locate : d.locate p = .ok q
  directory : d.find? q = some .directory

theorem Reaches.put (h : d.Reaches p q) (hnot : d.find? place ≠ some .directory) :
    (d.put place node).Reaches p q where
  locate := locate_put hnot h.locate
  directory := (find?_put_of_ne _ (by rintro rfl; exact hnot h.directory)).trans h.directory

theorem exists_reaches_of_isDirectory (h : d.isDirectory? p = .ok true) : ∃ q, d.Reaches p q := by
  rw [isDirectory?, look] at h
  cases hnode : d.node p with
  | error r =>
    rw [hnode] at h
    cases r <;> simp [Except.map] at h
  | ok there =>
    rw [hnode] at h
    cases there with
    | file bytes => simp [Except.map] at h
    | directory =>
      obtain ⟨q, hplace, hfind⟩ := exists_of_bind_eq_ok hnode
      refine ⟨q, hplace, ?_⟩
      cases hthere : d.find? q with
      | none => simp [hthere] at hfind
      | some there => rw [hthere] at hfind; rw [Except.ok.inj hfind]

theorem reaches_of_ensureDirectory {whenMissing : Action Unit}
    (h : (ensureDirectory p whenMissing).run d = (.ok (), d')) :
    (∃ q, d'.Reaches p q) ∨ whenMissing.run d = (.ok (), d') := by
  rw [ensureDirectory, run_bind_of_ok (run_getThe d)] at h
  cases hmake : d.makeDirectory p with
  | ok made =>
    rw [hmake] at h
    obtain ⟨place, hplace, hmade⟩ := exists_of_bind_eq_ok hmake
    cases hfind : d.find? place with
    | some node => simp [hfind] at hmade
    | none =>
      simp only [hfind] at hmade
      obtain rfl := Except.ok.inj hmade
      obtain ⟨_, rfl⟩ := Prod.mk.inj h
      exact .inl ⟨place, locate_put (by simp [hfind]) hplace,
        find?_put_self _ (ne_nil_of_find?_none hfind)⟩
  | error r =>
    rw [hmake] at h
    cases r with
    | missing => exact .inr h
    | nullInName => exact absurd (Prod.mk.inj h).1 (by simp)
    | _ =>
      cases his : d.isDirectory? p with
      | error f =>
        simp only [his] at h
        exact absurd (Prod.mk.inj h).1 (by simp)
      | ok is =>
        cases is
        · simp only [his] at h
          exact absurd (Prod.mk.inj h).1 (by simp)
        · simp only [his] at h
          obtain ⟨_, rfl⟩ := Prod.mk.inj h
          exact .inl (exists_reaches_of_isDirectory his)

theorem exists_reaches_of_ensureLast (h : (ensureLast p).run d = (.ok (), d')) :
    ∃ q, d'.Reaches p q := by
  refine (reaches_of_ensureDirectory h).resolve_right fun hthrow => ?_
  exact absurd (Prod.mk.inj hthrow).1 (by simp)

/-- Directories that have been made are reached by the path they were made for. -/
theorem reaches_of_makeDirectories (h : (makeDirectories p).run d = (.ok (), d')) :
    d'.Reaches p (p.place d.cwd) := by
  obtain ⟨q, hreach⟩ : ∃ q, d'.Reaches p q := by
    obtain ⟨whenMissing, hall, hmissing⟩ := exists_makeDirectories p
    rw [hall] at h
    rcases reaches_of_ensureDirectory h with hreach | hrun
    · exact hreach
    rcases hmissing with rfl | ⟨above, rfl⟩
    · exact absurd (Prod.mk.inj hrun).1 (by simp)
    · obtain ⟨_, d₁, _, hrest⟩ := exists_of_run_bind hrun
      exact exists_reaches_of_ensureLast hrest
  have hspread : Spread d ((makeDirectories p).run d).2 := moves_makeDirectories admits_spread p d
  rw [h] at hspread
  rw [← hspread.cwd, ← locate_spelled hreach.locate]
  exact hreach

/-- A file that is written in a directory that is reached is put there, and that is all. -/
theorem exists_of_writeText_child (hname : name ≠ "..") (hreach : d.Reaches directory q)
    (h : (writeText (directory.child name) text .utf8).run d = (.ok (), d')) :
    d.locate (directory.child name) = .ok (q ++ [name]) ∧
      d.find? (q ++ [name]) ≠ some .directory ∧ d' = d.put (q ++ [name]) (.file text.toUTF8) := by
  have hparent : (directory.child name).parent = directory := by simp [Path.child, Path.parent]
  have hmade := makeDirectories_there hreach.locate hreach.directory
  have hexit := writeText_exits (directory.child name) text .utf8 d
  rw [h] at hexit
  cases hexit with
  | @written bytes place d₁ hbytes hmake hplace hthere =>
    rw [hparent, hmade] at hmake
    obtain ⟨_, rfl⟩ := Prod.mk.inj hmake
    obtain rfl : place = q ++ [name] := by
      rw [locate_spelled hplace, Path.place_child hname, ← locate_spelled hreach.locate]
    obtain rfl := Option.some.inj hbytes
    exact ⟨hplace, hthere, rfl⟩

/-! ## What stays -/

/-- The same stands in every place. -/
structure Same (d d' : Disk) : Prop where
  cwd : d'.cwd = d.cwd
  drafts : d'.drafts = d.drafts
  find? : ∀ q, d'.find? q = d.find? q

theorem same_put (h : d.find? place = some node) (hroot : place ≠ []) : Same d (d.put place node) := by
  refine ⟨rfl, rfl, fun q => ?_⟩
  by_cases hq : q = place
  · rw [hq, find?_put_self _ hroot, h]
  · exact find?_put_of_ne _ hq

/-- But for some places there are the files that were there, and no others; directories may have come. -/
structure SameBut (touched : List Place) (d d' : Disk) : Prop where
  cwd : d'.cwd = d.cwd
  drafts : d'.drafts = d.drafts
  directories : ∀ {q}, d.find? q = some .directory → d'.find? q = some .directory
  files : ∀ {q}, q ∉ touched → ∀ bytes,
    d'.find? q = some (.file bytes) ↔ d.find? q = some (.file bytes)

namespace SameBut

theorem refl (touched : List Place) (d : Disk) : SameBut touched d d :=
  ⟨rfl, rfl, id, fun _ _ => .rfl⟩

theorem trans (h : SameBut touched d d') (h' : SameBut touched d' d'') : SameBut touched d d'' where
  cwd := h'.cwd.trans h.cwd
  drafts := h'.drafts.trans h.drafts
  directories hq := h'.directories (h.directories hq)
  files hq bytes := (h'.files hq bytes).trans (h.files hq bytes)

theorem mono (h : SameBut touched d d') (hsub : touched ⊆ touched') : SameBut touched' d d' :=
  ⟨h.cwd, h.drafts, h.directories, fun hq => h.files fun hmem => hq (hsub hmem)⟩

theorem put (hnot : d.find? place ≠ some .directory) : SameBut [place] d (d.put place node) := by
  refine ⟨rfl, rfl, fun {q} hq => ?_, fun {q} hq bytes => ?_⟩
  · rwa [find?_put_of_ne _ (by rintro rfl; exact hnot hq)]
  · rw [find?_put_of_ne _ (List.ne_of_not_mem_cons hq)]

end SameBut

theorem admits_sameBut : Admits (SameBut []) where
  refl := .refl []
  trans := .trans
  made := by
    intro d p place _ hnone
    refine ⟨rfl, rfl, fun {q} hq => ?_, fun {q} _ bytes => ?_⟩
    · rwa [find?_put_of_ne _ (by rintro rfl; simp [hnone] at hq)]
    · by_cases hq : q = place
      · rw [hq, find?_put_self _ (ne_nil_of_find?_none hnone), hnone]
        simp
      · rw [find?_put_of_ne _ hq]

/-- Making directories touches no file. -/
theorem sameBut_of_makeDirectories (h : (makeDirectories p).run d = (.ok (), d')) :
    SameBut [] d d' := by
  have hmoves : SameBut [] d ((makeDirectories p).run d).2 := moves_makeDirectories admits_sameBut p d
  rwa [h] at hmoves

end Disk
end SvgIcon
