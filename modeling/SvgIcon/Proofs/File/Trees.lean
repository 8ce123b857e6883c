import SvgIcon.Proofs.File.Places

/-!
Disks that are trees.  What stands somewhere then stands in a directory, and that stays so however
directories are made and files are put.  On such a disk a path reaches what is at its end, as long as
none of its steps leads back from where nothing is.
-/

namespace SvgIcon

theorem Path.place_child {p : Path} {name : String} (h : name ≠ "..") (cwd : Place) :
    (p.child name).place cwd = p.place cwd ++ [name] := by
  have hroot : (p.child name).isAbsolute = p.isAbsolute := rfl
  have hnames : (p.child name).names = p.names ++ [name] := rfl
  rw [place, hroot, hnames, List.foldl_append, place, List.foldl_cons, List.foldl_nil, advance, if_neg h]

namespace Disk

variable {d d' : Disk} {place q r : Place} {p : Path} {name : String}

/-- Whatever there is stands in a directory, and so does who works on the disk. -/
structure Tree (d : Disk) : Prop where
  cwd : d.find? d.cwd = some .directory
  parent : ∀ {q name node}, d.find? (q ++ [name]) = some node → d.find? q = some .directory

theorem tree_of_nodes (hcwd : d.find? d.cwd = some .directory)
    (h : ∀ entry ∈ d.nodes, d.find? entry.1.dropLast = some .directory) : d.Tree := by
  refine ⟨hcwd, fun {q name node} hthere => ?_⟩
  rw [find?, if_neg (by simp)] at hthere
  obtain ⟨front, rest, hnodes, _⟩ := List.lookup_eq_some_iff.1 hthere
  simpa using h (q ++ [name], node) (by simp [hnodes])

namespace Tree

theorem put {node : Node} (h : d.Tree) (hq : d.find? q = some .directory)
    (hnot : d.find? (q ++ [name]) ≠ some .directory) : (d.put (q ++ [name]) node).Tree := by
  have hkept : ∀ {r}, d.find? r = some .directory →
      (d.put (q ++ [name]) node).find? r = some .directory := by
    intro r hr
    rw [find?_put_of_ne _ (by rintro rfl; exact hnot hr)]
    exact hr
  refine ⟨hkept h.cwd, ?_⟩
  intro r name' there hthere
  by_cases hr : r ++ [name'] = q ++ [name]
  · obtain ⟨rfl, _⟩ := List.append_inj' hr rfl
    exact hkept hq
  · rw [find?_put_of_ne _ hr] at hthere
    exact hkept (h.parent hthere)

/-- A path leads to a directory or to a place in one. -/
theorem exists_of_locate (h : d.Tree) (hplace : d.locate p = .ok place)
    (hnot : d.find? place ≠ some .directory) :
    ∃ q name, place = q ++ [name] ∧ d.find? q = some .directory := by
  rw [locate] at hplace
  split at hplace
  · simp at hplace
  split at hplace
  · simp at hplace
  rcases List.eq_nil_or_concat p.names with hnames | ⟨above, last, hnames⟩
  · rw [hnames] at hplace
    obtain rfl := Except.ok.inj hplace
    refine absurd ?_ hnot
    split
    · rfl
    · exact h.cwd
  · rw [hnames, List.concat_eq_append, List.foldlM_append] at hplace
    obtain ⟨q, _, hlast⟩ := exists_of_bind_eq_ok hplace
    obtain ⟨q', hstep, hq'⟩ := exists_of_bind_eq_ok hlast
    obtain rfl := Except.ok.inj hq'
    have hdirectory := find?_of_step hstep
    obtain rfl := step_spelled hstep
    by_cases hback : last = ".."
    · -- a step back leads to a directory
      refine absurd ?_ hnot
      rw [Path.advance, if_pos hback]
      rcases List.eq_nil_or_concat q with rfl | ⟨above, name, rfl⟩
      · exact hdirectory
      · rw [List.concat_eq_append] at hdirectory ⊢
        rw [List.dropLast_concat]
        exact h.parent hdirectory
    · exact ⟨q, last, by rw [Path.advance, if_neg hback], hdirectory⟩

end Tree

theorem admits_tree : Admits fun d d' => d.Tree → d'.Tree where
  refl _ h := h
  trans h h' := h' ∘ h
  made := by
    intro d p place hplace hnone h
    have hnot : d.find? place ≠ some .directory := by simp [hnone]
    obtain ⟨q, name, rfl, hq⟩ := h.exists_of_locate hplace hnot
    exact h.put hq hnot

/-! ## Steps back -/

/-- None of the steps leads back from where nothing is to where something is. -/
def StepsBack (d : Disk) : Place → List String → Prop
  | _, [] => True
  | q, name :: names =>
    (name = ".." → d.find? q = none → d.find? q.dropLast = none) ∧
      StepsBack d (Path.advance q name) names

instance decidableStepsBack (d : Disk) : ∀ q names, Decidable (d.StepsBack q names)
  | _, [] => inferInstanceAs (Decidable True)
  | q, name :: names =>
    have := decidableStepsBack d (Path.advance q name) names
    inferInstanceAs (Decidable (_ ∧ _))

theorem StepsBack.concat {names : List String} (h : d.StepsBack q names) (hname : name ≠ "..") :
    d.StepsBack q (names ++ [name]) := by
  induction names generalizing q with
  | nil => exact ⟨fun hback => absurd hback hname, trivial⟩
  | cons first names ih => exact ⟨h.1, ih h.2⟩

/-- Along the path, none of the steps leads back from where nothing is to where something is. -/
def Walkable (d : Disk) (p : Path) : Prop :=
  d.StepsBack (if p.isAbsolute then [] else d.cwd) p.names

instance : Decidable (d.Walkable p) := decidableStepsBack _ _ _

theorem Walkable.child (h : d.Walkable p) (hname : name ≠ "..") : d.Walkable (p.child name) :=
  StepsBack.concat h hname

/-- Names that can be followed once directories have come lead to what was there before, if there was
something, and could be followed then too. -/
theorem Spread.follow_back (htree : d.Tree) (hspread : Spread d d') {names : List String}
    (hsteps : d.StepsBack q names) (h : names.foldlM d'.step q = .ok r) (hthere : d.find? r ≠ none) :
    d.find? q ≠ none ∧ names.foldlM d.step q = .ok r := by
  induction names generalizing q with
  | nil =>
    obtain rfl := Except.ok.inj h
    exact ⟨hthere, rfl⟩
  | cons name names ih =>
    rw [List.foldlM_cons] at h ⊢
    obtain ⟨q', hstep, hrest⟩ := exists_of_bind_eq_ok h
    obtain rfl := step_spelled hstep
    obtain ⟨hnext, hfollow⟩ := ih hsteps.2 hrest
    have hq : d.find? q ≠ none := by
      intro hnone
      by_cases hback : name = ".."
      · rw [Path.advance, if_pos hback] at hnext
        exact hnext (hsteps.1 hback hnone)
      · rw [Path.advance, if_neg hback] at hnext
        obtain ⟨node, hnode⟩ := Option.ne_none_iff_exists'.1 hnext
        simp [htree.parent hnode] at hnone
    have hsame : d'.find? q = d.find? q := (hspread.find? q).resolve_right fun hmade => hq hmade.1
    have hstep : d.step q name = .ok (Path.advance q name) := by
      rw [← hstep, step, step, hsame]
    rw [hstep]
    exact ⟨hq, hfollow⟩

/-- A path along which directories are made leads to what was at its end before. -/
theorem Spread.locate_back (htree : d.Tree) (hspread : Spread d d') (hwalk : d.Walkable p)
    (h : d'.locate p = .ok r) (hthere : d.find? r ≠ none) : d.locate p = .ok r := by
  rw [locate] at h ⊢
  split at h
  · simp at h
  · split at h
    · simp at h
    · rw [hspread.cwd] at h
      simp only [*, if_false]
      exact (hspread.follow_back htree hwalk h hthere).2

/-! ## Writing -/

/-- A text that has been written stands where its path leads once directories have come. -/
theorem exists_of_writeText_run {text : String}
    (h : (writeText p text .utf8).run d = (.ok (), d')) :
    ∃ d₁, Spread d d₁ ∧ (d.Tree → d₁.Tree) ∧ d₁.locate p = .ok (p.place d.cwd) ∧
      d₁.find? (p.place d.cwd) ≠ some .directory ∧
      d' = d₁.put (p.place d.cwd) (.file text.toUTF8) := by
  have hspread : Spread d ((makeDirectories p.parent).run d).2 :=
    moves_makeDirectories admits_spread _ d
  have htree : d.Tree → ((makeDirectories p.parent).run d).2.Tree :=
    moves_makeDirectories admits_tree _ d
  have hexit := writeText_exits p text .utf8 d
  rw [h] at hexit
  cases hexit with
  | @written bytes place d₁ hbytes hmake hplace hthere =>
    rw [hmake] at hspread htree
    obtain rfl : place = p.place d.cwd := by rw [locate_spelled hplace, hspread.cwd]
    obtain rfl := Option.some.inj hbytes
    exact ⟨d₁, hspread, htree, hplace, hthere, rfl⟩

end Disk
end SvgIcon
