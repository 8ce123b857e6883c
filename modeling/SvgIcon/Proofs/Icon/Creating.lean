import SvgIcon.Icon.Create
import SvgIcon.Proofs.File.Refusals
import SvgIcon.Proofs.File.Standing
import SvgIcon.Proofs.Icon.Amending

/-!
Creating icons.  A call checks the document and the name before it does anything.  Then it makes the
directory, writes the component and adds the export.  It touches the component and the index and no
other file, and made again it leaves everything as it is.
-/

namespace SvgIcon
namespace Icon

variable {c : Config} {root directory p : Path} {svg name iconType text : String} {d d' d₁ d₂ : Disk}
  {icon : Icon} {e : Raised} {exported : Bool} {q : Place}

/-! ## The parts of a call -/

/-- The directory of the icons of a type. -/
def directoryOf (c : Config) (root : Path) (iconType : String) : Path :=
  root.join (Path.ofString (c.iconPath iconType))

def componentFile (name : String) : String := name ++ ".tsx"

/-- The icon that a call answers. -/
def answered (c : Config) (root : Path) (name iconType : String) (exported : Bool) : Icon where
  name := name
  iconType := iconType
  path := (directoryOf c root iconType).child (componentFile name)
  exported := exported

/-- Why a document and its name are refused, if they are. -/
def refusal? (svg name : String) : Option String :=
  if Markup.looksLikeSvg svg.toList then (nameError? name).map NameError.message
  else some "Input is not an SVG"

theorem create_refused {m : String} (h : refusal? svg name = some m) :
    (create c root svg name iconType).run d = (.error (.failure (.invalidInput m)), d) := by
  rw [refusal?] at h
  split at h
  · rename_i hlooks
    obtain ⟨told, hname, rfl⟩ := Option.map_eq_some_iff.1 h
    simp only [create, hlooks, hname]
    rfl
  · rename_i hlooks
    obtain rfl := Option.some.inj h
    simp only [create, hlooks]
    rfl

/-- The last part of a call: the export, if icons are exported. -/
def exportIf (c : Config) (directory : Path) (name iconType : String) :
    ExceptT Raised (StateM Disk) Bool :=
  if c.autoExport then exportFrom directory name iconType else pure false

theorem create_accepted (h : refusal? svg name = none) :
    create c root svg name iconType = (do
      let directory ← makeDirectory (directoryOf c root iconType)
      save (directory.child (componentFile name)) (source c iconType svg)
      let exported ← exportIf c directory name iconType
      return { name, iconType, path := directory.child (componentFile name), exported }) := by
  rw [refusal?] at h
  split at h
  · rename_i hlooks
    have hname := Option.map_eq_none_iff.1 h
    cases hauto : c.autoExport <;> simp only [create, hlooks, hname, exportIf, hauto] <;> rfl
  · simp at h

/-- The exits of a call.  A document or a name that is refused is refused first; then the directory is
made, the component is saved and the export added, and each of these may fail. -/
inductive Exit (c : Config) (root : Path) (svg name iconType : String) (d : Disk) :
    Except Raised Icon → Disk → Prop
  | refused {m : String} (hrefused : refusal? svg name = some m) :
      Exit c root svg name iconType d (.error (.failure (.invalidInput m))) d
  | unmade {e : Raised} {d' : Disk} (haccepted : refusal? svg name = none)
      (hmake : (makeDirectory (directoryOf c root iconType)).run d = (.error e, d')) :
      Exit c root svg name iconType d (.error e) d'
  | unsaved {e : Raised} {d₁ d' : Disk} (haccepted : refusal? svg name = none)
      (hmake : (Disk.makeDirectories (directoryOf c root iconType)).run d = (.ok (), d₁))
      (hsave : (save ((directoryOf c root iconType).child (componentFile name))
        (source c iconType svg)).run d₁ = (.error e, d')) :
      Exit c root svg name iconType d (.error e) d'
  | unexported {e : Raised} {d₁ d₂ d' : Disk} (haccepted : refusal? svg name = none)
      (hmake : (Disk.makeDirectories (directoryOf c root iconType)).run d = (.ok (), d₁))
      (hsave : (Disk.writeText ((directoryOf c root iconType).child (componentFile name))
        (source c iconType svg) .utf8).run d₁ = (.ok (), d₂))
      (hexport : (exportIf c (directoryOf c root iconType) name iconType).run d₂ = (.error e, d')) :
      Exit c root svg name iconType d (.error e) d'
  | created {exported : Bool} {d₁ d₂ d' : Disk} (haccepted : refusal? svg name = none)
      (hmake : (Disk.makeDirectories (directoryOf c root iconType)).run d = (.ok (), d₁))
      (hsave : (Disk.writeText ((directoryOf c root iconType).child (componentFile name))
        (source c iconType svg) .utf8).run d₁ = (.ok (), d₂))
      (hexport : (exportIf c (directoryOf c root iconType) name iconType).run d₂ =
        (.ok exported, d')) :
      Exit c root svg name iconType d (.ok (answered c root name iconType exported)) d'

theorem run_makeDirectory (h : (Disk.makeDirectories p).run d = (.ok (), d')) :
    (makeDirectory p).run d = (.ok p, d') :=
  run_bind_of_ok (run_orFail_of_ok h)

theorem of_run_makeDirectory (h : (makeDirectory p).run d = (.ok directory, d')) :
    directory = p ∧ (Disk.makeDirectories p).run d = (.ok (), d') := by
  obtain ⟨_, d₁, hmake, hlast⟩ := exists_of_run_bind h
  obtain ⟨hp, rfl⟩ := Prod.mk.inj hlast
  exact ⟨(Except.ok.inj hp).symm, of_run_orFail hmake⟩

theorem create_exits (c : Config) (root : Path) (svg name iconType : String) (d : Disk) :
    Exit c root svg name iconType d ((create c root svg name iconType).run d).1
      ((create c root svg name iconType).run d).2 := by
  cases hrefusal : refusal? svg name with
  | some m =>
    rw [create_refused hrefusal]
    exact .refused hrefusal
  | none =>
    rw [create_accepted hrefusal]
    rcases hmake : (makeDirectory (directoryOf c root iconType)).run d with ⟨e | directory, d₁⟩
    · rw [run_bind_of_error hmake]
      exact .unmade hrefusal hmake
    rw [run_bind_of_ok hmake]
    obtain ⟨rfl, hmade⟩ := of_run_makeDirectory hmake
    rcases hsave : (save ((directoryOf c root iconType).child (componentFile name))
      (source c iconType svg)).run d₁ with ⟨e | _, d₂⟩
    · rw [run_bind_of_error hsave]
      exact .unsaved hrefusal hmade hsave
    rw [run_bind_of_ok hsave]
    have hsaved := of_run_orFail hsave
    rcases hexport : (exportIf c (directoryOf c root iconType) name iconType).run d₂
      with ⟨e | exported, d₃⟩
    · rw [run_bind_of_error hexport]
      exact .unexported hrefusal hmade hsaved hexport
    · rw [run_bind_of_ok hexport]
      exact .created hrefusal hmade hsaved hexport

theorem exit_of_run {answer : Except Raised Icon}
    (h : (create c root svg name iconType).run d = (answer, d')) :
    Exit c root svg name iconType d answer d' := by
  have hexit := create_exits c root svg name iconType d
  rwa [h] at hexit

/-- A call comes down to its last part when the others succeed. -/
theorem run_create (haccepted : refusal? svg name = none)
    (hmake : (Disk.makeDirectories (directoryOf c root iconType)).run d = (.ok (), d₁))
    (hsave : (Disk.writeText ((directoryOf c root iconType).child (componentFile name))
      (source c iconType svg) .utf8).run d₁ = (.ok (), d₂)) :
    (create c root svg name iconType).run d =
      (exportIf c (directoryOf c root iconType) name iconType >>= fun exported =>
        pure (answered c root name iconType exported)).run d₂ := by
  rw [create_accepted haccepted]
  exact (run_bind_of_ok (run_makeDirectory hmake)).trans (run_bind_of_ok (run_orFail_of_ok hsave))

/-! ## What a call touches -/

theorem componentFile_ne (name : String) :
    componentFile name ≠ "" ∧ componentFile name ≠ ".." ∧ componentFile name ≠ indexFile := by
  have hlast : (componentFile name).toList.getLast? = some 'x' := by
    simp [componentFile]
  refine ⟨?_, ?_, ?_⟩ <;> intro heq <;> rw [heq] at hlast <;> revert hlast <;> decide

theorem isNameChar_of_accepted (h : refusal? svg name = none) :
    ∀ x ∈ name.toList, isNameChar x = true ∨ x = '\n' := by
  rw [refusal?] at h
  split at h
  · have hname := Option.map_eq_none_iff.1 h
    rw [nameError?] at hname
    split at hname
    · simp at hname
    · split at hname
      · rename_i hpascal
        exact isNameChar_of_isPascalCase hpascal
      · simp at hname
  · simp at h

theorem noReturn_of_accepted (h : refusal? svg name = none) : '\r' ∉ name.toList := by
  intro hmem
  have hnot : ¬ (isNameChar '\r' = true ∨ '\r' = '\n') := by decide
  exact hnot (isNameChar_of_accepted h _ hmem)

/-- An export in a directory that is reached puts its index there, if anything. -/
theorem exists_of_exportIf (hreach : d.Reaches directory q)
    (h : (exportIf c directory name iconType).run d = (.ok exported, d')) :
    d' = d ∨ c.autoExport = true ∧ ∃ node, d.find? (q ++ [indexFile]) ≠ some .directory ∧
      d' = d.put (q ++ [indexFile]) node := by
  rw [exportIf] at h
  split at h
  · rename_i hauto
    obtain ⟨index, _, hexit⟩ := exportFrom_exits h
    split at hexit
    · exact .inl hexit.2
    · obtain ⟨_, hnot, hput⟩ := Disk.exists_of_writeText_child (by decide) hreach hexit.2
      exact .inr ⟨hauto, _, hnot, hput⟩
  · exact .inl (Prod.mk.inj h).2.symm

/-- The places of the component and of the index, if icons are exported. -/
def touched (c : Config) (directory : Place) (name : String) : List Place :=
  (directory ++ [componentFile name]) :: if c.autoExport then [directory ++ [indexFile]] else []

/-- A component that stands in its directory, with nothing but it and the index touched. -/
structure Stands (c : Config) (directory : Path) (name text : String) (d d' : Disk) : Prop where
  reached : d'.Reaches directory (directory.place d.cwd)
  located : d'.locate (directory.child (componentFile name)) =
    .ok (directory.place d.cwd ++ [componentFile name])
  component : d'.find? (directory.place d.cwd ++ [componentFile name]) = some (.file text.toUTF8)
  others : Disk.SameBut (touched c (directory.place d.cwd) name) d d'

theorem stands_of_parts (hmake : (Disk.makeDirectories directory).run d = (.ok (), d₁))
    (hsave : (Disk.writeText (directory.child (componentFile name)) text .utf8).run d₁ = (.ok (), d₂))
    (hexport : (exportIf c directory name iconType).run d₂ = (.ok exported, d')) :
    Stands c directory name text d d' := by
  obtain ⟨_, hback, hindex⟩ := componentFile_ne name
  have hreach := Disk.reaches_of_makeDirectories hmake
  obtain ⟨hplace, hnot, hput⟩ := Disk.exists_of_writeText_child hback hreach hsave
  have hcomponent : d₂.find? (directory.place d.cwd ++ [componentFile name]) =
      some (.file text.toUTF8) := by
    rw [hput]
    exact Disk.find?_put_self _ (Disk.ne_nil_of_ne_directory hnot)
  have hothers : Disk.SameBut (touched c (directory.place d.cwd) name) d d₂ := by
    refine ((Disk.sameBut_of_makeDirectories hmake).mono (List.nil_subset _)).trans ?_
    rw [hput]
    exact (Disk.SameBut.put hnot).mono (by simp [touched])
  have hreach₂ : d₂.Reaches directory (directory.place d.cwd) := hput ▸ hreach.put hnot
  have hplace₂ : d₂.locate (directory.child (componentFile name)) =
      .ok (directory.place d.cwd ++ [componentFile name]) := hput ▸ Disk.locate_put hnot hplace
  rcases exists_of_exportIf hreach₂ hexport with rfl | ⟨hauto, node, hnotIndex, rfl⟩
  · exact ⟨hreach₂, hplace₂, hcomponent, hothers⟩
  · refine ⟨hreach₂.put hnotIndex, Disk.locate_put hnotIndex hplace₂, ?_,
      hothers.trans ((Disk.SameBut.put hnotIndex).mono (by simp [touched, hauto]))⟩
    rw [Disk.find?_put_of_ne _ (by simpa using hindex)]
    exact hcomponent

/-! ## A call made again -/

/-- A component that stands is written again and stays what it was. -/
theorem Stands.again (h : Stands c directory name text d d') :
    (Disk.makeDirectories directory).run d' = (.ok (), d') ∧ ∃ d'',
      (Disk.writeText (directory.child (componentFile name)) text .utf8).run d' = (.ok (), d'') ∧
        Disk.Same d' d'' := by
  obtain ⟨hempty, hback, _⟩ := componentFile_ne name
  have hname : (directory.child (componentFile name)).EndsInName := by
    have hlast : (directory.child (componentFile name)).name = componentFile name := by
      simp [Path.child, Path.name]
    rw [Path.EndsInName, hlast]
    exact ⟨hempty, hback⟩
  exact ⟨Disk.makeDirectories_there h.reached.locate h.reached.directory, _,
    Disk.writeText_eq hname h.located h.component text, Disk.same_put h.component (by simp)⟩

/-- An export that is there is there on every disk on which the same stands. -/
theorem exportFrom_of_same (hsame : Disk.Same d d')
    (h : (exportFrom directory name iconType).run d = (.ok false, d)) :
    (exportFrom directory name iconType).run d' = (.ok false, d') := by
  obtain ⟨index, hindex, hexit⟩ := exportFrom_exits h
  cases hadd : addExport? index.toList name.toList iconType.toList with
  | some updated =>
    rw [hadd] at hexit
    exact absurd hexit.1 (by simp)
  | none =>
    rcases (readIndex_exits hindex).2 with htext | ⟨rfl, _⟩
    · have halike : Disk.Alike d d' := .of_find? hsame.cwd hsame.find?
      have hback := (halike.readText_eq (hsame.find? _)).trans htext
      rw [exportFrom_eq hback ⟨name, iconType⟩, hadd]
    · -- no export is in an index without a text
      have hthere : Text.contains (Export.line ⟨name, iconType⟩) [] = true := by
        rw [show "".toList = [] from rfl, addExport?_eq [] ⟨name, iconType⟩] at hadd
        split at hadd
        · assumption
        · simp at hadd
      have hnone := List.infix_nil.1 (Text.contains_iff.1 hthere)
      rw [Export.line_eq] at hnone
      simp at hnone

theorem exportIf_again {d'' : Disk} (hname : '\r' ∉ name.toList) (htype : '\r' ∉ iconType.toList)
    (h : (exportIf c directory name iconType).run d = (.ok exported, d')) (hsame : Disk.Same d' d'') :
    (exportIf c directory name iconType).run d'' = (.ok false, d'') := by
  rw [exportIf] at h ⊢
  split at h
  · rename_i hauto
    have hline := Export.noReturn_line (e := ⟨name, iconType⟩) hname htype
    have hagain := exportFrom_again hline h
    rw [if_pos hauto]
    exact exportFrom_of_same hsame hagain
  · rename_i hauto
    rw [if_neg hauto]
    rfl

/-! ## Failures on the way -/

/-- How a fault of the disk is told. -/
def told (m : String) (f : Fault) : Raised :=
  if f.kind.isSystem then .failure (.persistence m) else .fault f

theorem told_ne_invalidInput (m m' : String) (f : Fault) : told m f ≠ .failure (.invalidInput m') := by
  rw [told]
  split <;> simp

theorem exists_of_orFail_error {α : Type} {describe : String → String} {act : Disk.Action α}
    (h : (Disk.orFail describe act).run d = (.error e, d')) :
    ∃ m f, e = told m f ∧ act.run d = (.error f, d') := by
  rw [run_orFail] at h
  rcases hact : act.run d with ⟨f | a, d₁⟩ <;> rw [hact] at h
  · obtain ⟨he, rfl⟩ := Prod.mk.inj h
    exact ⟨describe f.text, f, (Except.error.inj he).symm, rfl⟩
  · exact absurd (Prod.mk.inj h).1 (by simp [Except.mapError])

/-- An export fails in reading the index or in writing it. -/
theorem exists_of_exportFrom_error (h : (exportFrom directory name iconType).run d = (.error e, d')) :
    ∃ m f, e = told m f ∧ ((readIndex (directory.child indexFile)).run d = (.error f, d') ∨
      ∃ text, (Disk.writeText (directory.child indexFile) text .utf8).run d = (.error f, d')) := by
  rw [exportFrom] at h
  rcases exists_of_run_bind_error h with hindex | ⟨index, d₁, hindex, hrest⟩
  · obtain ⟨m, f, he, hread⟩ := exists_of_orFail_error hindex
    exact ⟨m, f, he, .inl hread⟩
  obtain rfl := (readIndex_exits (of_run_orFail hindex)).1
  split at hrest
  · exact absurd (Prod.mk.inj hrest).1 (by simp)
  · rcases exists_of_run_bind_error hrest with hsave | ⟨_, d₂, _, hlast⟩
    · obtain ⟨m, f, he, hwrite⟩ := exists_of_orFail_error hsave
      exact ⟨m, f, he, .inr ⟨_, hwrite⟩⟩
    · exact absurd (Prod.mk.inj hlast).1 (by simp)

theorem exists_of_makeDirectory_error (h : (makeDirectory p).run d = (.error e, d')) :
    ∃ m f, e = told m f ∧ (Disk.makeDirectories p).run d = (.error f, d') := by
  rcases exists_of_run_bind_error h with hmake | ⟨_, d₁, _, hlast⟩
  · exact exists_of_orFail_error hmake
  · exact absurd (Prod.mk.inj hlast).1 (by simp)

theorem exists_of_exportIf_error (h : (exportIf c directory name iconType).run d = (.error e, d')) :
    c.autoExport = true ∧ (exportFrom directory name iconType).run d = (.error e, d') := by
  rw [exportIf] at h
  split at h
  · exact ⟨‹_›, h⟩
  · exact absurd (Prod.mk.inj h).1 (by simp)

/-- Only what is refused is told as input that is not valid. -/
theorem eq_of_invalidInput {m : String}
    (h : (create c root svg name iconType).run d = (.error (.failure (.invalidInput m)), d')) :
    refusal? svg name = some m ∧ d' = d := by
  cases exit_of_run h with
  | refused hrefused => exact ⟨hrefused, rfl⟩
  | unmade _ hmake =>
    obtain ⟨m', f, he, _⟩ := exists_of_makeDirectory_error hmake
    exact absurd he.symm (told_ne_invalidInput m' m f)
  | unsaved _ _ hsave =>
    obtain ⟨m', f, he, _⟩ := exists_of_orFail_error hsave
    exact absurd he.symm (told_ne_invalidInput m' m f)
  | unexported _ _ _ hexport =>
    obtain ⟨m', f, he, _⟩ := exists_of_exportFrom_error (exists_of_exportIf_error hexport).2
    exact absurd he.symm (told_ne_invalidInput m' m f)

/-- A call that succeeds leaves the component in the directory of its type.  It touches nothing else but
the index, and the index only if icons are exported; directories may come.  Made again at once, it adds
no export and leaves everything as it is.  A call that refuses its document or name has done nothing. -/
theorem create_touches (htype : '\r' ∉ iconType.toList) :
    (∀ icon d', (create c root svg name iconType).run d = (.ok icon, d') →
      icon = answered c root name iconType icon.exported ∧
      d'.read icon.path = .ok (source c iconType svg).toUTF8 ∧
      Disk.SameBut (touched c ((directoryOf c root iconType).place d.cwd) name) d d' ∧
      ∃ d'', (create c root svg name iconType).run d' = (.ok { icon with exported := false }, d'') ∧
        Disk.Same d' d'') ∧
    ∀ m d', (create c root svg name iconType).run d = (.error (.failure (.invalidInput m)), d') →
      d' = d := by
  constructor
  · intro icon d' hrun
    cases exit_of_run hrun with
    | created haccepted hmake hsave hexport =>
      have hstands := stands_of_parts hmake hsave hexport
      obtain ⟨hmakeAgain, d'', hsaveAgain, hsame⟩ := hstands.again
      have hexportAgain := exportIf_again (noReturn_of_accepted haccepted) htype hexport hsame
      exact ⟨rfl, Disk.read_eq_ok_iff.2 ⟨_, hstands.located, hstands.component⟩, hstands.others, d'',
        (run_create haccepted hmakeAgain hsaveAgain).trans (run_bind_of_ok hexportAgain), hsame⟩
  · exact fun m d' hrun => (eq_of_invalidInput hrun).2

theorem create_touches_fresh : '\r' ∉ "T".toList ∧
    ∃ d', (create {} Path.here "<svg/>" "A" "T").run {} =
        (.ok (answered {} Path.here "A" "T" true), d') ∧
      d'.read (answered {} Path.here "A" "T" true).path = .ok (source {} "T" "<svg/>").toUTF8 ∧
      ∃ d'', (create {} Path.here "<svg/>" "A" "T").run d' =
        (.ok (answered {} Path.here "A" "T" false), d'') ∧ Disk.Same d' d'' := by
  have htype : '\r' ∉ "T".toList := by decide
  have hsome : ((create {} Path.here "<svg/>" "A" "T").run {}).1.toOption =
      some (answered {} Path.here "A" "T" true) := by decide +kernel
  rcases hrun : (create {} Path.here "<svg/>" "A" "T").run {} with ⟨e | icon, d'⟩
  · rw [hrun] at hsome
    exact absurd hsome (by simp [Except.toOption])
  · rw [hrun] at hsome
    obtain rfl := Option.some.inj hsome
    obtain ⟨_, hread, _, hagain⟩ := (create_touches htype).1 _ d' hrun
    exact ⟨htype, d', rfl, hread, hagain⟩

end Icon
end SvgIcon
