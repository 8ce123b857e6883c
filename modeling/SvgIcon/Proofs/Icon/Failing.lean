import SvgIcon.Proofs.Icon.Creating

/-!
How creating an icon fails.  As long as the path of the directory has no null in it, everything that
goes wrong on the disk is told as a failure of the program, except that an index may hold bytes that are
no text.
-/

namespace SvgIcon
namespace Icon

variable {c : Config} {root directory p : Path} {svg name iconType text : String} {d d' d₁ d₂ : Disk}
  {e : Raised} {f : Fault} {bytes : ByteArray}

/-! ## What is told -/

theorem told_persistence_iff (m : String) (f : Fault) :
    (∃ m', told m f = .failure (.persistence m')) ↔ f.kind.isSystem = true := by
  rw [told]
  split <;> simp [*]

theorem nullFree_componentFile (haccepted : refusal? svg name = none) (h : directory.NullFree) :
    (directory.child (componentFile name)).NullFree := by
  refine h.child fun x hx hnull => ?_
  have hzero : x = '\x00' := by rw [← Char.ofNat_toNat x, hnull]
  have hnot : ¬ (isNameChar '\x00' = true ∨ '\x00' = '\n') := by decide
  have htail : '\x00' ∉ ".tsx".toList := by decide
  rw [hzero, componentFile, String.toList_append, List.mem_append] at hx
  exact hx.elim (fun hname => hnot (isNameChar_of_accepted haccepted _ hname)) htail

theorem nullFree_indexFile (h : directory.NullFree) : (directory.child indexFile).NullFree :=
  h.child (by decide)

/-- An index that cannot be read is refused by the system, or its bytes are no text. -/
theorem fault_of_readIndex (hp : p.NullFree) (h : (readIndex p).run d = (.error f, d')) :
    f.kind.isSystem = true ∨ ∃ bytes, d.read p = .ok bytes ∧ String.fromUTF8? bytes = none := by
  rw [readIndex, run_bind_of_ok (Disk.run_getThe d)] at h
  cases hexists : d.exists? p with
  | error f' =>
    rw [hexists] at h
    obtain ⟨hf, _⟩ := Prod.mk.inj h
    exact .inl (Except.error.inj hf ▸ Disk.isSystem_of_map_look hexists)
  | ok there =>
    rw [hexists] at h
    cases there with
    | false => exact absurd (Prod.mk.inj h).1 (by simp)
    | true => exact (Disk.fault_of_readText hp (Prod.mk.inj h).1).imp_right And.right

/-- What goes wrong in an export is told, unless the bytes of the index are no text. -/
theorem persistence_of_exportFrom (hp : directory.NullFree)
    (h : (exportFrom directory name iconType).run d = (.error e, d')) :
    (∃ m, e = .failure (.persistence m)) ∨
      ∃ bytes, d.read (directory.child indexFile) = .ok bytes ∧ String.fromUTF8? bytes = none := by
  obtain ⟨m, f, rfl, hread | ⟨text, hwrite⟩⟩ := exists_of_exportFrom_error h
  · exact (fault_of_readIndex (nullFree_indexFile hp) hread).imp_left (told_persistence_iff m f).2
  · have hsystem := Disk.systemOnly_writeText (nullFree_indexFile hp) text _ _ _ hwrite
    exact .inl ((told_persistence_iff m f).2 hsystem)

/-- An index whose bytes are no text makes an export fail with a fault of its own. -/
theorem exportFrom_undecodable (hread : d.read (directory.child indexFile) = .ok bytes)
    (hbytes : String.fromUTF8? bytes = none) (name iconType : String) :
    ∃ f, (exportFrom directory name iconType).run d = (.error (.fault f), d) := by
  obtain ⟨text, htext⟩ := Disk.exists_of_readText_undecodable hread hbytes
  have hindex := run_readIndex hread
  rw [htext] at hindex
  refine ⟨⟨.decoding, text⟩, run_bind_of_error ?_⟩
  rw [run_orFail, hindex]
  rfl

/-! ## What escapes -/

/-- The configuration under which no icons are exported. -/
def withoutExport (c : Config) : Config := { c with autoExport := false }

theorem directoryOf_withoutExport : directoryOf (withoutExport c) root iconType =
    directoryOf c root iconType := rfl

theorem source_withoutExport : source (withoutExport c) iconType svg = source c iconType svg := rfl

theorem exportIf_withoutExport : (exportIf (withoutExport c) directory name iconType).run d =
    (.ok false, d) := rfl

theorem run_create_withoutExport (haccepted : refusal? svg name = none)
    (hmake : (Disk.makeDirectories (directoryOf c root iconType)).run d = (.ok (), d₁))
    (hsave : (Disk.writeText ((directoryOf c root iconType).child (componentFile name))
      (source c iconType svg) .utf8).run d₁ = (.ok (), d₂)) :
    (create (withoutExport c) root svg name iconType).run d =
      (.ok (answered (withoutExport c) root name iconType false), d₂) := by
  rw [← directoryOf_withoutExport] at hmake hsave
  rw [← source_withoutExport] at hsave
  exact (run_create haccepted hmake hsave).trans (run_bind_of_ok exportIf_withoutExport)

theorem parts_of_create_withoutExport {icon : Icon}
    (h : (create (withoutExport c) root svg name iconType).run d = (.ok icon, d₂)) :
    refusal? svg name = none ∧ ∃ d₁,
      (Disk.makeDirectories (directoryOf c root iconType)).run d = (.ok (), d₁) ∧
        (Disk.writeText ((directoryOf c root iconType).child (componentFile name))
          (source c iconType svg) .utf8).run d₁ = (.ok (), d₂) := by
  cases exit_of_run h with
  | created haccepted hmake hsave hexport =>
    rw [exportIf_withoutExport] at hexport
    obtain ⟨_, rfl⟩ := Prod.mk.inj hexport
    rw [directoryOf_withoutExport] at hmake hsave
    rw [source_withoutExport] at hsave
    exact ⟨haccepted, _, hmake, hsave⟩

/-- The document and its name are accepted, and either the path of the directory has a null in it, or
there is an index, once the component is written, whose bytes are no text. -/
def Escapes (c : Config) (root : Path) (svg name iconType : String) (d : Disk) : Prop :=
  refusal? svg name = none ∧
    (¬ (directoryOf c root iconType).NullFree ∨
      c.autoExport = true ∧ ∃ icon d₁ bytes,
        (create (withoutExport c) root svg name iconType).run d = (.ok icon, d₁) ∧
          d₁.read ((directoryOf c root iconType).child indexFile) = .ok bytes ∧
          String.fromUTF8? bytes = none)

/-- A failure of the program: the document or the name is refused, or the disk is at fault. -/
inductive OwnFailure (svg name : String) : Raised → Prop
  | refused {m : String} (h : refusal? svg name = some m) :
      OwnFailure svg name (.failure (.invalidInput m))
  | persistence {m : String} (h : refusal? svg name = none) :
      OwnFailure svg name (.failure (.persistence m))

theorem ownFailure_of_create (hnone : ¬ Escapes c root svg name iconType d)
    (h : (create c root svg name iconType).run d = (.error e, d')) : OwnFailure svg name e := by
  have hnull : refusal? svg name = none → (directoryOf c root iconType).NullFree := fun haccepted =>
    Decidable.byContradiction fun hnull => hnone ⟨haccepted, .inl hnull⟩
  cases exit_of_run h with
  | refused hrefused => exact .refused hrefused
  | unmade haccepted hmake =>
    obtain ⟨m, f, rfl, hfault⟩ := exists_of_makeDirectory_error hmake
    obtain ⟨m', htold⟩ := (told_persistence_iff m f).2
      (Disk.systemOnly_makeDirectories (hnull haccepted) _ _ _ hfault)
    exact htold ▸ .persistence haccepted
  | unsaved haccepted hmake hsave =>
    obtain ⟨m, f, rfl, hfault⟩ := exists_of_orFail_error hsave
    obtain ⟨m', htold⟩ := (told_persistence_iff m f).2
      (Disk.systemOnly_writeText (nullFree_componentFile haccepted (hnull haccepted)) _ _ _ _ hfault)
    exact htold ▸ .persistence haccepted
  | @unexported e d₁ d₂ d' haccepted hmake hsave hexport =>
    obtain ⟨hauto, hexport⟩ := exists_of_exportIf_error hexport
    rcases persistence_of_exportFrom (hnull haccepted) hexport with ⟨m, rfl⟩ | ⟨bytes, hread, hbytes⟩
    · exact .persistence haccepted
    · -- without the export, the call would have succeeded
      have hrun := run_create_withoutExport haccepted hmake hsave
      exact absurd ⟨haccepted, .inr ⟨hauto, _, d₂, bytes, hrun, hread, hbytes⟩⟩ hnone

theorem exists_fault_of_escapes (hescapes : Escapes c root svg name iconType d) :
    ∃ f d', (create c root svg name iconType).run d = (.error (.fault f), d') := by
  obtain ⟨haccepted, hnull | ⟨hauto, icon, d₂, bytes, hrun, hread, hbytes⟩⟩ := hescapes
  · have hmake := Disk.makeDirectories_null hnull d
    refine ⟨Disk.Refusal.nullInName.fault (directoryOf c root iconType), d, ?_⟩
    rw [create_accepted haccepted]
    refine run_bind_of_error (run_bind_of_error ?_)
    rw [run_orFail, hmake]
    rfl
  · obtain ⟨_, d₁, hmake, hsave⟩ := parts_of_create_withoutExport hrun
    obtain ⟨f, hfault⟩ := exportFrom_undecodable hread hbytes name iconType
    refine ⟨f, d₂, (run_create haccepted hmake hsave).trans (run_bind_of_error ?_)⟩
    rw [exportIf, if_pos hauto]
    exact hfault

/-- Whatever goes wrong in creating an icon is told as a failure of the program, unless something
escapes: an index whose bytes are no text, or a null in the path of the directory. -/
theorem create_ownFailure_iff :
    (∀ e d', (create c root svg name iconType).run d = (.error e, d') → OwnFailure svg name e) ↔
      ¬ Escapes c root svg name iconType d := by
  constructor
  · intro howns hescapes
    obtain ⟨f, d', hrun⟩ := exists_fault_of_escapes hescapes
    nomatch howns _ _ hrun
  · exact fun hnone e d' hrun => ownFailure_of_create hnone hrun

/-- A disk with an index that is no text in the directory of a type. -/
def undecodableDisk : Disk :=
  { nodes := [(["T", indexFile], .file ⟨#[0xFF]⟩), (["T"], .directory)] }

theorem create_ownFailure_undecodable :
    let c : Config := { iconPaths := [("T", "T")] }
    (match ((create c Path.here "<svg/>" "A" "T").run undecodableDisk).1 with
      | .error (.fault f) => some f.kind
      | _ => none) = some .decoding ∧
    ¬ ∀ e d', (create c Path.here "<svg/>" "A" "T").run undecodableDisk = (.error e, d') →
      OwnFailure "<svg/>" "A" e := by
  intro c
  have hkind : (match ((create c Path.here "<svg/>" "A" "T").run undecodableDisk).1 with
      | .error (.fault f) => some f.kind
      | _ => none) = some .decoding := by decide +kernel
  refine ⟨hkind, fun howns => ?_⟩
  rcases hrun : (create c Path.here "<svg/>" "A" "T").run undecodableDisk with ⟨e | icon, d'⟩
  · rw [hrun] at hkind
    cases howns e d' hrun <;> simp at hkind
  · rw [hrun] at hkind
    simp at hkind

end Icon
end SvgIcon
