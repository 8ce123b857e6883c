import SvgIcon.Proofs.File.Places
import SvgIcon.Proofs.Text.Pieces

/-!
What the system refuses.  As long as there is no null character in a path, whatever goes wrong in making
directories or in writing a file is a refusal of the system, and so it is in reading, but for bytes that
are no text.
-/

namespace SvgIcon

/-! ## Paths without a null -/

/-- The system can be asked for the path. -/
def Path.NullFree (p : Path) : Prop := p.text.toList.any (·.toNat = 0) = false

instance (p : Path) : Decidable p.NullFree := inferInstanceAs (Decidable (_ = false))

namespace Path

open Text

variable {p p' : Path} {name : String}

theorem toList_text (h : ¬ (p.root = "" ∧ p.names = [])) :
    p.text.toList = p.root.toList ++ Text.join ['/'] (p.names.map String.toList) := by
  have hnot : (p.root = "" && p.names.isEmpty) = false := by
    simpa [Bool.eq_false_iff] using h
  rw [Path.text, hnot, if_neg Bool.false_ne_true, String.toList_append, String.toList_intercalate,
    intercalate_eq_join]
  rfl

/-- A null in the text of a path is a null in its root or in one of its names. -/
theorem nullFree_iff : p.NullFree ↔ ∀ name ∈ p.root :: p.names, ∀ c ∈ name.toList, c.toNat ≠ 0 := by
  have hchars : p.NullFree ↔ ∀ c ∈ p.text.toList, c.toNat ≠ 0 := by
    rw [NullFree, List.any_eq_false]
    simp
  rw [hchars]
  by_cases hhere : p.root = "" ∧ p.names = []
  · have htext : p.text = "." := by simp [text, hhere.1, hhere.2]
    rw [htext, hhere.1, hhere.2]
    decide
  rw [toList_text hhere, List.forall_mem_cons]
  constructor
  · refine fun h => ⟨fun c hc => h c (List.mem_append_left _ hc), fun name hname c hc => ?_⟩
    have hpiece : name.toList ∈ p.names.map String.toList := List.mem_map_of_mem hname
    exact h c (List.mem_append_right _ ((isInfix_join ['/'] hpiece).subset hc))
  · rintro ⟨hroot, hnames⟩ c hc
    rcases List.mem_append.1 hc with hc | hc
    · exact hroot c hc
    rcases mem_join hc with hslash | ⟨piece, hpiece, hc⟩
    · obtain rfl := List.mem_singleton.1 hslash
      decide
    · obtain ⟨name, hname, rfl⟩ := List.mem_map.1 hpiece
      exact hnames name hname c hc

theorem NullFree.of_names (h : p.NullFree) (hroot : p'.root = p.root) (hnames : p'.names ⊆ p.names) :
    p'.NullFree := by
  rw [nullFree_iff, List.forall_mem_cons] at h ⊢
  exact ⟨hroot ▸ h.1, fun name hname => h.2 name (hnames hname)⟩

theorem NullFree.parent (h : p.NullFree) : p.parent.NullFree :=
  h.of_names rfl (List.dropLast_subset _)

theorem NullFree.child (h : p.NullFree) (hname : ∀ c ∈ name.toList, c.toNat ≠ 0) :
    (p.child name).NullFree := by
  rw [nullFree_iff, List.forall_mem_cons] at h ⊢
  refine ⟨h.1, fun name' hmem => ?_⟩
  rcases List.mem_append.1 hmem with hmem | hmem
  · exact h.2 name' hmem
  · obtain rfl := List.mem_singleton.1 hmem
    exact hname

end Path

namespace Disk

variable {d : Disk} {p : Path} {q : Place}

theorem ne_nullInName_of_step {name : String} {r : Refusal} (h : d.step q name = .error r) :
    r ≠ .nullInName := by
  rintro rfl
  rw [step] at h
  split at h
  · simp at h
  · simp at h
  · split at h
    · simp at h
    · split at h <;> simp at h

theorem ne_nullInName_of_follow {names : List String} {r : Refusal}
    (h : names.foldlM d.step q = .error r) : r ≠ .nullInName := by
  induction names generalizing q with
  | nil => simp [pure, Except.pure] at h
  | cons name names ih =>
    rw [List.foldlM_cons] at h
    cases hstep : d.step q name with
    | error r' =>
      rw [hstep] at h
      exact ne_nullInName_of_step (hstep.trans h)
    | ok q' =>
      rw [hstep] at h
      exact ih h

theorem ne_nullInName_of_locate (hp : p.NullFree) {r : Refusal} (h : d.locate p = .error r) :
    r ≠ .nullInName := by
  rw [locate, if_neg (by rw [hp]; exact Bool.false_ne_true)] at h
  split at h
  · rintro rfl
    simp at h
  · exact ne_nullInName_of_follow h

theorem ne_nullInName_of_node (hp : p.NullFree) {r : Refusal} (h : d.node p = .error r) :
    r ≠ .nullInName := by
  rw [node] at h
  cases hplace : d.locate p with
  | ok place =>
    rw [hplace] at h
    rintro rfl
    cases hfind : d.find? place <;> simp [bind, Except.bind, hfind] at h
  | error r' =>
    rw [hplace] at h
    obtain rfl : r' = r := Except.error.inj h
    exact ne_nullInName_of_locate hp hplace

theorem isSystem_of_ne {r : Refusal} (h : r ≠ .nullInName) : (r.fault p).kind.isSystem = true := by
  cases r with
  | nullInName => exact absurd rfl h
  | _ => rfl

/-- A file that cannot be read is refused by the system, or its bytes are no text. -/
theorem fault_of_readText (hp : p.NullFree) {f : Fault} (h : d.readText p = .error f) :
    f.kind.isSystem = true ∨
      f.kind = .decoding ∧ ∃ bytes, d.read p = .ok bytes ∧ String.fromUTF8? bytes = none := by
  cases hread : d.read p with
  | error f' =>
    have hf : f' = f := by
      rw [readText, hread] at h
      exact Except.error.inj h
    subst hf
    left
    rw [read] at hread
    split at hread
    · simp at hread
    · rw [← Except.error.inj hread]
      rfl
    · rename_i r hnode
      rw [← Except.error.inj hread]
      exact isSystem_of_ne (ne_nullInName_of_node hp hnode)
  | ok bytes =>
    right
    rw [readText, hread] at h
    cases hdecode : Utf8.decode bytes with
    | ok text => simp [hdecode, bind, Except.bind, pure, Except.pure] at h
    | error text =>
      simp only [hdecode, bind, Except.bind] at h
      refine ⟨by rw [← Except.error.inj h], bytes, rfl, ?_⟩
      rw [Utf8.decode] at hdecode
      split at hdecode
      · simp at hdecode
      · assumption

theorem kind_of_readText (hp : p.NullFree) {f : Fault} (h : d.readText p = .error f) :
    f.kind.isSystem = true ∨ f.kind = .decoding :=
  (fault_of_readText hp h).imp_right And.left

/-- Bytes that are no text are told as such. -/
theorem exists_of_readText_undecodable {bytes : ByteArray} (hread : d.read p = .ok bytes)
    (hbytes : String.fromUTF8? bytes = none) : ∃ text, d.readText p = .error ⟨.decoding, text⟩ := by
  rw [readText, hread]
  simp only [bind, Except.bind, Utf8.decode, hbytes]
  exact ⟨_, rfl⟩

/-! ## Faults of writing -/

/-- Whatever goes wrong is a refusal of the system. -/
def SystemOnly {α : Type} (act : Action α) : Prop :=
  ∀ d f d', act.run d = (.error f, d') → f.kind.isSystem = true

section
variable {α β : Type} {act : Action α} {next : α → Action β} {root : String} {names : List String}

theorem SystemOnly.bind (h : SystemOnly act) (hnext : ∀ a, SystemOnly (next a)) :
    SystemOnly (act >>= next) := by
  intro d f d' hrun
  rcases hact : act.run d with ⟨f' | a, d₁⟩
  · rw [run_bind_of_error hact] at hrun
    obtain ⟨hf, _⟩ := Prod.mk.inj hrun
    exact Except.error.inj hf ▸ h _ _ _ hact
  · rw [run_bind_of_ok hact] at hrun
    exact hnext a _ _ _ hrun

theorem systemOnly_throw {r : Refusal} (h : r ≠ .nullInName) (p : Path) :
    SystemOnly (throw (r.fault p) : Action α) := by
  intro d f d' hrun
  obtain ⟨hf, _⟩ := Prod.mk.inj hrun
  exact Except.error.inj hf ▸ isSystem_of_ne h

theorem isSystem_of_look {f : Fault} (h : d.look p = .error f) : f.kind.isSystem = true := by
  rw [look] at h
  split at h
  · simp at h
  · rw [← Except.error.inj h]
    rfl
  · simp at h

/-- What is asked about the end of a path fails in looking there. -/
theorem isSystem_of_map_look {α : Type} {answer : Option Node → α} {f : Fault}
    (h : (d.look p).map answer = .error f) : f.kind.isSystem = true := by
  cases hlook : d.look p with
  | error f' =>
    rw [hlook] at h
    exact Except.error.inj h ▸ isSystem_of_look hlook
  | ok node =>
    rw [hlook] at h
    simp [Except.map] at h

theorem ne_nullInName_of_makeDirectory (hp : p.NullFree) {r : Refusal}
    (h : d.makeDirectory p = .error r) : r ≠ .nullInName := by
  rw [makeDirectory] at h
  cases hplace : d.locate p with
  | error r' =>
    rw [hplace] at h
    exact Except.error.inj h ▸ ne_nullInName_of_locate hp hplace
  | ok place =>
    rw [hplace] at h
    rintro rfl
    cases hfind : d.find? place <;> simp [bind, Except.bind, hfind] at h

theorem systemOnly_ensureDirectory {whenMissing : Action Unit} (hp : p.NullFree)
    (h : SystemOnly whenMissing) : SystemOnly (ensureDirectory p whenMissing) := by
  intro d f d' hrun
  rw [ensureDirectory, run_bind_of_ok (run_getThe d)] at hrun
  cases hmake : d.makeDirectory p with
  | ok made =>
    rw [hmake] at hrun
    exact absurd (Prod.mk.inj hrun).1 (by simp)
  | error r =>
    have hnull := ne_nullInName_of_makeDirectory hp hmake
    rw [hmake] at hrun
    cases r with
    | missing => exact h _ _ _ hrun
    | nullInName => exact absurd rfl hnull
    | _ =>
      cases his : d.isDirectory? p with
      | error f' =>
        simp only [his] at hrun
        obtain ⟨hf, _⟩ := Prod.mk.inj hrun
        exact Except.error.inj hf ▸ isSystem_of_map_look his
      | ok is =>
        cases is
        · simp only [his] at hrun
          exact systemOnly_throw hnull p _ _ _ hrun
        · simp only [his] at hrun
          exact absurd (Prod.mk.inj hrun).1 (by simp)

theorem systemOnly_ensureLast (hp : p.NullFree) : SystemOnly (ensureLast p) :=
  systemOnly_ensureDirectory hp (systemOnly_throw (by simp) p)

theorem systemOnly_makeDirectoriesAt (h : Path.NullFree ⟨root, names.reverse⟩) :
    SystemOnly (makeDirectoriesAt root names) := by
  induction names with
  | nil => exact systemOnly_ensureLast h
  | cons name above ih =>
    have habove : Path.NullFree ⟨root, above.reverse⟩ := h.of_names rfl (by simp)
    exact systemOnly_ensureDirectory h ((ih habove).bind fun _ => systemOnly_ensureLast h)

theorem systemOnly_makeDirectories (hp : p.NullFree) : SystemOnly (makeDirectories p) :=
  systemOnly_makeDirectoriesAt (by rwa [List.reverse_reverse])

theorem makeDirectories_null (hp : ¬ p.NullFree) (d : Disk) :
    (makeDirectories p).run d = (.error (Refusal.nullInName.fault p), d) := by
  have hlocate : d.locate p = .error .nullInName := by
    rw [locate, if_pos (by simpa [Path.NullFree] using hp)]
  have hmake : d.makeDirectory p = .error .nullInName := by
    rw [makeDirectory, hlocate]
    rfl
  obtain ⟨whenMissing, hall, _⟩ := exists_makeDirectories p
  rw [hall, ensureDirectory, run_bind_of_ok (run_getThe d), hmake]
  rfl

theorem ne_nullInName_of_target (hp : p.NullFree) {r : Refusal} (h : d.target p = .error r) :
    r ≠ .nullInName := by
  rw [target] at h
  cases hplace : d.locate p with
  | error r' =>
    rw [hplace] at h
    exact Except.error.inj h ▸ ne_nullInName_of_locate hp hplace
  | ok place =>
    rw [hplace] at h
    rintro rfl
    simp only [bind, Except.bind] at h
    split at h
    · simp at h
    · split at h <;> simp at h

theorem systemOnly_abandonDraft {f : Fault} (hf : f.kind.isSystem = true) (p : Path) :
    SystemOnly (abandonDraft p f) := by
  intro d f' d' hrun
  obtain ⟨d₁, habandon, _⟩ := abandonDraft_exits p f d
  rw [habandon] at hrun
  obtain ⟨hf', _⟩ := Prod.mk.inj hrun
  exact Except.error.inj hf' ▸ hf

/-- A text is always written in UTF-8, so that only the system can refuse it. -/
theorem systemOnly_writeText (hp : p.NullFree) (text : String) :
    SystemOnly (writeText p text .utf8) := by
  rw [writeText]
  refine (systemOnly_makeDirectories hp.parent).bind fun _ d f d' hrun => ?_
  have hbytes : Encoding.utf8.bytes? text = some text.toUTF8 := rfl
  rw [hbytes, run_bind_of_ok (run_getThe d)] at hrun
  cases htarget : d.target p with
  | ok place =>
    rw [htarget] at hrun
    exact absurd (Prod.mk.inj hrun).1 (by simp)
  | error r =>
    rw [htarget] at hrun
    exact systemOnly_abandonDraft (isSystem_of_ne (ne_nullInName_of_target hp htarget)) _ _ _ _ hrun

end
end Disk
end SvgIcon
