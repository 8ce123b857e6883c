import SvgIcon.Proofs.File.Directories

/-!
Where paths lead, and what else stands where.  A path that can be followed leads to the place that
its names spell, whatever the disk holds.  Writing over a file leaves every other place as it was,
and the way of every path too; adding to a file at most adds directories beside.
-/

namespace SvgIcon

def Node.isFile : Node → Bool
  | .file _ => true
  | .directory => false

/-! ## Spelled places -/

namespace Path

/-- One name further, or one back. -/
def advance (place : Place) (name : String) : Place :=
  if name = ".." then place.dropLast else place ++ [name]

/-- The place that the names of a path spell from the root or from the working directory. -/
def place (p : Path) (cwd : Place) : Place :=
  p.names.foldl advance (if p.isAbsolute then [] else cwd)

end Path

namespace Disk

variable {d d' d'' : Disk} {place q r : Place} {p : Path} {name : String} {bytes new : ByteArray}

theorem step_spelled (h : d.step q name = .ok r) : r = Path.advance q name := by
  rw [step, find?_of_step h] at h
  simp only at h
  by_cases hback : name = ".."
  · rw [if_pos hback] at h
    rw [Path.advance, if_pos hback]
    exact (Except.ok.inj h).symm
  · rw [if_neg hback] at h
    rw [Path.advance, if_neg hback]
    split at h
    · simp at h
    · exact (Except.ok.inj h).symm

theorem follow_spelled {names : List String} (h : names.foldlM d.step q = .ok r) :
    r = names.foldl Path.advance q := by
  induction names generalizing q with
  | nil => exact (Except.ok.inj h).symm
  | cons name names ih =>
    rw [List.foldlM_cons] at h
    obtain ⟨q', hstep, hrest⟩ := exists_of_bind_eq_ok h
    rw [List.foldl_cons, ← step_spelled hstep]
    exact ih hrest

theorem locate_spelled (h : d.locate p = .ok r) : r = p.place d.cwd := by
  rw [locate] at h
  split at h
  · simp at h
  · split at h
    · simp at h
    · exact follow_spelled h

/-! ## Disks of one shape -/

/-- Files stand where files stood and directories where directories stood, and nothing else. -/
structure Alike (d d' : Disk) : Prop where
  cwd : d'.cwd = d.cwd
  kinds : ∀ q, (d'.find? q).map Node.isFile = (d.find? q).map Node.isFile

namespace Alike

theorem refl (d : Disk) : Alike d d := ⟨rfl, fun _ => rfl⟩

theorem trans (h : Alike d d') (h' : Alike d' d'') : Alike d d'' :=
  ⟨h'.cwd.trans h.cwd, fun q => (h'.kinds q).trans (h.kinds q)⟩

theorem of_find? (hcwd : d'.cwd = d.cwd) (h : ∀ q, d'.find? q = d.find? q) : Alike d d' :=
  ⟨hcwd, fun q => by rw [h q]⟩

theorem put (hfile : d.find? place = some (.file bytes)) : Alike d (d.put place (.file new)) := by
  refine ⟨rfl, fun q => ?_⟩
  by_cases hq : q = place
  · rw [hq, find?_put_self _ (ne_nil_of_find? hfile), hfile]
    rfl
  · rw [find?_put_of_ne _ hq]

theorem step_eq (h : Alike d d') (q : Place) (name : String) : d'.step q name = d.step q name := by
  have hkind := h.kinds q
  rw [step, step]
  rcases hfind : d.find? q with _ | (there | _) <;>
    rcases hfind' : d'.find? q with _ | (there' | _) <;>
    simp [hfind, hfind', Node.isFile] at hkind ⊢

theorem locate_eq (h : Alike d d') (p : Path) : d'.locate p = d.locate p := by
  have hstep : d'.step = d.step := by
    funext q name
    exact h.step_eq q name
  rw [locate, locate, hstep, h.cwd]

/-- What is read at a path depends on the one place that it spells. -/
theorem readText_eq (h : Alike d d') (hsame : d'.find? (p.place d.cwd) = d.find? (p.place d.cwd)) :
    d'.readText p = d.readText p := by
  have hnode : d'.node p = d.node p := by
    rw [node, node, h.locate_eq]
    cases hplace : d.locate p with
    | error e => rfl
    | ok r =>
      obtain rfl := locate_spelled hplace
      simp only [bind, Except.bind, hsame]
  rw [readText, readText, read, read, hnode]

end Alike

/-! ## Writing over a file -/

/-- Why no file is written at a path that does not end in a name. -/
def unwritable (p : Path) : Fault := (if p.names = [] then Refusal.taken else .busy).fault p

theorem abandonDraft_eq (hplace : d.locate p = .ok place) (f : Fault) :
    (abandonDraft p f).run d = (.error f, { d with drafts := place :: d.drafts }) := by
  have hdraft : ∀ change : Disk → Disk,
      (modifyThe Disk change : Action Unit).run d = (.ok (), change d) := fun _ => rfl
  rw [abandonDraft, run_bind_of_ok (hdraft _), hplace]
  rfl

/-- A file at a path that does not end in a name is not written over; a draft of it may be left. -/
theorem writeText_refused (hname : ¬ p.EndsInName) (hplace : d.locate p = .ok place)
    (hfile : d.find? place = some (.file bytes)) (text : String) :
    ∃ d', (writeText p text .utf8).run d = (.error (unwritable p), d') ∧ d'.nodes = d.nodes ∧
      d'.cwd = d.cwd := by
  by_cases hnames : p.names = []
  · -- such a path is its own parent, and a file stands where that directory should
    obtain ⟨root, names⟩ := p
    obtain rfl : names = [] := hnames
    have hmake : d.makeDirectory ⟨root, []⟩ = .error .taken := by
      simp [makeDirectory, hplace, hfile, bind, Except.bind]
    have his : d.isDirectory? ⟨root, []⟩ = .ok false := by
      simp [isDirectory?, look, node, hplace, hfile, bind, Except.bind, Except.map]
    have hmade : (makeDirectories (Path.parent ⟨root, []⟩)).run d =
        (.error (unwritable ⟨root, []⟩), d) := by
      show (ensureDirectory ⟨root, []⟩ _).run d = _
      rw [ensureDirectory]
      refine (run_bind_of_ok (run_getThe d)).trans ?_
      rw [hmake, his]
      rfl
    exact ⟨d, run_bind_of_error hmade, rfl, rfl⟩
  · obtain ⟨above, habove, hthere⟩ := locate_parent hnames hplace
    have hmade := makeDirectories_there habove hthere
    have htarget : d.target p = .error .busy := by
      have hlast : p.name = "" ∨ p.name = ".." :=
        Decidable.byContradiction fun hnot => hname (not_or.1 hnot)
      simp [target, hplace, hlast, bind, Except.bind]
    refine ⟨{ d with drafts := above :: d.drafts }, ?_, rfl, rfl⟩
    rw [writeText]
    refine (run_bind_of_ok hmade).trans ?_
    refine (run_bind_of_ok (run_getThe d)).trans ?_
    rw [htarget, unwritable, if_neg hnames]
    exact abandonDraft_eq habove _

/-! ## Disks that grow -/

/-- The second disk is the first one with more on it. -/
structure Grown (d d' : Disk) : Prop where
  cwd : d'.cwd = d.cwd
  find? : ∀ {q node}, d.find? q = some node → d'.find? q = some node

theorem Grown.refl (d : Disk) : Grown d d := ⟨rfl, id⟩

theorem Grown.trans (h : Grown d d') (h' : Grown d' d'') : Grown d d'' :=
  ⟨h'.cwd.trans h.cwd, fun hfind => h'.find? (h.find? hfind)⟩

theorem grown_put {node : Node} (h : d.find? place = none) : Grown d (d.put place node) := by
  refine ⟨rfl, fun {q there} hfind => ?_⟩
  have hne : q ≠ place := by
    rintro rfl
    simp [h] at hfind
  rwa [find?_put_of_ne _ hne]

theorem admits_grown : Admits Grown where
  refl := .refl
  trans := .trans
  made _ hnone := grown_put hnone

/-- The bytes of the file at a place; a file that is not there has none. -/
def bytesAt (d : Disk) (place : Place) : ByteArray :=
  match d.find? place with
  | some (.file bytes) => bytes
  | _ => .empty

theorem bytesAt_of_find?_eq (h : d'.find? q = d.find? q) : d'.bytesAt q = d.bytesAt q := by
  rw [bytesAt, h, bytesAt]

theorem bytesAt_put (h : place ≠ []) : (d.put place (.file bytes)).bytesAt place = bytes := by
  rw [bytesAt, find?_put_self _ h]

/-- Where directories have come there was no file, and there is none. -/
theorem Spread.bytesAt_eq (h : Spread d d') (q : Place) : d'.bytesAt q = d.bytesAt q := by
  rcases h.find? q with heq | ⟨hnone, hmade⟩
  · exact bytesAt_of_find?_eq heq
  · rw [bytesAt, bytesAt, hnone, hmade]

/-! ## Adding to a file -/

/-- A text can be added at the end of the path: the directories on the way are there or can be made, and
then no directory stands where the path leads. -/
def Takes (d : Disk) (p : Path) : Prop :=
  ∃ d' place, (makeDirectories p.parent).run d = (.ok (), d') ∧ d'.locate p = .ok place ∧
    d'.find? place ≠ some .directory

/-- The exits of adding a text.  Directories are made first; then the text is added, or nothing more is
done. -/
inductive Added (p : Path) (text : String) (d : Disk) : Except Fault Unit → Disk → Prop
  | refused {f} (hnot : ¬ d.Takes p) :
      Added p text d (.error f) ((makeDirectories p.parent).run d).2
  | added {place d₁} (hmake : (makeDirectories p.parent).run d = (.ok (), d₁))
      (hplace : d₁.locate p = .ok place) (hthere : d₁.find? place ≠ some .directory) :
      Added p text d (.ok ()) (d₁.put place (.file (d₁.bytesAt place ++ text.toUTF8)))

theorem appendText_exits (p : Path) (text : String) (d : Disk) :
    Added p text d ((appendText p text).run d).1 ((appendText p text).run d).2 := by
  have hrefused : ∀ {f d₁}, ((makeDirectories p.parent).run d).2 = d₁ → ¬ d.Takes p →
      Added p text d (.error f) d₁ := by
    rintro f _ rfl hnot
    exact .refused hnot
  rw [appendText]
  rcases hmake : (makeDirectories p.parent).run d with ⟨f | _, d₁⟩
  · rw [run_bind_of_error hmake]
    refine hrefused (by rw [hmake]) fun ⟨_, _, hmade, _⟩ => ?_
    exact absurd (Prod.mk.inj (hmake.symm.trans hmade)).1 (by simp)
  rw [run_bind_of_ok hmake, run_bind_of_ok (run_getThe d₁)]
  have htakes : d.Takes p → ∃ place, d₁.locate p = .ok place ∧ d₁.find? place ≠ some .directory := by
    rintro ⟨_, place, hmade, hrest⟩
    obtain ⟨_, rfl⟩ := Prod.mk.inj (hmake.symm.trans hmade)
    exact ⟨place, hrest⟩
  cases hplace : d₁.locate p with
  | error r =>
    refine hrefused (by rw [hmake]; rfl) fun h => ?_
    obtain ⟨_, hplace', _⟩ := htakes h
    exact absurd (hplace.symm.trans hplace') (by simp)
  | ok place =>
    have hadded : ∀ bytes, d₁.find? place ≠ some .directory → d₁.bytesAt place = bytes →
        Added p text d (.ok ()) (d₁.put place (.file (bytes ++ text.toUTF8))) := by
      rintro _ hthere rfl
      exact .added hmake hplace hthere
    rcases hold : d₁.find? place with _ | (bytes | _) <;> simp only [hold]
    · have hnew := hadded .empty (by simp [hold]) (by rw [bytesAt, hold])
      rwa [ByteArray.empty_append] at hnew
    · exact hadded bytes (by simp [hold]) (by rw [bytesAt, hold])
    · refine hrefused (by rw [hmake]; rfl) fun h => ?_
      obtain ⟨_, hplace', hthere⟩ := htakes h
      obtain rfl := Except.ok.inj (hplace.symm.trans hplace')
      exact hthere hold

theorem added_of_run {text : String} {answer : Except Fault Unit}
    (h : (appendText p text).run d = (answer, d')) : Added p text d answer d' := by
  have hexit := appendText_exits p text d
  rwa [h] at hexit

/-- What stands elsewhere stays when a text is added to a file. -/
theorem appendText_elsewhere {node : Node} (text : String) (hq : q ≠ p.place d.cwd)
    (hfind : d.find? q = some node) :
    ((appendText p text).run d).2.find? q = some node ∧
      ((appendText p text).run d).2.cwd = d.cwd := by
  have hgrown : Grown d ((makeDirectories p.parent).run d).2 :=
    moves_makeDirectories admits_grown _ d
  generalize hrun : (appendText p text).run d = answered
  obtain ⟨answer, d'⟩ := answered
  cases added_of_run hrun with
  | refused => exact ⟨hgrown.find? hfind, hgrown.cwd⟩
  | @added place d₁ hmake hplace _ =>
    rw [hmake] at hgrown
    have hne : q ≠ place := by
      rw [locate_spelled hplace, hgrown.cwd]
      exact hq
    exact ⟨(find?_put_of_ne _ hne).trans (hgrown.find? hfind), hgrown.cwd⟩

/-- What is added stands behind what was there; a text that is refused is not added. -/
theorem bytesAt_of_added {text : String} {answer : Except Fault Unit} (h : Added p text d answer d') :
    d'.cwd = d.cwd ∧ d'.bytesAt (p.place d.cwd) =
      d.bytesAt (p.place d.cwd) ++ if answer.isOk then text.toUTF8 else .empty := by
  have hspread : Spread d ((makeDirectories p.parent).run d).2 :=
    moves_makeDirectories admits_spread _ d
  cases h with
  | refused =>
    refine ⟨hspread.cwd, (hspread.bytesAt_eq _).trans ?_⟩
    exact ByteArray.append_empty.symm
  | @added place d₁ hmake hplace hthere =>
    rw [hmake] at hspread
    obtain rfl : p.place d.cwd = place := by rw [locate_spelled hplace, hspread.cwd]
    refine ⟨hspread.cwd, ?_⟩
    rw [bytesAt_put (ne_nil_of_ne_directory hthere), hspread.bytesAt_eq]
    rfl

/-- A text that has been added to a file stands behind what was there. -/
theorem bytesAt_appendText {text : String} (h : (appendText p text).run d = (.ok (), d')) :
    d'.cwd = d.cwd ∧
      d'.bytesAt (p.place d.cwd) = d.bytesAt (p.place d.cwd) ++ text.toUTF8 :=
  bytesAt_of_added (added_of_run h)

/-- Where there is a file, a text is added in its place and nothing else is done. -/
theorem appendText_eq (hnames : p.names ≠ []) (hplace : d.locate p = .ok place)
    (hfile : d.find? place = some (.file bytes)) (text : String) :
    (appendText p text).run d = (.ok (), d.put place (.file (bytes ++ text.toUTF8))) := by
  obtain ⟨above, habove, hthere⟩ := locate_parent hnames hplace
  have hmade := makeDirectories_there habove hthere
  rw [appendText]
  refine (run_bind_of_ok hmade).trans ?_
  refine (run_bind_of_ok (run_getThe d)).trans ?_
  simp only [hplace, hfile]
  rfl

/-! ## What writing can do -/

theorem abandonDraft_exits (directory : Path) (f : Fault) (d : Disk) : ∃ d',
    (abandonDraft directory f : Action Unit).run d = (.error f, d') ∧ d'.nodes = d.nodes ∧
      d'.cwd = d.cwd := by
  have hdraft : ∀ change : Disk → Disk,
      (modifyThe Disk change : Action Unit).run d = (.ok (), change d) := fun _ => rfl
  rw [abandonDraft, run_bind_of_ok (hdraft _)]
  refine ⟨_, rfl, ?_, ?_⟩ <;> cases d.locate directory <;> rfl

/-- The exits of writing a text.  Directories are made first; then the file is put in its place, or
nothing more is changed that has a name. -/
inductive Wrote (p : Path) (text : String) (encoding : Encoding) (d : Disk) :
    Except Fault Unit → Disk → Prop
  | refused {f d'} (hnodes : d'.nodes = ((makeDirectories p.parent).run d).2.nodes)
      (hcwd : d'.cwd = ((makeDirectories p.parent).run d).2.cwd) : Wrote p text encoding d (.error f) d'
  | written {bytes place d₁} (hbytes : encoding.bytes? text = some bytes)
      (hmake : (makeDirectories p.parent).run d = (.ok (), d₁)) (hplace : d₁.locate p = .ok place)
      (hthere : d₁.find? place ≠ some .directory) :
      Wrote p text encoding d (.ok ()) (d₁.put place (.file bytes))

theorem writeText_exits (p : Path) (text : String) (encoding : Encoding) (d : Disk) :
    Wrote p text encoding d ((writeText p text encoding).run d).1
      ((writeText p text encoding).run d).2 := by
  rw [writeText]
  rcases hmake : (makeDirectories p.parent).run d with ⟨f | _, d₁⟩
  · rw [run_bind_of_error hmake]
    exact .refused (by rw [hmake]) (by rw [hmake])
  rw [run_bind_of_ok hmake]
  have hrefused : ∀ f, Wrote p text encoding d
      ((abandonDraft p.parent f : Action Unit).run d₁).1
      ((abandonDraft p.parent f : Action Unit).run d₁).2 := by
    intro f
    obtain ⟨d', hrun, hnodes, hcwd⟩ := abandonDraft_exits p.parent f d₁
    rw [hrun]
    exact .refused (by rw [hmake, hnodes]) (by rw [hmake, hcwd])
  cases hbytes : encoding.bytes? text with
  | none => exact hrefused _
  | some bytes =>
    show Wrote p text encoding d (((getThe Disk : Action Disk) >>= _).run d₁).1 _
    rw [run_bind_of_ok (run_getThe d₁)]
    cases htarget : d₁.target p with
    | error r => exact hrefused _
    | ok place =>
      obtain ⟨there, hplace, hends⟩ := exists_of_bind_eq_ok htarget
      split at hends
      · exact absurd hends (by simp)
      split at hends
      · exact absurd hends (by simp)
      · rename_i hnot
        obtain rfl := Except.ok.inj hends
        exact .written hbytes hmake hplace hnot

theorem find?_of_nodes (h : d'.nodes = d.nodes) (q : Place) : d'.find? q = d.find? q := by
  rw [find?, find?, h]

/-- Directories stay when a file is written, and so does whatever stands elsewhere. -/
theorem writeText_keeps (p : Path) (text : String) (encoding : Encoding) {node : Node}
    (hfind : d.find? q = some node) (h : node = .directory ∨ q ≠ p.place d.cwd) :
    ((writeText p text encoding).run d).2.find? q = some node ∧
      ((writeText p text encoding).run d).2.cwd = d.cwd := by
  have hgrown : Grown d ((makeDirectories p.parent).run d).2 :=
    moves_makeDirectories admits_grown _ d
  have hexit := writeText_exits p text encoding d
  generalize (writeText p text encoding).run d = done at hexit ⊢
  obtain ⟨answer, d'⟩ := done
  cases hexit with
  | refused hnodes hcwd =>
    exact ⟨(find?_of_nodes hnodes q).trans (hgrown.find? hfind), hcwd.trans hgrown.cwd⟩
  | @written bytes place d₁ _ hmake hplace hthere =>
    rw [hmake] at hgrown
    have hsame := hgrown.find? hfind
    have hne : q ≠ place := by
      rintro rfl
      rcases h with rfl | hother
      · exact hthere hsame
      · exact hother (by rw [locate_spelled hplace, hgrown.cwd])
    exact ⟨(find?_put_of_ne _ hne).trans hsame, hgrown.cwd⟩

end Disk
end SvgIcon
