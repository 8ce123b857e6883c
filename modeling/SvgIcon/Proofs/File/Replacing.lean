import SvgIcon.Batch.Files
import SvgIcon.Proofs.File.Appending
import SvgIcon.Proofs.Icon.Creating

/-!
Writing a file is all or nothing.  A text is drafted in a file of its own beside the one that it is for,
and the draft takes its place in one step at the end.  Whatever goes wrong before leaves every file as it
was, and much can go wrong that a disk does not show; so the steps are taken amid any troubles.  Without
troubles they do what writing does, which keeps the draft out of sight.
-/

namespace SvgIcon
namespace Disk

variable {d d' d₁ : Disk} {p : Path} {q draft place : Place} {name text : String} {encoding : Encoding}
  {written : List Place} {bytes : ByteArray}

/-! ## Moving a file -/

def drop (d : Disk) (place : Place) : Disk := { d with nodes := d.nodes.filter (·.1 ≠ place) }

theorem find?_drop_of_ne (h : q ≠ place) : (d.drop place).find? q = d.find? q := by
  rw [find?, find?, drop, lookup_filter_ne d.nodes h]

theorem find?_drop_self (h : place ≠ []) : (d.drop place).find? place = none := by
  rw [find?, if_neg h, drop, List.lookup_eq_none_iff]
  intro entry hentry
  exact bne_iff_ne.2 (Ne.symm (of_decide_eq_true (List.mem_filter.1 hentry).2))

/-- Put the file at a place in another one, over the file that may be there. -/
def move (d : Disk) (draft place : Place) : Disk :=
  match d.find? draft with
  | some node => (d.drop draft).put place node
  | none => d

theorem move_eq {node : Node} (h : d.find? draft = some node) :
    d.move draft place = (d.drop draft).put place node := by
  rw [move, h]

theorem find?_of_drop {node : Node} (hdraft : draft ≠ []) (h : (d.drop draft).find? q = some node) :
    d.find? q = some node := by
  by_cases hq : q = draft
  · rw [hq, find?_drop_self hdraft] at h
    exact absurd h (by simp)
  · rwa [find?_drop_of_ne hq] at h

/-- A new file that is dropped again leaves everything as it was. -/
theorem find?_drop_put {node : Node} (hdraft : draft ≠ []) (hfresh : d.find? draft = none) (q : Place) :
    ((d.put draft node).drop draft).find? q = d.find? q := by
  by_cases hq : q = draft
  · rw [hq, find?_drop_self hdraft, hfresh]
  · rw [find?_drop_of_ne hq, find?_put_of_ne _ hq]

theorem put_put (d : Disk) (place : Place) (node node' : Node) :
    (d.put place node).put place node' = d.put place node' := by
  simp [put, List.filter_filter]

/-! ## Steps amid troubles -/

/-- What goes wrong with the steps for reasons that do not show on the disk: directories are made no
further than for a path, the draft is not opened, not all of the text gets into it, and it does not take
the place of the file. -/
structure Trouble where
  directories : Option (Path × Fault) := none
  opening : Option Fault := none
  filling : Option (ByteArray × Fault) := none
  exchange : Option Fault := none

def makeDirectoriesAmid : Option (Path × Fault) → Path → Action Unit
  | none, p => makeDirectories p
  | some (reached, f), _ => do
    makeDirectories reached
    throw f

/-- A draft is a new file. -/
def openDraft (trouble : Option Fault) (draft : Place) (p : Path) : Action Unit := do
  let d ← getThe Disk
  match trouble, d.find? draft with
  | some f, _ => throw f
  | none, some _ => throw (Refusal.taken.fault p)
  | none, none => set (d.put draft (.file .empty))

def fillDraft (trouble : Option (ByteArray × Fault)) (draft : Place) (text : String)
    (encoding : Encoding) : Action Unit := do
  let d ← getThe Disk
  match trouble, encoding.bytes? text with
  | some (front, f), _ =>
    set (d.put draft (.file front))
    throw f
  | none, none => throw ⟨.encoding, s!"the text cannot be written in {encoding.name}"⟩
  | none, some bytes => set (d.put draft (.file bytes))

def exchangeDraft (trouble : Option Fault) (draft : Place) (p : Path) : Action Unit := do
  let d ← getThe Disk
  match trouble, d.target p with
  | some f, _ => throw f
  | none, .error r => throw (r.fault p)
  | none, .ok place => set (d.move draft place)

/-- Where a draft stands: beside the file that it is for. -/
def draftPlace (d : Disk) (p : Path) (name : String) : Place := p.parent.place d.cwd ++ [name]

/-- Write a file step by step, amid troubles and with a draft of this name. -/
def writeThrough (t : Trouble) (name : String) (p : Path) (text : String) (encoding : Encoding) :
    Action Unit := do
  makeDirectoriesAmid t.directories p.parent
  let d ← getThe Disk
  openDraft t.opening (d.draftPlace p name) (p.parent.child name)
  fillDraft t.filling (d.draftPlace p name) text encoding
  exchangeDraft t.exchange (d.draftPlace p name) p

theorem draftPlace_ne_nil : d.draftPlace p name ≠ [] := by simp [draftPlace]

/-! ## The ends of the steps -/

theorem moves_makeDirectoriesAmid (stop : Option (Path × Fault)) (p : Path) :
    Moves Spread (makeDirectoriesAmid stop p) := by
  cases stop with
  | none => exact moves_makeDirectories admits_spread p
  | some stop =>
    exact (moves_makeDirectories admits_spread stop.1).bind admits_spread fun _ =>
      moves_throw admits_spread _

theorem run_openDraft (hfresh : d.find? draft = none) :
    (openDraft none draft p).run d = (.ok (), d.put draft (.file .empty)) := by
  rw [openDraft, run_bind_of_ok (run_getThe d), hfresh]
  rfl

theorem run_fillDraft_of_none (hbytes : encoding.bytes? text = none) :
    (fillDraft none draft text encoding).run d =
      (.error ⟨.encoding, s!"the text cannot be written in {encoding.name}"⟩, d) := by
  rw [fillDraft, run_bind_of_ok (run_getThe d), hbytes]
  rfl

theorem run_fillDraft_of_some (hbytes : encoding.bytes? text = some bytes) :
    (fillDraft none draft text encoding).run d = (.ok (), d.put draft (.file bytes)) := by
  rw [fillDraft, run_bind_of_ok (run_getThe d), hbytes]
  rfl

theorem run_exchangeDraft_of_error {r : Refusal} (htarget : d.target p = .error r) :
    (exchangeDraft none draft p).run d = (.error (r.fault p), d) := by
  rw [exchangeDraft, run_bind_of_ok (run_getThe d), htarget]
  rfl

theorem run_exchangeDraft_of_ok (htarget : d.target p = .ok place) :
    (exchangeDraft none draft p).run d = (.ok (), d.move draft place) := by
  rw [exchangeDraft, run_bind_of_ok (run_getThe d), htarget]
  rfl

theorem openDraft_exits (trouble : Option Fault) (draft : Place) (p : Path) (d : Disk) :
    (∃ f, (openDraft trouble draft p).run d = (.error f, d)) ∨
      d.find? draft = none ∧
        (openDraft trouble draft p).run d = (.ok (), d.put draft (.file .empty)) := by
  cases trouble with
  | some f => exact .inl ⟨f, rfl⟩
  | none =>
    cases hthere : d.find? draft with
    | some node =>
      rw [openDraft, run_bind_of_ok (run_getThe d), hthere]
      exact .inl ⟨_, rfl⟩
    | none => exact .inr ⟨rfl, run_openDraft hthere⟩

theorem fillDraft_exits (trouble : Option (ByteArray × Fault)) (draft : Place) (text : String)
    (encoding : Encoding) (d : Disk) :
    (∃ f, (fillDraft trouble draft text encoding).run d = (.error f, d)) ∨
    (∃ f front, (fillDraft trouble draft text encoding).run d =
      (.error f, d.put draft (.file front))) ∨
    ∃ bytes, encoding.bytes? text = some bytes ∧
      (fillDraft trouble draft text encoding).run d = (.ok (), d.put draft (.file bytes)) := by
  cases trouble with
  | some stop => exact .inr (.inl ⟨stop.2, stop.1, rfl⟩)
  | none =>
    cases hbytes : encoding.bytes? text with
    | none => exact .inl ⟨_, run_fillDraft_of_none hbytes⟩
    | some bytes => exact .inr (.inr ⟨bytes, rfl, run_fillDraft_of_some hbytes⟩)

theorem exchangeDraft_exits (trouble : Option Fault) (draft : Place) (p : Path) (d : Disk) :
    (∃ f, (exchangeDraft trouble draft p).run d = (.error f, d)) ∨
    ∃ place, d.target p = .ok place ∧
      (exchangeDraft trouble draft p).run d = (.ok (), d.move draft place) := by
  cases trouble with
  | some f => exact .inl ⟨f, rfl⟩
  | none =>
    cases htarget : d.target p with
    | error r => exact .inl ⟨_, run_exchangeDraft_of_error htarget⟩
    | ok place => exact .inr ⟨place, rfl, run_exchangeDraft_of_ok htarget⟩

/-- The ends of the steps.  Before the draft is opened directories may have come; then the draft is left,
or it takes the place of the file. -/
inductive Ended (p : Path) (text : String) (encoding : Encoding) (draft : Place) (d : Disk) :
    Except Fault Unit × Disk → Prop
  | stopped {f : Fault} {d' : Disk} (hspread : Spread d d') : Ended p text encoding draft d (.error f, d')
  | left {f : Fault} {d₁ : Disk} {bytes : ByteArray} (hspread : Spread d d₁)
      (hfresh : d₁.find? draft = none) :
      Ended p text encoding draft d (.error f, d₁.put draft (.file bytes))
  | exchanged {d₁ : Disk} {bytes : ByteArray} {place : Place} (hspread : Spread d d₁)
      (hfresh : d₁.find? draft = none)
      (hbytes : encoding.bytes? text = some bytes)
      (htarget : (d₁.put draft (.file bytes)).target p = .ok place) :
      Ended p text encoding draft d (.ok (), (d₁.put draft (.file bytes)).move draft place)

theorem writeThrough_ends (t : Trouble) (name : String) (p : Path) (text : String)
    (encoding : Encoding) (d : Disk) : Ended p text encoding (d.draftPlace p name) d
      ((writeThrough t name p text encoding).run d) := by
  have hspread : Spread d ((makeDirectoriesAmid t.directories p.parent).run d).2 :=
    moves_makeDirectoriesAmid t.directories p.parent d
  rw [writeThrough]
  rcases hmake : (makeDirectoriesAmid t.directories p.parent).run d with ⟨f | _, d₁⟩ <;>
    rw [hmake] at hspread
  · rw [run_bind_of_error hmake]
    exact .stopped hspread
  have hplace : d₁.draftPlace p name = d.draftPlace p name := by
    rw [draftPlace, hspread.cwd, draftPlace]
  rw [run_bind_of_ok hmake, run_bind_of_ok (run_getThe d₁), hplace]
  rcases openDraft_exits t.opening (d.draftPlace p name) (p.parent.child name) d₁ with
    ⟨f, hopen⟩ | ⟨hfresh, hopen⟩
  · rw [run_bind_of_error hopen]
    exact .stopped hspread
  rw [run_bind_of_ok hopen]
  rcases fillDraft_exits t.filling (d.draftPlace p name) text encoding _ with
    ⟨f, hfill⟩ | ⟨f, front, hfill⟩ | ⟨bytes, hbytes, hfill⟩
  · rw [run_bind_of_error hfill]
    exact .left hspread hfresh
  · rw [run_bind_of_error hfill, put_put]
    exact .left hspread hfresh
  rw [run_bind_of_ok hfill, put_put]
  rcases exchangeDraft_exits t.exchange (d.draftPlace p name) p _ with
    ⟨f, hexchange⟩ | ⟨place, htarget, hexchange⟩
  · rw [hexchange]
    exact .left hspread hfresh
  · rw [hexchange]
    exact .exchanged hspread hfresh hbytes htarget

/-! ## What is kept -/

/-- But for the places that are written every file holds what it held, and the paths that led to it still
do.  Directories stay, and more of them may have come. -/
structure KeepsFiles (written : List Place) (d d' : Disk) : Prop where
  files : ∀ {q bytes}, q ∉ written → d.find? q = some (.file bytes) → d'.find? q = some (.file bytes)
  directories : ∀ {q}, d.find? q = some .directory → d'.find? q = some .directory
  reads : ∀ {r bytes}, r.place d.cwd ∉ written → d.read r = .ok bytes → d'.read r = .ok bytes

/-- No file has come but in these places. -/
def NewOnly (places : List Place) (d d' : Disk) : Prop :=
  ∀ {q bytes}, d'.find? q = some (.file bytes) → q ∈ places ∨ d.find? q = some (.file bytes)

theorem keepsFiles_of_find? (hcwd : d'.cwd = d.cwd)
    (hfiles : ∀ {q bytes}, q ∉ written → d.find? q = some (.file bytes) →
      d'.find? q = some (.file bytes))
    (hdirectories : ∀ {q}, d.find? q = some .directory → d'.find? q = some .directory) :
    KeepsFiles written d d' := by
  refine ⟨hfiles, hdirectories, fun {r bytes} hr hread => ?_⟩
  obtain ⟨place, hplace, hfile⟩ := read_eq_ok_iff.1 hread
  have hnot : place ∉ written := locate_spelled hplace ▸ hr
  exact read_eq_ok_iff.2 ⟨place, locate_of_directories hcwd (fun _ => hdirectories) hplace,
    hfiles hnot hfile⟩

namespace Spread

variable (h : Spread d d₁)
include h

theorem directory (hq : d.find? q = some .directory) : d₁.find? q = some .directory :=
  (h.find? q).elim (fun heq => heq.trans hq) And.right

theorem file_back (hq : d₁.find? q = some (.file bytes)) : d.find? q = some (.file bytes) := by
  rcases h.find? q with heq | ⟨_, hmade⟩
  · rw [← heq, hq]
  · rw [hmade] at hq
    exact absurd hq (by simp)

theorem keepsFiles : KeepsFiles [] d d₁ :=
  keepsFiles_of_find? h.cwd (fun _ => h.file) h.directory

theorem newOnly (places : List Place) : NewOnly places d d₁ := fun hq => .inr (h.file_back hq)

/-- A file that is put where no directory is, is the only one that changes. -/
theorem keepsFiles_put (hnot : d₁.find? place ≠ some .directory) :
    KeepsFiles [place] d (d₁.put place (.file bytes)) := by
  refine keepsFiles_of_find? h.cwd (fun {q content} hq hfile => ?_) fun {q} hq => ?_
  · rw [find?_put_of_ne _ (List.ne_of_not_mem_cons hq)]
    exact h.file hfile
  · rw [find?_put_of_ne _ (by rintro rfl; exact hnot (h.directory hq))]
    exact h.directory hq

theorem newOnly_put : NewOnly [place] d (d₁.put place (.file bytes)) := by
  intro q content hfile
  by_cases hq : q = place
  · exact .inl (List.mem_singleton.2 hq)
  · rw [find?_put_of_ne _ hq] at hfile
    exact .inr (h.file_back hfile)

/-- A draft is in nobody's place. -/
theorem keepsFiles_draft (hfresh : d₁.find? draft = none) :
    KeepsFiles [] d (d₁.put draft (.file bytes)) := by
  have hne : ∀ {q node}, d₁.find? q = some node → q ≠ draft := by
    rintro q node hq rfl
    exact absurd (hfresh.symm.trans hq) (by simp)
  refine keepsFiles_of_find? h.cwd (fun {q content} _ hfile => ?_) fun {q} hq => ?_
  · rw [find?_put_of_ne _ (hne (h.file hfile))]
    exact h.file hfile
  · rw [find?_put_of_ne _ (hne (h.directory hq))]
    exact h.directory hq

theorem drop_put {node : Node} (hdraft : draft ≠ []) (hfresh : d₁.find? draft = none) :
    Spread d ((d₁.put draft node).drop draft) := by
  refine ⟨h.cwd, fun q => ?_⟩
  rw [find?_drop_put hdraft hfresh]
  exact h.find? q

end Spread

/-! ## All or nothing -/

/-- The ends of writing a text.  No file is touched, or the text is in its file and the others are not
touched; none but drafts have come. -/
inductive AllOrNothing {ε : Type} (drafts : List Place) (d : Disk) (p : Path) (text : String)
    (encoding : Encoding) : Except ε Unit × Disk → Prop
  | nothing {e : ε} {d' : Disk} (hkept : KeepsFiles [] d d') (hnew : NewOnly drafts d d') :
      AllOrNothing drafts d p text encoding (.error e, d')
  | all {bytes : ByteArray} {d' : Disk} (hbytes : encoding.bytes? text = some bytes)
      (hread : d'.read p = .ok bytes) (hfile : d'.find? (p.place d.cwd) = some (.file bytes))
      (hkept : KeepsFiles [p.place d.cwd] d d') (hnew : NewOnly [p.place d.cwd] d d') :
      AllOrNothing drafts d p text encoding (.ok (), d')

theorem target_eq_ok_iff : d.target p = .ok place ↔
    p.EndsInName ∧ d.locate p = .ok place ∧ d.find? place ≠ some .directory := by
  rw [target]
  cases hplace : d.locate p with
  | error r => simp [bind, Except.bind]
  | ok there =>
    by_cases hname : p.EndsInName
    · have hnot : (p.name = "" || p.name = "..") = false := by simp [hname.1, hname.2]
      simp only [bind, Except.bind, hnot, Bool.false_eq_true, if_false]
      rcases hthere : d.find? there with _ | (bytes | _) <;>
        simp +contextual [hname, hthere, eq_comm]
    · have hlast : (p.name = "" || p.name = "..") = true := by
        simpa [Path.EndsInName, Decidable.or_iff_not_imp_left] using hname
      simp [bind, Except.bind, hlast, hname]

theorem Ended.allOrNothing {ended : Except Fault Unit × Disk}
    (h : Ended p text encoding draft d ended) (hdraft : draft ≠ []) :
    AllOrNothing [draft] d p text encoding ended := by
  cases h with
  | stopped hspread => exact .nothing hspread.keepsFiles (hspread.newOnly _)
  | left hspread hfresh => exact .nothing (hspread.keepsFiles_draft hfresh) hspread.newOnly_put
  | @exchanged d₁ bytes place hspread hfresh hbytes htarget =>
    obtain ⟨_, hplace, hthere⟩ := target_eq_ok_iff.1 htarget
    have hdrafted : (d₁.put draft (.file bytes)).find? draft = some (.file bytes) :=
      find?_put_self _ hdraft
    have hdropped : Spread d ((d₁.put draft (.file bytes)).drop draft) :=
      hspread.drop_put hdraft hfresh
    obtain rfl : p.place d.cwd = place := by rw [locate_spelled hplace, ← hspread.cwd]; rfl
    have hkeep : ∀ q, (d₁.put draft (.file bytes)).find? q = some .directory →
        ((d₁.put draft (.file bytes)).drop draft).find? q = some .directory := by
      intro q hq
      rw [find?_drop_of_ne (by rintro rfl; simp [hdrafted] at hq)]
      exact hq
    have hcwd : ((d₁.put draft (.file bytes)).drop draft).cwd = (d₁.put draft (.file bytes)).cwd := rfl
    have hplace := locate_of_directories hcwd hkeep hplace
    have hthere : ((d₁.put draft (.file bytes)).drop draft).find? (p.place d.cwd) ≠ some .directory :=
      fun hdirectory => hthere (find?_of_drop hdraft hdirectory)
    rw [move_eq hdrafted]
    exact .all hbytes (read_put hplace hthere) (find?_put_self _ (ne_nil_of_ne_directory hthere))
      (hdropped.keepsFiles_put hthere) hdropped.newOnly_put

theorem exists_of_writeText_ok (h : (writeText p text encoding).run d = (.ok (), d')) :
    ∃ d₁ bytes place, (makeDirectories p.parent).run d = (.ok (), d₁) ∧
      encoding.bytes? text = some bytes ∧ d₁.target p = .ok place ∧
      d' = d₁.put place (.file bytes) := by
  have habandon : ∀ {f d₁}, (abandonDraft p.parent f).run d₁ ≠ (.ok (), d') := by
    intro f d₁ hrun
    obtain ⟨d₂, hdraft, _⟩ := abandonDraft_exits p.parent f d₁
    exact absurd (Prod.mk.inj (hdraft.symm.trans hrun)).1 (by simp)
  obtain ⟨_, d₁, hmake, hrest⟩ := exists_of_run_bind h
  cases hbytes : encoding.bytes? text with
  | none =>
    rw [hbytes] at hrest
    exact absurd hrest habandon
  | some bytes =>
    rw [hbytes, run_bind_of_ok (run_getThe d₁)] at hrest
    cases htarget : d₁.target p with
    | error r =>
      rw [htarget] at hrest
      exact absurd hrest habandon
    | ok place =>
      rw [htarget] at hrest
      exact ⟨d₁, bytes, place, hmake, rfl, htarget, (Prod.mk.inj hrest).2.symm⟩

theorem allOrNothing_writeText (p : Path) (text : String) (encoding : Encoding) (d : Disk) :
    AllOrNothing [] d p text encoding ((writeText p text encoding).run d) := by
  have hspread : Spread d ((makeDirectories p.parent).run d).2 :=
    moves_makeDirectories admits_spread _ d
  have hexit := writeText_exits p text encoding d
  generalize (writeText p text encoding).run d = ended at hexit ⊢
  obtain ⟨answer, d'⟩ := ended
  cases hexit with
  | refused hnodes hcwd =>
    have hspread : Spread d d' := ⟨hcwd.trans hspread.cwd, fun q => by
      rw [find?_of_nodes hnodes]
      exact hspread.find? q⟩
    exact .nothing hspread.keepsFiles (hspread.newOnly [])
  | @written bytes place d₁ hbytes hmake hplace hthere =>
    rw [hmake] at hspread
    obtain rfl : p.place d.cwd = place := by rw [locate_spelled hplace, hspread.cwd]
    exact .all hbytes (read_put hplace hthere) (find?_put_self _ (ne_nil_of_ne_directory hthere))
      (hspread.keepsFiles_put hthere) hspread.newOnly_put

/-- What a fault is called makes no difference to the disk. -/
theorem AllOrNothing.orFail {drafts : List Place} {act : Action Unit}
    (h : AllOrNothing drafts d p text encoding (act.run d)) (describe : String → String) :
    AllOrNothing drafts d p text encoding ((orFail describe act).run d) := by
  rw [Icon.run_orFail]
  generalize act.run d = ended at h ⊢
  cases h with
  | nothing hkept hnew => exact .nothing hkept hnew
  | all hbytes hread hfile hkept hnew => exact .all hbytes hread hfile hkept hnew

/-! ## Without troubles -/

theorem writeText_succeeds_iff : (∃ d', (writeText p text encoding).run d = (.ok (), d')) ↔
    d.Takes p ∧ p.EndsInName ∧ ∃ bytes, encoding.bytes? text = some bytes := by
  constructor
  · rintro ⟨d', hrun⟩
    obtain ⟨d₁, bytes, place, hmake, hbytes, htarget, _⟩ := exists_of_writeText_ok hrun
    obtain ⟨hname, hplace, hthere⟩ := target_eq_ok_iff.1 htarget
    exact ⟨⟨d₁, place, hmake, hplace, hthere⟩, hname, bytes, hbytes⟩
  · rintro ⟨⟨d₁, place, hmake, hplace, hthere⟩, hname, bytes, hbytes⟩
    refine ⟨d₁.put place (.file bytes), ?_⟩
    rw [writeText, run_bind_of_ok hmake, hbytes, run_bind_of_ok (run_getThe d₁),
      target_eq_ok_iff.2 ⟨hname, hplace, hthere⟩]
    rfl

theorem bytes?_eq_none_iff :
    encoding.bytes? text = none ↔ encoding = .latin1 ∧ ∃ c ∈ text.toList, 256 ≤ c.toNat := by
  cases encoding with
  | utf8 => simp [Encoding.bytes?]
  | utf16 => simp [Encoding.bytes?]
  | latin1 => simp [Encoding.bytes?]

/-- Where the last directory is reached, a path leads where it led as long as directories stay. -/
theorem Reaches.locate_child (h : d.Reaches p.parent q) (hcwd : d'.cwd = d.cwd)
    (hkeep : ∀ q, d.find? q = some .directory → d'.find? q = some .directory) :
    d'.locate p = d.locate p := by
  have hparent := locate_of_directories hcwd hkeep h.locate
  by_cases hnames : p.names = []
  · have hself : p.parent = p := by rw [Path.parent, hnames, List.dropLast_nil, ← hnames]
    rw [hself] at hparent
    rw [hparent, ← h.locate, hself]
  have hfollow : ∀ {d : Disk}, d.locate p.parent = .ok q →
      p.parent.names.foldlM d.step (if p.isAbsolute then [] else d.cwd) = .ok q := by
    intro d hplace
    rw [Disk.locate] at hplace
    split at hplace
    · simp at hplace
    split at hplace
    · simp at hplace
    · exact hplace
  have hstep : d'.step q p.name = d.step q p.name := by
    rw [step, step, hkeep q h.directory, h.directory]
  rw [Disk.locate, Disk.locate, Path.names_eq hnames, List.foldlM_append, List.foldlM_append, hfollow hparent,
    hfollow h.locate]
  simp only [bind, Except.bind, List.foldlM_cons, hstep, List.foldlM_nil]

/-- A draft does not stand in the way. -/
theorem Reaches.target_put (h : d.Reaches p.parent q) (hfresh : d.find? draft = none) :
    (d.put draft (.file bytes)).target p = d.target p := by
  have hkeep : ∀ q, d.find? q = some .directory →
      (d.put draft (.file bytes)).find? q = some .directory := by
    intro q hq
    rwa [find?_put_of_ne _ (by rintro rfl; simp [hfresh] at hq)]
  have hcwd : (d.put draft (.file bytes)).cwd = d.cwd := rfl
  rw [target, target, h.locate_child hcwd hkeep]
  cases d.locate p with
  | error r => rfl
  | ok place =>
    by_cases hplace : place = draft
    · simp [bind, Except.bind, hplace, hfresh, find?_put_self _ (ne_nil_of_find?_none hfresh)]
    · simp [bind, Except.bind, find?_put_of_ne _ hplace]

/-- The steps come to the same end as writing and leave the same, but for a draft that is left. -/
structure Agrees (draft : Place) (steps whole : Except Fault Unit × Disk) : Prop where
  answer : steps.1 = whole.1
  find? : ∀ q, q ≠ draft ∨ whole.1 = .ok () → steps.2.find? q = whole.2.find? q

theorem agrees_abandonDraft (directory : Path) (f : Fault) :
    Agrees draft (.error f, d.put draft (.file bytes)) ((abandonDraft directory f).run d) := by
  obtain ⟨d', hrun, hnodes, _⟩ := abandonDraft_exits directory f d
  rw [hrun]
  refine ⟨rfl, fun q hq => ?_⟩
  have hne : q ≠ draft := hq.resolve_right (by simp)
  rw [find?_put_of_ne _ hne, find?_of_nodes hnodes]

theorem agrees_move (hdraft : draft ≠ []) (hfresh : d.find? draft = none) (hplace : place ≠ []) :
    Agrees draft (.ok (), (d.put draft (.file bytes)).move draft place)
      (.ok (), d.put place (.file bytes)) := by
  refine ⟨rfl, fun q _ => ?_⟩
  rw [move_eq (find?_put_self _ hdraft)]
  by_cases hq : q = place
  · rw [hq, find?_put_self _ hplace, find?_put_self _ hplace]
  · rw [find?_put_of_ne _ hq, find?_put_of_ne _ hq, find?_drop_put hdraft hfresh]

/-- Writing is what the steps do without troubles, with the draft out of sight. -/
theorem writeThrough_agrees
    (hfresh : ((makeDirectories p.parent).run d).2.find? (d.draftPlace p name) = none) :
    Agrees (d.draftPlace p name) ((writeThrough {} name p text encoding).run d)
      ((writeText p text encoding).run d) := by
  rcases hmake : (makeDirectories p.parent).run d with ⟨f | _, d₁⟩
  · have hsteps : (writeThrough {} name p text encoding).run d = (.error f, d₁) :=
      run_bind_of_error hmake
    have hwhole : (writeText p text encoding).run d = (.error f, d₁) := run_bind_of_error hmake
    rw [hsteps, hwhole]
    exact ⟨rfl, fun _ _ => rfl⟩
  rw [hmake] at hfresh
  have hreach := reaches_of_makeDirectories hmake
  have hspread : Spread d ((makeDirectories p.parent).run d).2 :=
    moves_makeDirectories admits_spread _ d
  rw [hmake] at hspread
  have hplace : d₁.draftPlace p name = d.draftPlace p name := by
    rw [draftPlace, hspread.cwd, draftPlace]
  have hopened : (writeThrough {} name p text encoding).run d =
      (fillDraft none (d.draftPlace p name) text encoding >>= fun _ =>
        exchangeDraft none (d.draftPlace p name) p).run
          (d₁.put (d.draftPlace p name) (.file .empty)) := by
    refine (run_bind_of_ok (a := ()) hmake).trans ?_
    rw [run_bind_of_ok (run_getThe d₁), hplace, run_bind_of_ok (run_openDraft hfresh)]
  rw [hopened, writeText, run_bind_of_ok hmake]
  cases hbytes : encoding.bytes? text with
  | none =>
    rw [run_bind_of_error (run_fillDraft_of_none hbytes)]
    exact agrees_abandonDraft p.parent _
  | some bytes =>
    rw [run_bind_of_ok (run_fillDraft_of_some hbytes), put_put]
    simp only
    rw [run_bind_of_ok (run_getThe d₁)]
    have hsame : (d₁.put (d.draftPlace p name) (.file bytes)).target p = d₁.target p :=
      hreach.target_put hfresh
    cases htarget : d₁.target p with
    | error r =>
      rw [run_exchangeDraft_of_error (hsame.trans htarget)]
      exact agrees_abandonDraft p.parent _
    | ok place =>
      rw [run_exchangeDraft_of_ok (hsame.trans htarget)]
      have hthere := (target_eq_ok_iff.1 htarget).2.2
      exact agrees_move draftPlace_ne_nil hfresh (ne_nil_of_ne_directory hthere)

/-! ## Writing, saving, persisting -/

/-- Writing a file is all or nothing: step by step amid any troubles, where a draft may be left, and as a
whole, which is the steps without troubles and the draft out of sight.  So are saving an icon and writing
an item of a batch.  Writing succeeds just if the path ends in a name that can be taken and the encoding
has all characters of the text. -/
theorem writeText_allOrNothing (d : Disk) (p : Path) (text : String) (encoding : Encoding) :
    (∀ t name, AllOrNothing [d.draftPlace p name] d p text encoding
      ((writeThrough t name p text encoding).run d)) ∧
    (∀ t name describe, AllOrNothing [d.draftPlace p name] d p text encoding
      ((orFail describe (writeThrough t name p text encoding)).run d)) ∧
    (∀ name, ((makeDirectories p.parent).run d).2.find? (d.draftPlace p name) = none →
      Agrees (d.draftPlace p name) ((writeThrough {} name p text encoding).run d)
        ((writeText p text encoding).run d)) ∧
    AllOrNothing [] d p text encoding ((writeText p text encoding).run d) ∧
    AllOrNothing [] d p text .utf8 ((Icon.save p text).run d) ∧
    (∀ item : Batch.Item, AllOrNothing [] d (item.path.getD (Path.ofString item.identifier)) text .utf8
      ((Batch.writeItem item text).run d)) ∧
    ((∃ d', (writeText p text encoding).run d = (.ok (), d')) ↔
      d.Takes p ∧ p.EndsInName ∧ ¬ (encoding = .latin1 ∧ ∃ c ∈ text.toList, 256 ≤ c.toNat)) := by
  have hsteps : ∀ t name, AllOrNothing [d.draftPlace p name] d p text encoding
      ((writeThrough t name p text encoding).run d) := fun t name =>
    (writeThrough_ends t name p text encoding d).allOrNothing draftPlace_ne_nil
  refine ⟨hsteps, fun t name => (hsteps t name).orFail, fun _ => writeThrough_agrees,
    allOrNothing_writeText p text encoding d, (allOrNothing_writeText p text .utf8 d).orFail _,
    fun item => (allOrNothing_writeText _ text .utf8 d).orFail _, ?_⟩
  rw [writeText_succeeds_iff, ← bytes?_eq_none_iff, ← Option.ne_none_iff_exists']

/-- A disk with a file. -/
def notes : Disk := { nodes := [(["a"], .file "old".toUTF8)] }

/-- A character that the encoding has not, and a draft that cannot take the place of the file, leave what
the file held; otherwise it holds the text. -/
theorem writeText_allOrNothing_notes :
    let a : Path := ⟨"", ["a"]⟩
    let full : Fault := ⟨.system, "[Errno 28] No space left on device"⟩
    (∃ f d', (writeText a "€" .latin1).run notes = (.error f, d') ∧ d'.read a = .ok "old".toUTF8) ∧
    (∃ d', (writeThrough { filling := some ("ne".toUTF8, full) } "tmp" a "new" .utf8).run notes =
      (.error full, d') ∧ d'.read a = .ok "old".toUTF8) ∧
    ∃ d', (writeText a "é€" .utf16).run notes = (.ok (), d') ∧
      d'.read a = .ok ⟨#[0xE9, 0x00, 0xAC, 0x20]⟩ := by
  intro a full
  have hplace : notes.locate a = .ok ["a"] := by decide +kernel
  have hold : notes.read a = .ok "old".toUTF8 := read_eq_ok_iff.2 ⟨["a"], hplace, rfl⟩
  have hkeeps : ∀ {drafts f d' text encoding},
      AllOrNothing drafts notes a text encoding (Except.error (ε := Fault) f, d') →
        d'.read a = .ok "old".toUTF8 := by
    intro drafts f d' text encoding hended
    cases hended with
    | nothing hkept => exact hkept.reads List.not_mem_nil hold
  have hthere : notes.find? ["a"] ≠ some .directory := by simp [notes, find?]
  have htakes : notes.Takes a := takes_of_locate (by decide) hplace hthere
  refine ⟨?_, ?_, ?_⟩
  · obtain ⟨_, _, _, hnothing, _, _, hsucceeds⟩ := writeText_allOrNothing notes a "€" .latin1
    rcases hrun : (writeText a "€" .latin1).run notes with ⟨f | _, d'⟩
    · exact ⟨f, d', rfl, hkeeps (hrun ▸ hnothing)⟩
    · exact absurd ⟨rfl, '€', by decide, by decide⟩ (hsucceeds.1 ⟨d', hrun⟩).2.2
  · have hnothing := (writeText_allOrNothing notes a "new" .utf8).1
      { filling := some ("ne".toUTF8, full) } "tmp"
    have hfailed : ((writeThrough { filling := some ("ne".toUTF8, full) } "tmp" a "new" .utf8).run
        notes).1 = .error full := by decide +kernel
    generalize (writeThrough { filling := some ("ne".toUTF8, full) } "tmp" a "new" .utf8).run
      notes = ended at hnothing hfailed
    obtain ⟨_, d'⟩ := ended
    obtain rfl : _ = Except.error full := hfailed
    exact ⟨d', rfl, hkeeps hnothing⟩
  · obtain ⟨_, _, _, hall, _, _, hsucceeds⟩ := writeText_allOrNothing notes a "é€" .utf16
    obtain ⟨d', hrun⟩ := hsucceeds.2 ⟨htakes, by decide, by simp⟩
    refine ⟨d', hrun, ?_⟩
    rw [hrun] at hall
    cases hall with
    | all hbytes hread =>
      rw [hread, ← Option.some.inj hbytes]
      rfl

end Disk
end SvgIcon
