import Mathlib.Data.List.Forall2
import SvgIcon.Batch.Files
import SvgIcon.Proofs.Batch.Accounting
import SvgIcon.Proofs.Batch.Rewriting
import SvgIcon.Proofs.File.Places
import SvgIcon.Proofs.Log.Lines

/-!
What the log tells of a batch run.  As long as the log is left to the logger and takes every entry, the
run adds one line for each item that it has not skipped, in the order of the report, and every line is
read as what the report says of its item.
-/

namespace SvgIcon
namespace Batch

open Rules

variable {σ α : Type}

/-! ## What a step adds -/

section
variable (disk : Part σ Disk) (Fair : σ → Prop) (p : Path)

/-- Lines have been added at the end of the log. -/
structure Adds (lines : List String) (s s' : σ) : Prop where
  fair : Fair s'
  cwd : (disk.get s').cwd = (disk.get s).cwd
  bytes : (disk.get s').bytesAt (p.place (disk.get s).cwd) =
    (disk.get s).bytesAt (p.place (disk.get s).cwd) ++ (String.join lines).toUTF8

/-- What is done leaves the log alone. -/
def Aside (act : StateM σ α) : Prop :=
  ∀ s, Fair s → Fair (act s).2 ∧ (disk.get (act s).2).cwd = (disk.get s).cwd ∧
    (disk.get (act s).2).find? (p.place (disk.get s).cwd) =
      (disk.get s).find? (p.place (disk.get s).cwd)

/-- The collaborators of a run over some items write to a log that takes every entry, nothing else
changes the log, and the client answers with successes only. -/
structure Logs (items : List Item) (c : Collaborators σ) : Prop where
  /-- The disk that was set is the one that is there. -/
  kept : ∀ d s, disk.get (disk.set d s) = d
  log : c.log = some (p, fun e => disk.run (Log.append p e))
  appends : ∀ e s, Fair s → (disk.run (Log.append p e) s).1 = .ok () ∧
    Fair (disk.run (Log.append p e) s).2
  answers : ∀ {markup config s o s'}, Fair s → c.submit markup config s = (.ok o, s') →
    o.success = true ∧ o.Writable
  read : ∀ q, Aside disk Fair p (c.read q)
  submit : ∀ markup config, Aside disk Fair p (c.submit markup config)
  reembed : ∀ markup, Aside disk Fair p (c.reembed markup)
  persist : ∀ item ∈ items, ∀ text, Aside disk Fair p (c.persist item text)
  progress : ∀ x, Aside disk Fair p (c.progress x)
  cancelled : Aside disk Fair p c.cancelled
  clock : Aside disk Fair p c.clock

end

section
variable {disk : Part σ Disk} {Fair : σ → Prop} {p : Path} {s s' s'' : σ} {a b : List String}

theorem Adds.refl (hs : Fair s) : Adds disk Fair p [] s s := ⟨hs, rfl, by simp⟩

theorem Adds.trans (h : Adds disk Fair p a s s') (h' : Adds disk Fair p b s' s'') :
    Adds disk Fair p (a ++ b) s s'' := by
  refine ⟨h'.fair, h'.cwd.trans h.cwd, ?_⟩
  have hbytes := h'.bytes
  rw [h.cwd, h.bytes] at hbytes
  rw [hbytes, String.join_append]
  simp [ByteArray.append_assoc]

theorem Aside.adds {act : StateM σ α} (h : Aside disk Fair p act) (hs : Fair s) :
    Adds disk Fair p [] s (act s).2 := by
  obtain ⟨hfair, hcwd, hfind⟩ := h s hs
  refine ⟨hfair, hcwd, ?_⟩
  rw [Disk.bytesAt_of_find?_eq hfind]
  simp

theorem Aside.adds_of_eq {act : StateM σ α} {x : α} (h : Aside disk Fair p act) (hs : Fair s)
    (heq : act s = (x, s')) : Adds disk Fair p [] s s' := by
  have hadds := h.adds hs
  rwa [heq] at hadds

end

/-! ## The work on an item -/

/-- The lines that go with what came of an item. -/
inductive Accords (runId : String) (item : Item) :
    Except Raised (Verdict × Outcome) → List String → Prop
  | skipped (outcome : Outcome) : Accords runId item (.ok (.skipped, outcome)) []
  | told {verdict outcome line} (hworked : verdict ≠ .skipped)
      (hsuccess : outcome.success = decide (verdict = .optimized))
      (htells : Log.Tells runId line (Judged.reported ⟨item, verdict, outcome⟩)) :
      Accords runId item (.ok (verdict, outcome)) [line]
  | ended (e : Raised) : Accords runId item (.error e) []

section
variable {disk : Part σ Disk} {Fair : σ → Prop} {p : Path} {items : List Item}
  {c : Collaborators σ} {config : Option RuleSet} {runId : String} {item : Item} {s s' : σ}

theorem content_adds (h : Logs disk Fair p items c) (hs : Fair s) {had : Except Raised String}
    (hcontent : content c item s = (had, s')) : Adds disk Fair p [] s s' := by
  cases hpath : item.path with
  | none =>
    rw [content_given hpath] at hcontent
    obtain ⟨_, rfl⟩ := Prod.mk.inj hcontent
    exact .refl hs
  | some q =>
    rw [content_file hpath (rfl : c.read q s = ((c.read q s).1, (c.read q s).2))] at hcontent
    obtain ⟨_, rfl⟩ := Prod.mk.inj hcontent
    exact (h.read q).adds hs

theorem attempted_adds (h : Logs disk Fair p items c) (hitem : item ∈ items) (hs : Fair s)
    {text element : List Char} {answer : Except Raised Outcome}
    (hattempt : Attempted c config item text element s answer s') :
    Adds disk Fair p [] s s' ∧ ∀ o, answer = .ok o → o.success = true ∧ o.Writable := by
  cases hattempt with
  | refused hsubmit => exact ⟨(h.submit _ _).adds_of_eq hs hsubmit, nofun⟩
  | unembedded hsubmit hreembed =>
    have hfirst := (h.submit _ _).adds_of_eq hs hsubmit
    exact ⟨hfirst.trans ((h.reembed _).adds_of_eq hfirst.fair hreembed), nofun⟩
  | @embedded o new done s₁ s₂ s' hsubmit hreembed hpersist =>
    have hfirst := (h.submit _ _).adds_of_eq hs hsubmit
    have hsecond := hfirst.trans ((h.reembed _).adds_of_eq hfirst.fair hreembed)
    refine ⟨hsecond.trans ((h.persist item hitem _).adds_of_eq hsecond.fair hpersist), ?_⟩
    intro o' ho
    cases done with
    | error e => exact absurd ho (by simp [Except.map])
    | ok _ =>
      obtain rfl := Except.ok.inj ho
      exact h.answers hs hsubmit

/-- The entry of an item. -/
def logEntry (runId : String) (item : Item) (outcome : Outcome) (ms : Double) : Log.Entry :=
  { runId, source := item.identifier, outcome, elapsedMs := ms }

theorem logEntry_tells {outcome : Outcome} (h : outcome.Writable) (runId : String) (item : Item)
    (verdict : Verdict) (ms : Double) : Log.Tells runId (logEntry runId item outcome ms).line
      (Judged.reported ⟨item, verdict, outcome⟩) :=
  Log.Entry.tells (e := logEntry runId item outcome ms) h rfl rfl

theorem record_adds (h : Logs disk Fair p items c) (runId : String) (item : Item) (hs : Fair s)
    (outcome : Outcome) (ms : Double) {logged : Except Raised Unit}
    (hrecord : record c runId item outcome ms s = (logged, s')) :
    logged = .ok () ∧ Adds disk Fair p [(logEntry runId item outcome ms).line] s s' := by
  obtain ⟨hok, hfair⟩ := h.appends (logEntry runId item outcome ms) s hs
  have hset : disk.get (disk.run (Log.append p (logEntry runId item outcome ms)) s).2 =
      ((Log.append p (logEntry runId item outcome ms)).run (disk.get s)).2 := h.kept _ _
  have happend : (Disk.appendText p (logEntry runId item outcome ms).line).run (disk.get s) =
      (.ok (), ((Log.append p (logEntry runId item outcome ms)).run (disk.get s)).2) :=
    Prod.ext hok rfl
  obtain ⟨hcwd, hbytes⟩ := Disk.bytesAt_appendText happend
  rw [record_logged h.log (Prod.ext hok rfl)] at hrecord
  obtain ⟨rfl, rfl⟩ := Prod.mk.inj hrecord
  refine ⟨rfl, hfair, (congrArg Disk.cwd hset).trans hcwd, ?_⟩
  rw [String.join_cons, String.join_nil, String.append_empty]
  rw [logEntry] at hset hbytes
  rw [hset]
  exact hbytes

theorem judge_success {answer : Except Raised Outcome} {verdict : Verdict} {outcome : Outcome}
    (hanswer : ∀ o, answer = .ok o → o.success = true ∧ o.Writable)
    (h : judge answer = .ok (verdict, outcome)) :
    verdict ≠ .skipped ∧ outcome.success = decide (verdict = .optimized) ∧ outcome.Writable := by
  have hunsized : ∀ message code info, Outcome.Writable
      { success := false, error := some message, code := some code, info } := fun _ _ _ =>
    ⟨⟨rfl, trivial⟩, ⟨rfl, trivial⟩, ⟨rfl, trivial⟩⟩
  rcases answer with (f | f | _) | o
  · obtain ⟨rfl, rfl⟩ := Prod.mk.inj (Except.ok.inj h)
    exact ⟨by decide, rfl, hunsized _ _ _⟩
  · obtain ⟨rfl, rfl⟩ := Prod.mk.inj (Except.ok.inj h)
    exact ⟨by decide, rfl, hunsized _ _ _⟩
  · exact absurd h (by simp [judge])
  · obtain ⟨rfl, rfl⟩ := Prod.mk.inj (Except.ok.inj h)
    obtain ⟨hsuccess, hwritable⟩ := hanswer o rfl
    exact ⟨by decide, hsuccess, hwritable⟩

/-- The work on an item adds one line that tells what came of it, and none if it is skipped or ends
the run. -/
theorem process_adds (h : Logs disk Fair p items c) (hitem : item ∈ items) (hs : Fair s)
    {answer : Except Raised (Verdict × Outcome)}
    (hprocess : process c config runId item s = (answer, s')) :
    ∃ lines, Adds disk Fair p lines s s' ∧ Accords runId item answer lines := by
  cases processed_of_eq hprocess with
  | @unread f logged s₁ s' hcontent hrecord =>
    have hread := content_adds h hs hcontent
    obtain ⟨rfl, hline⟩ := record_adds h runId item hread.fair _ _ hrecord
    have hwritable : (Outcome.ofFailure f []).Writable :=
      ⟨⟨rfl, trivial⟩, ⟨rfl, trivial⟩, ⟨rfl, trivial⟩⟩
    exact ⟨_, hread.trans hline, .told (by decide) rfl (logEntry_tells hwritable _ _ _ _)⟩
  | unknown hcontent hother => exact ⟨_, content_adds h hs hcontent, .ended _⟩
  | unmarked hcontent hextract => exact ⟨_, content_adds h hs hcontent, .skipped _⟩
  | interrupted hcontent hextract hattempt hjudge =>
    have hread := content_adds h hs hcontent
    have hstart := hread.trans (h.clock.adds hread.fair)
    exact ⟨_, hstart.trans (attempted_adds h hitem hstart.fair hattempt).1, .ended _⟩
  | judged hcontent hextract hattempt hjudge hrecord =>
    have hread := content_adds h hs hcontent
    have hstart := hread.trans (h.clock.adds hread.fair)
    obtain ⟨htried, hanswers⟩ := attempted_adds h hitem hstart.fair hattempt
    have hdone := hstart.trans htried
    have hstop := hdone.trans (h.clock.adds hdone.fair)
    obtain ⟨rfl, hline⟩ := record_adds h runId item hstop.fair _ _ hrecord
    obtain ⟨hworked, hsuccess, hwritable⟩ := judge_success hanswers hjudge
    exact ⟨_, hstop.trans hline, .told hworked hsuccess (logEntry_tells hwritable _ _ _ _)⟩

end

/-! ## Logs on a disk -/

/-- The log is a file that its path leads to. -/
structure Stands (disk : Part σ Disk) (cwd : Place) (p : Path) (s : σ) : Prop where
  works : (disk.get s).cwd = cwd
  leads : (disk.get s).locate p = .ok (p.place cwd)
  file : ∃ bytes, (disk.get s).find? (p.place cwd) = some (.file bytes)

/-- The place that an item is written to. -/
def Item.target (item : Item) (cwd : Place) : Place :=
  (item.path.getD (Path.ofString item.identifier)).place cwd

section
variable {disk : Part σ Disk} {cwd : Place} {p : Path} {items : List Item} {c : Collaborators σ}
  {s : σ}

theorem aside_of_spares {Fair : σ → Prop} (hfair : ∀ {s s'}, disk.get s' = disk.get s → Fair s → Fair s')
    {act : StateM σ α} (h : Spares disk act) : Aside disk Fair p act := by
  intro s hs
  exact ⟨hfair (h s) hs, congrArg Disk.cwd (h s), by rw [h s]⟩

theorem Stands.of_eq {s s' : σ} (heq : disk.get s' = disk.get s) (h : Stands disk cwd p s) :
    Stands disk cwd p s' :=
  ⟨by rw [heq, h.works], by rw [heq, h.leads], by rw [heq]; exact h.file⟩

theorem writeItem_disk (item : Item) (text : String) (d : Disk) : (writeItem item text d).2 =
    ((Disk.writeText (item.path.getD (Path.ofString item.identifier)) text .utf8).run d).2 := rfl

theorem aside_persist (hkept : ∀ d s, disk.get (disk.set d s) = d) {item : Item}
    (hother : item.target cwd ≠ p.place cwd) (text : String) :
    Aside disk (Stands disk cwd p) p (disk.run (writeItem item text)) := by
  intro s hs
  have hget : disk.get (disk.run (writeItem item text) s).2 = (writeItem item text (disk.get s)).2 :=
    hkept _ _
  obtain ⟨bytes, hfile⟩ := hs.file
  have hne : p.place cwd ≠ (item.path.getD (Path.ofString item.identifier)).place (disk.get s).cwd := by
    rw [hs.works]
    exact hother.symm
  obtain ⟨hfind, hcwd⟩ := Disk.writeText_keeps _ text .utf8 hfile (.inr hne)
  have hplace := Disk.locate_of_directories hcwd (fun q hq =>
    (Disk.writeText_keeps _ text .utf8 hq (.inl rfl)).1) hs.leads
  rw [writeItem_disk] at hget
  rw [← hget] at hfind hcwd hplace
  refine ⟨⟨hcwd.trans hs.works, hplace, bytes, hfind⟩, hcwd, ?_⟩
  rw [hs.works, hfind, hfile]

/-- A run on a disk leaves the log to the logger unless one of its items is the log. -/
theorem logs_onDisk (hwork : WorksOn disk c) (hcalm : Calm disk c)
    (hlog : c.log = some (p, fun e => disk.run (Log.append p e))) (hnames : p.names ≠ [])
    (hanswers : ∀ {markup config s o s'}, c.submit markup config s = (.ok o, s') →
      o.success = true ∧ o.Writable)
    (hitems : ∀ item ∈ items, item.target cwd ≠ p.place cwd) :
    Logs disk (Stands disk cwd p) p items c where
  kept := hcalm.kept
  log := hlog
  appends e s hs := by
    obtain ⟨bytes, hfile⟩ := hs.file
    have happend := Disk.appendText_eq hnames hs.leads hfile e.line
    have hrun : disk.run (Log.append p e) s = (.ok (), disk.set
        ((disk.get s).put (p.place cwd) (.file (bytes ++ e.line.toUTF8))) s) :=
      congrArg (fun done : Except Fault Unit × Disk => (done.1, disk.set done.2 s)) happend
    rw [hrun]
    refine ⟨rfl, ?_, ?_, ?_⟩
    · rw [hcalm.kept]
      exact hs.works
    · rw [hcalm.kept, (Disk.Alike.put hfile).locate_eq, hs.leads]
    · rw [hcalm.kept]
      exact ⟨_, Disk.find?_put_self _ (Disk.ne_nil_of_find? hfile)⟩
  answers _ hsubmit := hanswers hsubmit
  read q := aside_of_spares Stands.of_eq fun s => by
    rw [hwork.read_eq]
    exact hcalm.kept _ _
  submit _ _ := aside_of_spares Stands.of_eq (hcalm.submit _ _)
  reembed _ := aside_of_spares Stands.of_eq fun s => by rw [hwork.reembed_eq]
  persist item hitem text := by
    have hpersist : c.persist item text = disk.run (writeItem item text) := by
      funext s
      exact hwork.persist_eq item s
    rw [hpersist]
    exact aside_persist hcalm.kept (hitems item hitem) text
  progress _ := aside_of_spares Stands.of_eq (hcalm.progress _)
  cancelled := aside_of_spares Stands.of_eq hcalm.cancelled
  clock := aside_of_spares Stands.of_eq hcalm.clock

end

/-! ## Runs -/

/-- The items that the report lists and does not call skipped. -/
def worked (items : List ItemOutcome) : List ItemOutcome := items.filter (!·.skipped)

/-- The lines tell the items that have been worked on, which succeeded if they count as optimized. -/
structure Chronicle (runId : String) (lines : List String) (js : List Judged) : Prop where
  tells : List.Forall₂ (Log.Tells runId) lines (worked (js.map Judged.reported))
  success : ∀ j ∈ js, j.verdict ≠ .skipped → j.outcome.success = decide (j.verdict = .optimized)

section
variable {runId : String} {lines more : List String} {js : List Judged} {item : Item}

theorem Chronicle.nil (runId : String) : Chronicle runId [] [] := ⟨.nil, nofun⟩

theorem Chronicle.concat (h : Chronicle runId lines js) {verdict : Verdict} {outcome : Outcome}
    (haccords : Accords runId item (.ok (verdict, outcome)) more) :
    Chronicle runId (lines ++ more) (js ++ [⟨item, verdict, outcome⟩]) := by
  have hworked : worked ((js ++ [Judged.mk item verdict outcome]).map Judged.reported) =
      worked (js.map Judged.reported) ++ worked [Judged.reported ⟨item, verdict, outcome⟩] := by
    rw [List.map_append, worked, List.filter_append]
    rfl
  cases haccords with
  | skipped =>
    refine ⟨?_, List.forall_mem_append.2 ⟨h.success, List.forall_mem_singleton.2 ?_⟩⟩
    · rw [hworked]
      exact List.rel_append h.tells .nil
    · exact fun hverdict => absurd rfl hverdict
  | told hnot hsuccess htells =>
    have hlast : worked [Judged.reported ⟨item, verdict, outcome⟩] =
        [Judged.reported ⟨item, verdict, outcome⟩] := by
      simp [worked, Judged.reported, hnot]
    refine ⟨?_, List.forall_mem_append.2 ⟨h.success, List.forall_mem_singleton.2 ?_⟩⟩
    · rw [hworked, hlast]
      exact List.rel_append h.tells (.cons htells .nil)
    · exact fun _ => hsuccess

theorem countP_of_forall₂ {β γ : Type} {R : β → γ → Prop} {f : β → Bool} {g : γ → Bool}
    {xs : List β} {ys : List γ} (h : List.Forall₂ R xs ys) (hsame : ∀ x y, R x y → f x = g y) :
    xs.countP f = ys.countP g := by
  induction h with
  | nil => rfl
  | cons hxy _ ih => rw [List.countP_cons, List.countP_cons, ih, hsame _ _ hxy]

/-- There are as many lines of a status as items of the verdict that goes with it. -/
theorem Chronicle.countP (h : Chronicle runId lines js) (status : String) (verdict : Verdict)
    (hstatus : ∀ success : Bool, decide ((if success then "success" else "failure") = status) =
      decide (success = decide (verdict = .optimized))) (hverdict : verdict ≠ .skipped) :
    lines.countP (Log.status? · = some status) = js.countP (·.verdict = verdict) := by
  have htells := countP_of_forall₂ (f := fun line => decide (Log.status? line = some status))
    (g := fun i => decide (i.outcome.success = decide (verdict = .optimized))) h.tells
    fun line i hline => by simpa [hline.status] using hstatus i.outcome.success
  rw [htells, worked, List.countP_filter, List.countP_map]
  refine List.countP_congr fun j hj => ?_
  have hsuccess := h.success j hj
  rcases j with ⟨_, _ | _ | _, outcome⟩ <;> cases verdict <;> simp_all [Judged.reported]

theorem Chronicle.addAll (h : Chronicle runId lines js) :
    let r := Report.addAll { runId } js
    List.Forall₂ (Log.Tells runId) lines (worked r.items) ∧ lines.length = r.processed ∧
      lines.countP (Log.status? · = some "success") = r.optimized ∧
      lines.countP (Log.status? · = some "failure") = r.errored := by
  have htally := Report.tallies_addAll runId js
  have hsuccess := h.countP "success" .optimized (by decide) (by decide)
  have hfailure := h.countP "failure" .errored (by decide) (by decide)
  -- what is not skipped is what is processed
  have hlength := h.tells.length_eq
  have hsplit := List.length_eq_countP_add_countP (·.skipped) (l := js.map Judged.reported)
  have hskipped := htally.flagged
  have htotal := htally.total
  rw [htally.items] at hskipped htotal
  rw [worked, ← List.countP_eq_length_filter] at hlength
  simp only [Bool.not_eq_true, Bool.decide_eq_false] at hsplit
  exact ⟨htally.items ▸ h.tells, by omega, hsuccess.trans htally.optimized.symm,
    hfailure.trans htally.errored.symm⟩

end

section
variable {disk : Part σ Disk} {Fair : σ → Prop} {p : Path} {items : List Item}
  {c : Collaborators σ}

/-- After some of the items, the log has grown by the lines that tell of them. -/
def Chronicled (disk : Part σ Disk) (Fair : σ → Prop) (p : Path) (items : List Item)
    (runId : String) (start : σ) (js : List Judged) (s : σ) : Prop :=
  (∀ j ∈ js, j.item ∈ items) →
    ∃ lines, Adds disk Fair p lines start s ∧ Chronicle runId lines js

theorem Chronicled.aside {runId : String} {start s : σ} {js : List Judged} {act : StateM σ α}
    (h : Chronicled disk Fair p items runId start js s) (hact : Aside disk Fair p act) :
    Chronicled disk Fair p items runId start js (act s).2 := by
  intro hitems
  obtain ⟨lines, hadds, hchronicle⟩ := h hitems
  have hmore := hadds.trans (hact.adds hadds.fair)
  rw [List.append_nil] at hmore
  exact ⟨lines, hmore, hchronicle⟩

theorem keeps_chronicled (h : Logs disk Fair p items c) (config : Option RuleSet) (runId : String)
    (start : σ) : Keeps c config runId (Chronicled disk Fair p items runId start)
      (fun js item _ s => item ∈ items → Chronicled disk Fair p items runId start js s) where
  cancelled hinv := hinv.aside h.cancelled
  progress x hinv := hinv.aside (h.progress x)
  judged {js s item verdict outcome s'} hinv hprocess hitems := by
    obtain ⟨lines, hadds, hchronicle⟩ := hinv fun j hj => hitems j (List.mem_append_left _ hj)
    have hitem := hitems ⟨item, verdict, outcome⟩ (List.mem_append_right _ List.mem_cons_self)
    obtain ⟨more, hmore, haccords⟩ := process_adds h hitem hadds.fair hprocess
    exact ⟨lines ++ more, hadds.trans hmore, hchronicle.concat haccords⟩
  stopped {js s item e s'} hinv hprocess hitem hitems := by
    obtain ⟨lines, hadds, hchronicle⟩ := hinv hitems
    obtain ⟨more, hmore, haccords⟩ := process_adds h hitem hadds.fair hprocess
    cases haccords
    have hnone := hadds.trans hmore
    rw [List.append_nil] at hnone
    exact ⟨lines, hnone, hchronicle⟩

/-- The log of a run grows by one line for each item that is reported and not skipped, in the order of
the report.  Each line is a single one and tells the run, the item and what came of it, and the lines
of each status are as many as the report counts.  A run that ends without a report has told of the items
before the one that ended it. -/
theorem run_logs (h : Logs disk Fair p items c) {s : σ} (hs : Fair s) (config : Option RuleSet)
    (runId : String) :
    ∃ lines, (disk.get (run c config runId items s).2).bytesAt (p.place (disk.get s).cwd) =
        (disk.get s).bytesAt (p.place (disk.get s).cwd) ++ (String.join lines).toUTF8 ∧
      match (run c config runId items s).1 with
      | .ok report =>
        List.Forall₂ (Log.Tells runId) lines (worked report.items) ∧
        lines.length = report.processed ∧
        lines.countP (Log.status? · = some "success") = report.optimized ∧
        lines.countP (Log.status? · = some "failure") = report.errored
      | .error _ => ∃ (js : List Judged) (item : Item), js.map Judged.item ++ [item] <+: items ∧
        List.Forall₂ (Log.Tells runId) lines (worked (js.map Judged.reported)) := by
  have hstart : Chronicled disk Fair p items runId s [] s := fun _ => ⟨[], .refl hs, .nil runId⟩
  have hended := run_ended (keeps_chronicled h config runId s) items s hstart
  rcases hrun : run c config runId items s with ⟨answer, s'⟩
  rw [hrun] at hended
  have hmem : ∀ {js : List Judged}, js.map Judged.item <+: items → ∀ j ∈ js, j.item ∈ items :=
    fun hdone j hj => hdone.subset (List.mem_map_of_mem hj)
  cases hended with
  | @finished js _ hinv hitems =>
    obtain ⟨lines, hadds, hchronicle⟩ := hinv (hmem (hitems ▸ List.prefix_rfl))
    exact ⟨lines, hadds.bytes, hchronicle.addAll⟩
  | @cancelled js _ hinv hitems =>
    obtain ⟨lines, hadds, hchronicle⟩ := hinv (hmem hitems)
    exact ⟨lines, hadds.bytes, hchronicle.addAll⟩
  | @stopped js item e _ hstop hitems =>
    have hdone : js.map Judged.item <+: items := (List.prefix_append _ _).trans hitems
    obtain ⟨lines, hadds, hchronicle⟩ := hstop (hitems.subset (by simp)) (hmem hdone)
    exact ⟨lines, hadds.bytes, js, item, hitems, hchronicle.tells⟩

end

/-- Collaborators on a disk alone, with a log and an optimizer that knows one document. -/
def logging : Collaborators Disk :=
  onDisk Part.whole
    (fun svg _ => pure (if svg = "<svg>\n</svg>" then
      .ok { success := true, markup := some "<svg/>", originalSize := .int 11 }
      else .error (.fault ⟨.runtime, "overloaded"⟩)))
    (some ⟨"", ["log"]⟩) (fun _ => pure ()) (fun _ => pure ()) (pure false) (pure .zero)

/-- A disk with two sources and a log that has a line already. -/
def loggedDisk : Disk :=
  { nodes := [(["log"], .file "earlier\n".toUTF8), (["a.tsx"], .file "x<svg></svg>y".toUTF8),
      (["b.tsx"], .file "<svg>x</svg>".toUTF8)] }

def loggedItems : List Item :=
  ["a.tsx", "b.tsx", "c.tsx"].map (fun name => fileItem ⟨"", [name]⟩) ++
    [{ identifier := "d", content := .text "no markup" }]

theorem worksOn_logging : WorksOn Part.whole logging := ⟨_, rfl⟩

theorem calm_logging : Calm Part.whole logging where
  kept _ _ := rfl
  submit _ _ _ := rfl
  warn _ _ := rfl
  progress _ _ := rfl
  cancelled _ := rfl
  clock _ := rfl

theorem logging_answers {markup : String} {config : Option RuleSet} {s s' : Disk} {o : Outcome}
    (h : logging.submit markup config s = (.ok o, s')) : o.success = true ∧ o.Writable := by
  have hanswer := (Prod.mk.inj h).1
  split at hanswer
  · obtain rfl := Except.ok.inj hanswer
    exact ⟨rfl, ⟨by decide +kernel, trivial⟩, ⟨rfl, trivial⟩, ⟨rfl, trivial⟩⟩
  · exact absurd hanswer (by simp)

/-- An icon that is optimized, one that is refused and a file that is missing have a line each, and
content without markup has none. -/
theorem run_logs_logging :
    Logs Part.whole (Stands Part.whole [] ⟨"", ["log"]⟩) ⟨"", ["log"]⟩ loggedItems logging ∧
    Stands Part.whole [] ⟨"", ["log"]⟩ loggedDisk ∧
    ((run logging none "batch" loggedItems loggedDisk).1.toOption.map fun r =>
      (r.processed, r.optimized, r.errored, r.skipped)) = some (3, 1, 2, 1) ∧
    ∃ lines, (run logging none "batch" loggedItems loggedDisk).2.bytesAt ["log"] =
        "earlier\n".toUTF8 ++ (String.join lines).toUTF8 ∧ lines.length = 3 := by
  have hlogs : Logs Part.whole (Stands Part.whole [] ⟨"", ["log"]⟩) ⟨"", ["log"]⟩ loggedItems
      logging :=
    logs_onDisk worksOn_logging calm_logging rfl (by decide) logging_answers (by decide +kernel)
  have hstands : Stands Part.whole [] ⟨"", ["log"]⟩ loggedDisk :=
    ⟨rfl, by decide +kernel, "earlier\n".toUTF8, rfl⟩
  have hwhole : ∀ d, (Part.whole : Part Disk Disk).get d = d := fun _ => rfl
  have hplace : (⟨"", ["log"]⟩ : Path).place loggedDisk.cwd = ["log"] := rfl
  have hbefore : loggedDisk.bytesAt ["log"] = "earlier\n".toUTF8 := rfl
  have hcounts : ((run logging none "batch" loggedItems loggedDisk).1.toOption.map fun r =>
      (r.processed, r.optimized, r.errored, r.skipped)) = some (3, 1, 2, 1) := by decide +kernel
  refine ⟨hlogs, hstands, hcounts, ?_⟩
  obtain ⟨lines, htold⟩ := run_logs hlogs hstands none "batch"
  rw [hwhole, hwhole, hplace, hbefore] at htold
  generalize (run logging none "batch" loggedItems loggedDisk).1 = answer at hcounts htold
  obtain ⟨hbytes, htold⟩ := htold
  refine ⟨lines, hbytes, ?_⟩
  cases answer with
  | error e => exact absurd hcounts (by simp [Except.toOption])
  | ok report => exact htold.2.1.trans (Prod.mk.inj (Option.some.inj hcounts)).1

/-- A log that is an item itself is written over when the item is, and does not begin any more with
what it held. -/
theorem run_logs_logged_item :
    let p : Path := ⟨"", ["log"]⟩
    let start : Disk := { nodes := [(["log"], .file "<svg>\n</svg>\n".toUTF8)] }
    let done := run logging none "batch" [fileItem p] start
    (∀ markup config s o s', logging.submit markup config s = (.ok o, s') → o.success = true) ∧
    Stands Part.whole [] p start ∧
    done.1.toOption.map (fun r => (r.processed, r.optimized, r.errored)) = some (1, 1, 0) ∧
    ∀ lines, done.2.bytesAt ["log"] ≠ start.bytesAt ["log"] ++ (String.join lines).toUTF8 := by
  intro p start done
  have hbyte : (done.2.bytesAt ["log"]).data[4]? = some 47 := by decide +kernel
  have hheld : (start.bytesAt ["log"]).data[4]? = some 62 := by decide +kernel
  refine ⟨fun _ _ _ _ _ h => (logging_answers h).1,
    ⟨rfl, by decide +kernel, "<svg>\n</svg>\n".toUTF8, rfl⟩, by decide +kernel, ?_⟩
  intro lines hgrown
  have hinside : 4 < (start.bytesAt ["log"]).data.size := (Array.getElem?_eq_some_iff.1 hheld).1
  rw [hgrown, ByteArray.data_append, Array.getElem?_append_left hinside, hheld] at hbyte
  exact absurd hbyte (by decide)

end Batch
end SvgIcon
