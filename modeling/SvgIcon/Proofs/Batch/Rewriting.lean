import SvgIcon.Proofs.Batch.Accounting
import SvgIcon.Proofs.Batch.Replacement
import SvgIcon.Proofs.Batch.Rerun
import SvgIcon.Proofs.File.LineEnds
import SvgIcon.Proofs.File.Places

/-!
What a batch run writes to a file.  Only an item that is counted optimized changes the file that it
leads to: the file then holds the text that was read, with the first span replaced.  What stands
around the span is what stood around it before, but for line ends, which have all become line feeds.
-/

namespace SvgIcon
namespace Batch

open Rules Markup Text

variable {σ α : Type}

/-! ## The work on a file -/

/-- What is done leaves the disk as it is. -/
def Spares (disk : Part σ Disk) (act : StateM σ α) : Prop :=
  ∀ s, disk.get (act s).2 = disk.get s

/-- Nobody but the run and its log writes to the disk. -/
structure Calm (disk : Part σ Disk) (c : Collaborators σ) : Prop where
  /-- The disk that was set is the one that is there. -/
  kept : ∀ d s, disk.get (disk.set d s) = d
  submit : ∀ svg config, Spares disk (c.submit svg config)
  warn : ∀ text, Spares disk (c.warn text)
  progress : ∀ x, Spares disk (c.progress x)
  cancelled : Spares disk c.cancelled
  clock : Spares disk c.clock

theorem Spares.of_eq {disk : Part σ Disk} {act : StateM σ α} {s s' : σ} {a : α}
    (h : Spares disk act) (heq : act s = (a, s')) : disk.get s' = disk.get s := by
  have hs := h s
  rwa [heq] at hs

/-- What comes of writing an item over the file at a path. -/
def written (item : Item) (p : Path) : Except Raised Unit :=
  if p.EndsInName then .ok ()
  else
    .error (.failure
      (.persistence s!"Failed to write {item.identifier}: {(Disk.unwritable p).text}"))

section
variable {disk : Part σ Disk} {c : Collaborators σ} {config : Option RuleSet} {runId : String}
  {item : Item} {p : Path} {place : Place} {d : Disk} {s s' : σ} {text : String} {sp : Span}
  {bytes : ByteArray}

theorem isSystem_unwritable (p : Path) : (Disk.unwritable p).kind.isSystem = true := by
  rw [Disk.unwritable]
  split <;> rfl

theorem writeItem_of_file (hpath : item.path = some p) (hplace : d.locate p = .ok place)
    (hfile : d.find? place = some (.file bytes)) (text : String) : ∃ d',
    writeItem item text d = (written item p, d') ∧
      (p.EndsInName → d' = d.put place (.file text.toUTF8)) ∧
      (¬ p.EndsInName → d'.nodes = d.nodes ∧ d'.cwd = d.cwd) := by
  have hrun : writeItem item text d =
      (((Disk.writeText p text .utf8).run d).1.mapError (fun f =>
        if f.kind.isSystem then
          .failure (.persistence s!"Failed to write {item.identifier}: {f.text}")
        else .fault f),
      ((Disk.writeText p text .utf8).run d).2) := by
    rw [writeItem, hpath]
    rfl
  by_cases hname : p.EndsInName
  · refine ⟨_, ?_, fun _ => rfl, fun h => absurd hname h⟩
    rw [hrun, Disk.writeText_eq hname hplace hfile, written, if_pos hname]
    rfl
  · obtain ⟨d', hwrite, hsame⟩ := Disk.writeText_refused hname hplace hfile text
    refine ⟨d', ?_, fun h => absurd h hname, fun _ => hsame⟩
    rw [hrun, hwrite, written, if_neg hname]
    simp [Except.mapError, isSystem_unwritable]

variable (hwork : WorksOn disk c) (hcalm : Calm disk c)
include hwork hcalm

theorem read_of_content {had : Except Raised String} (hpath : item.path = some p)
    (hcontent : content c item s = (had, s')) :
    had = ((disk.get s).readText p).mapError (readFault item.identifier) ∧
      disk.get s' = disk.get s := by
  rw [content_file hpath (hwork.read_eq s)] at hcontent
  obtain ⟨rfl, rfl⟩ := Prod.mk.inj hcontent
  exact ⟨rfl, hcalm.kept _ _⟩

theorem readText_of_content (hpath : item.path = some p)
    (hcontent : content c item s = (.ok text, s')) :
    (disk.get s).readText p = .ok text ∧ disk.get s' = disk.get s := by
  obtain ⟨hread, hdisk⟩ := read_of_content hwork hcalm hpath hcontent
  refine ⟨?_, hdisk⟩
  cases hthere : (disk.get s).readText p with
  | error f => simp [hthere, Except.mapError] at hread
  | ok there => simpa [hthere, Except.mapError, eq_comm] using hread

theorem fault_of_content {e : Raised} (hpath : item.path = some p)
    (hcontent : content c item s = (.error e, s')) :
    (∃ f, (disk.get s).readText p = .error f ∧ readFault item.identifier f = e) ∧
      disk.get s' = disk.get s := by
  obtain ⟨hread, hdisk⟩ := read_of_content hwork hcalm hpath hcontent
  refine ⟨?_, hdisk⟩
  cases hthere : (disk.get s).readText p with
  | error f => exact ⟨f, rfl, by simpa [hthere, Except.mapError, eq_comm] using hread⟩
  | ok there => simp [hthere, Except.mapError] at hread

/-- An attempt on a file that answers with an outcome has put the text with the span replaced in the
place of the file; one that does not has changed nothing that stands anywhere. -/
theorem attempted_on_file (hpath : item.path = some p) (hplace : (disk.get s).locate p = .ok place)
    (hfile : (disk.get s).find? place = some (.file bytes)) (hspan : sp.IsFirst text.toList)
    {answer : Except Raised Outcome}
    (hattempt : Attempted c config item text.toList sp.element s answer s') :
    answer = ((c.submit (submitted sp) config s).1 >>= fun o => (written item p).map fun _ => o) ∧
    (∀ o, answer = .ok o → disk.get s' = (disk.get s).put place
      (.file (replaced sp (asComponentMarkup o.markupText)).toUTF8)) ∧
    (∀ e, answer = .error e →
      (disk.get s').nodes = (disk.get s).nodes ∧ (disk.get s').cwd = (disk.get s).cwd) := by
  have hsubmitted : submitted sp = String.ofList (ofComponent sp.element) := rfl
  cases hattempt with
  | refused hsubmit =>
    rw [hsubmitted, hsubmit, (hcalm.submit _ _).of_eq hsubmit]
    exact ⟨rfl, nofun, fun _ _ => ⟨rfl, rfl⟩⟩
  | unembedded hsubmit hreembed =>
    rw [hwork.reembed_eq] at hreembed
    exact absurd (Prod.mk.inj hreembed).1 (by simp)
  | @embedded o new done s₁ s₂ s' hsubmit hreembed hpersist =>
    rw [hwork.reembed_eq] at hreembed
    obtain ⟨hnew, rfl⟩ := Prod.mk.inj hreembed
    obtain rfl := Except.ok.inj hnew
    have hdisk := (hcalm.submit _ _).of_eq hsubmit
    rw [replaceFirst_element hspan, hwork.persist_eq] at hpersist
    obtain ⟨hdone, rfl⟩ := Prod.mk.inj hpersist
    rw [hdisk] at hdone ⊢
    obtain ⟨d', hwrite, hput, hkept⟩ := writeItem_of_file hpath hplace hfile
      (replaced sp (asComponentMarkup o.markupText))
    have hwritten : writeItem item
        (String.ofList (sp.before ++ (asComponentMarkup o.markupText).toList ++ sp.behind))
        (disk.get s) = (written item p, d') := hwrite
    rw [hwritten] at hdone ⊢
    obtain rfl := hdone
    rw [hcalm.kept, hsubmitted, hsubmit]
    refine ⟨rfl, fun o' ho => ?_, fun e he => hkept fun hname => ?_⟩
    · have hname : p.EndsInName := by
        by_contra hname
        simp [written, hname, Except.map] at ho
      simp only [written, hname, if_true, Except.map] at ho
      rw [hput hname, Except.ok.inj ho]
    · simp [written, hname, Except.map] at he

end

/-! ## The bytes of a file -/

/-- A file that held a text holds it with the first span replaced by the markup of an outcome, and
with every line end around the span a line feed.  So the bytes around the span are what they were
exactly when no carriage return stood there. -/
def Rewrites (outcome : Outcome) (bytes bytes' : ByteArray) : Prop :=
  ∃ (text : String) (sp : Span), bytes = text.toUTF8 ∧ sp.IsFirst text.toList ∧
    bytes' = (replaced sp.unified (asComponentMarkup outcome.markupText)).toUTF8 ∧
    (bytes' = (replaced sp (asComponentMarkup outcome.markupText)).toUTF8 ↔
      '\r' ∉ sp.before ∧ '\r' ∉ sp.behind)

/-- One after the other. -/
inductive Rewritten : List Outcome → ByteArray → ByteArray → Prop
  | nil (bytes : ByteArray) : Rewritten [] bytes bytes
  | concat {outcomes : List Outcome} {outcome : Outcome} {bytes bytes' bytes'' : ByteArray}
      (h : Rewritten outcomes bytes bytes') (hlast : Rewrites outcome bytes' bytes'') :
      Rewritten (outcomes ++ [outcome]) bytes bytes''

theorem replaced_unified_iff (sp : Span) (new : String) :
    replaced sp.unified new = replaced sp new ↔ '\r' ∉ sp.before ∧ '\r' ∉ sp.behind := by
  rw [← unifyLines_around_iff sp.before new.toList sp.behind]
  exact String.ofList_inj

theorem rewrites_replaced {text : String} {sp : Span} (hspan : sp.IsFirst text.toList)
    (outcome : Outcome) : Rewrites outcome text.toUTF8
      (replaced sp.unified (asComponentMarkup outcome.markupText)).toUTF8 :=
  ⟨text, sp, rfl, hspan, rfl, String.toByteArray_inj.trans (replaced_unified_iff sp _)⟩

/-- The place holds a file with these bytes. -/
structure Holds (disk : Part σ Disk) (cwd q : Place) (bytes : ByteArray) (s : σ) : Prop where
  cwd : (disk.get s).cwd = cwd
  find? : (disk.get s).find? q = some (.file bytes)

/-- The item has been counted optimized, and its path leads to the place. -/
def Judged.Rewrote (cwd q : Place) (j : Judged) : Prop :=
  j.verdict = .optimized ∧ j.item.path.map (·.place cwd) = some q

instance (cwd q : Place) : DecidablePred (Judged.Rewrote cwd q) :=
  fun _ => inferInstanceAs (Decidable (_ ∧ _))

section
variable {disk : Part σ Disk} {c : Collaborators σ} {config : Option RuleSet} {runId : String}
  {item : Item} {p : Path} {cwd q : Place} {s s' : σ} {bytes : ByteArray}

theorem Holds.of_eq (h : Holds disk cwd q bytes s) (heq : disk.get s' = disk.get s) :
    Holds disk cwd q bytes s' :=
  ⟨by rw [heq, h.cwd], by rw [heq, h.find?]⟩

variable (hwork : WorksOn disk c) (hcalm : Calm disk c)
  (hlog : ∀ path append, c.log = some (path, append) → path.place cwd ≠ q)
include hwork hcalm hlog

theorem append_holds {path : Path} {append : Log.Entry → StateM σ (Except Fault Unit)}
    (hsome : c.log = some (path, append)) (h : Holds disk cwd q bytes s) (entry : Log.Entry) :
    Holds disk cwd q bytes (append entry s).2 := by
  have helse := hlog path append hsome
  obtain ⟨log, hc⟩ := hwork
  rw [hc] at hsome
  obtain ⟨_, _, heq⟩ := Option.map_eq_some_iff.1 hsome
  obtain ⟨rfl, rfl⟩ := Prod.mk.inj heq
  rw [← h.cwd] at helse
  obtain ⟨hfind, hcwd⟩ := Disk.appendText_elsewhere entry.line helse.symm h.find?
  constructor
  · show (disk.get (disk.set _ s)).cwd = cwd
    rw [hcalm.kept]
    exact hcwd.trans h.cwd
  · show (disk.get (disk.set _ s)).find? q = _
    rw [hcalm.kept]
    exact hfind

theorem record_holds (runId : String) (item : Item) (h : Holds disk cwd q bytes s)
    (outcome : Outcome) (ms : Double) :
    Holds disk cwd q bytes (record c runId item outcome ms s).2 := by
  have happended : ∀ {path append}, c.log = some (path, append) → ∀ {e a s'},
      append e s = (a, s') → Holds disk cwd q bytes s' := by
    intro path append hsome e a s' happend
    have hholds := append_holds hwork hcalm hlog hsome h e
    rwa [happend] at hholds
  rcases hrecord : record c runId item outcome ms s with ⟨answer, s'⟩
  cases recorded_of_eq hrecord with
  | unlogged => exact h
  | logged hsome happend => exact happended hsome happend
  | warned text hsome happend => exact (happended hsome happend).of_eq (hcalm.warn text _)
  | raised hsome happend => exact happended hsome happend

omit hlog in
/-- An attempt on the file that is at the place rewrites it if it comes to an outcome; every other
one leaves the place alone. -/
theorem attempted_holds (hpath : item.path = some p) (h : Holds disk cwd q bytes s) {text : String}
    (hread : (disk.get s).readText p = .ok text) {element : List Char}
    (hextract : extract? text.toList = some element) {tried : Except Raised Outcome}
    (hattempt : Attempted c config item text.toList element s tried s') :
    (∀ e, tried = .error e → Holds disk cwd q bytes s') ∧
    ∀ o, tried = .ok o →
      if p.place cwd = q then ∃ bytes', Rewrites o bytes bytes' ∧ Holds disk cwd q bytes' s'
      else Holds disk cwd q bytes s' := by
  obtain ⟨place, there, hplace, hfile, rfl⟩ := Disk.exists_text_of_readText hread
  rw [String.toList_ofList] at hextract
  obtain ⟨sp, hspan, hunified, rfl⟩ := exists_span_of_extract? hextract
  obtain ⟨_, hput, hkept⟩ := attempted_on_file hwork hcalm hpath hplace hfile
    (by rwa [String.toList_ofList]) hattempt
  obtain hspelled : place = p.place cwd := by rw [Disk.locate_spelled hplace, h.cwd]
  refine ⟨fun e he => ?_, fun o ho => ?_⟩
  · obtain ⟨hnodes, hcwd⟩ := hkept e he
    refine ⟨hcwd.trans h.cwd, ?_⟩
    rw [Disk.find?, hnodes]
    exact h.find?
  · have hdisk := hput o ho
    have hcwd : (disk.get s').cwd = cwd := by
      rw [hdisk]
      exact h.cwd
    by_cases hq : p.place cwd = q
    · rw [if_pos hq]
      obtain rfl : place = q := hspelled.trans hq
      obtain rfl : bytes = there.toUTF8 := by
        have hsame := h.find?.symm.trans hfile
        exact (Node.file.inj (Option.some.inj hsame))
      refine ⟨_, rewrites_replaced hspan o, hcwd, ?_⟩
      rw [hdisk]
      exact Disk.find?_put_self _ (Disk.ne_nil_of_find? hfile)
    · rw [if_neg hq]
      refine ⟨hcwd, ?_⟩
      rw [hdisk, Disk.find?_put_of_ne _ fun heq => hq (hspelled.symm.trans heq.symm)]
      exact h.find?

theorem process_holds (hpath : item.path = some p) (h : Holds disk cwd q bytes s)
    {verdict : Verdict} {outcome : Outcome}
    (hprocess : process c config runId item s = (.ok (verdict, outcome), s')) :
    if Judged.Rewrote cwd q ⟨item, verdict, outcome⟩ then
      ∃ bytes', Rewrites outcome bytes bytes' ∧ Holds disk cwd q bytes' s'
    else Holds disk cwd q bytes s' := by
  generalize hanswer : (Except.ok (verdict, outcome) : Except Raised (Verdict × Outcome)) = answer
    at hprocess
  cases processed_of_eq hprocess with
  | @unread f logged s₁ s' hcontent hrecord =>
    obtain ⟨_, hdisk⟩ := fault_of_content hwork hcalm hpath hcontent
    have hverdict : verdict ≠ .optimized := by
      cases logged <;> simp_all [Except.map]
    rw [if_neg fun hrewrote => hverdict hrewrote.1]
    have hrecorded := record_holds hwork hcalm hlog runId item (h.of_eq hdisk)
      (.ofFailure f []) .zero
    rwa [hrecord] at hrecorded
  | unknown hcontent hother => exact absurd hanswer (by simp)
  | unmarked hcontent hextract =>
    obtain ⟨rfl, rfl⟩ := Prod.mk.inj (Except.ok.inj hanswer)
    rw [if_neg fun hrewrote => absurd hrewrote.1 (by simp)]
    exact h.of_eq (readText_of_content hwork hcalm hpath hcontent).2
  | interrupted hcontent hextract hattempt hjudge => exact absurd hanswer (by simp)
  | @judged text element tried verdict' outcome' ms logged s₁ s₂ s' hcontent hextract hattempt
      hjudge hrecord =>
    obtain ⟨htext, hdisk⟩ := readText_of_content hwork hcalm hpath hcontent
    have hverdict : verdict' = verdict ∧ outcome' = outcome := by
      cases logged <;> simp_all [Except.map]
    obtain ⟨rfl, rfl⟩ := hverdict
    have hclock : disk.get (c.clock s₁).2 = disk.get s := (hcalm.clock s₁).trans hdisk
    obtain ⟨hfailed, hdone⟩ := attempted_holds hwork hcalm hpath (h.of_eq hclock) (hclock ▸ htext)
      hextract hattempt
    -- telling the time and logging change nothing more
    have hend : ∀ {bytes'}, Holds disk cwd q bytes' s₂ → Holds disk cwd q bytes' s' := by
      intro bytes' hbytes
      have hrecorded := record_holds hwork hcalm hlog runId item
        (hbytes.of_eq (hcalm.clock s₂)) outcome' ms
      rwa [hrecord] at hrecorded
    cases tried with
    | error e =>
      have hnot : verdict' ≠ .optimized := by
        rintro rfl
        rcases e with f | f | _ <;> simp [judge] at hjudge
      rw [if_neg fun hrewrote => hnot hrewrote.1]
      exact hend (hfailed e rfl)
    | ok o =>
      obtain ⟨rfl, rfl⟩ := Prod.mk.inj (Except.ok.inj hjudge)
      have hiff : Judged.Rewrote cwd q ⟨item, .optimized, o⟩ ↔ p.place cwd = q := by
        simp [Judged.Rewrote, hpath]
      have hafter := hdone o rfl
      by_cases hq : p.place cwd = q
      · rw [if_pos hq] at hafter
        rw [if_pos (hiff.2 hq)]
        obtain ⟨bytes', hrewrites, hholds⟩ := hafter
        exact ⟨bytes', hrewrites, hend hholds⟩
      · rw [if_neg hq] at hafter
        rw [if_neg fun hrewrote => hq (hiff.1 hrewrote)]
        exact hend hafter

end

/-! ## Runs -/

/-- The outcomes by which items have rewritten the file at a place, in the order of the run. -/
def rewriting (cwd q : Place) (js : List Judged) : List Outcome :=
  (js.filter fun j => j.Rewrote cwd q).map Judged.outcome

theorem rewriting_concat (cwd q : Place) (js : List Judged) (j : Judged) :
    rewriting cwd q (js ++ [j]) =
      rewriting cwd q js ++ if j.Rewrote cwd q then [j.outcome] else [] := by
  rw [rewriting, rewriting, List.filter_append, List.map_append]
  split <;> simp [*]

section
variable {disk : Part σ Disk} {c : Collaborators σ} {config : Option RuleSet} {runId : String}
  {cwd q : Place} {bytes : ByteArray}

/-- After items that are files, the file at the place has been rewritten by those that count. -/
def Chained (disk : Part σ Disk) (cwd q : Place) (bytes : ByteArray) (js : List Judged) (s : σ) :
    Prop :=
  (∀ j ∈ js, j.item.path ≠ none) →
    ∃ bytes', Holds disk cwd q bytes' s ∧ Rewritten (rewriting cwd q js) bytes bytes'

theorem Chained.of_eq {js : List Judged} {s s' : σ} (h : Chained disk cwd q bytes js s)
    (heq : disk.get s' = disk.get s) : Chained disk cwd q bytes js s' := by
  intro hpaths
  obtain ⟨bytes', hholds, hchain⟩ := h hpaths
  exact ⟨bytes', hholds.of_eq heq, hchain⟩

theorem keeps_chained (config : Option RuleSet) (runId : String) (hwork : WorksOn disk c)
    (hcalm : Calm disk c)
    (hlog : ∀ path append, c.log = some (path, append) → path.place cwd ≠ q) :
    Keeps c config runId (Chained disk cwd q bytes) fun _ _ _ _ => True where
  cancelled hinv := hinv.of_eq (hcalm.cancelled _)
  progress x hinv := hinv.of_eq (hcalm.progress x _)
  judged {js s item verdict outcome s'} hinv hprocess hpaths := by
    obtain ⟨bytes', hholds, hchain⟩ := hinv fun j hj => hpaths j (List.mem_append_left _ hj)
    obtain ⟨p, hpath⟩ := Option.ne_none_iff_exists'.1
      (hpaths ⟨item, verdict, outcome⟩ (List.mem_append_right _ List.mem_cons_self))
    have hstep := process_holds hwork hcalm hlog hpath hholds hprocess
    rw [rewriting_concat]
    by_cases hrewrote : Judged.Rewrote cwd q ⟨item, verdict, outcome⟩
    · rw [if_pos hrewrote] at hstep ⊢
      obtain ⟨bytes'', hlast, hafter⟩ := hstep
      exact ⟨bytes'', hafter, hchain.concat hlast⟩
    · rw [if_neg hrewrote] at hstep
      rw [if_neg hrewrote, List.append_nil]
      exact ⟨bytes', hstep, hchain⟩
  stopped _ _ := trivial

theorem path_of_mem_itemsAt {d : Disk} {paths : List Path} {items : List Item}
    (h : itemsAt d paths = .ok items) {item : Item} (hitem : item ∈ items) : item.path ≠ none := by
  rw [itemsAt] at h
  cases hfiles : d.filesAtAll Disk.componentSuffixes paths with
  | error f => simp [hfiles, Except.map] at h
  | ok files =>
    rw [hfiles] at h
    obtain rfl := Except.ok.inj h
    obtain ⟨p, _, rfl⟩ := List.mem_map.1 hitem
    simp

/-- A run over files that ends in a report has rewritten a file once for each item that it counts
optimized and that leads there, and not otherwise.  A rewriting replaces the first span, and leaves
the bytes around it as they are exactly when no carriage return stands among them. -/
theorem runFiles_rewrites (hwork : WorksOn disk c) (hcalm : Calm disk c) {paths : List Path}
    {s s' : σ} {report : Report}
    (hrun : runFiles disk c config runId paths s = (.ok report, s')) {q : Place}
    (hfile : (disk.get s).find? q = some (.file bytes))
    (hlog : ∀ path append, c.log = some (path, append) → path.place (disk.get s).cwd ≠ q) :
    ∃ items js bytes', itemsAt (disk.get s) paths = .ok items ∧ js.map Judged.item <+: items ∧
      report.Tallies js ∧ (disk.get s').find? q = some (.file bytes') ∧
      Rewritten (rewriting (disk.get s).cwd q js) bytes bytes' := by
  have hget : (get : StateM σ σ) s = (s, s) := rfl
  rw [runFiles, bind_of_eq hget] at hrun
  cases hitems : itemsAt (disk.get s) paths with
  | error f =>
    rw [hitems] at hrun
    exact absurd (Prod.mk.inj hrun).1 (by simp)
  | ok items =>
    rw [hitems] at hrun
    have hrun : run c config runId items s = (.ok report, s') := hrun
    have hended := run_ended (keeps_chained config runId hwork hcalm hlog) items s fun _ =>
      ⟨bytes, ⟨rfl, hfile⟩, .nil bytes⟩
    rw [hrun] at hended
    have hpaths : ∀ {js : List Judged}, js.map Judged.item <+: items →
        ∀ j ∈ js, j.item.path ≠ none := fun hdone j hj =>
      path_of_mem_itemsAt hitems (hdone.subset (List.mem_map_of_mem hj))
    cases hended with
    | @finished js _ hinv hall =>
      have hdone : js.map Judged.item <+: items := hall ▸ List.prefix_refl _
      obtain ⟨bytes', hholds, hchain⟩ := hinv (hpaths hdone)
      exact ⟨items, js, bytes', rfl, hdone, Report.tallies_addAll runId js, hholds.find?, hchain⟩
    | @cancelled js _ hinv hdone =>
      obtain ⟨bytes', hholds, hchain⟩ := hinv (hpaths hdone)
      have htallies := Report.tallies_addAll runId js
      exact ⟨items, js, bytes', rfl, hdone,
        ⟨htallies.items, htallies.optimized, htallies.errored, htallies.skipped,
          htallies.processed, htallies.total⟩, hholds.find?, hchain⟩

end

/-- Collaborators that work on a disk alone, with a client that answers by a function. -/
def scripted (answer : String → Option RuleSet → Except Raised Outcome) : Collaborators Disk :=
  onDisk Part.whole (fun svg config => pure (answer svg config)) none
    (fun _ => pure ()) (fun _ => pure ()) (pure false) (pure .zero)

theorem worksOn_scripted (answer : String → Option RuleSet → Except Raised Outcome) :
    WorksOn Part.whole (scripted answer) := ⟨none, rfl⟩

theorem calm_scripted (answer : String → Option RuleSet → Except Raised Outcome) :
    Calm Part.whole (scripted answer) where
  kept _ _ := rfl
  submit _ _ _ := rfl
  warn _ _ := rfl
  progress _ _ := rfl
  cancelled _ := rfl
  clock _ := rfl

theorem calm_echoing : Calm Part.whole echoing := calm_scripted _

/-- A source whose lines end in a carriage return and a line feed. -/
def crlfSource : String := "x\r\n<svg></svg>\r\ny"

theorem runFiles_rewrites_crlf :
    WorksOn Part.whole echoing ∧ Calm Part.whole echoing ∧
    (diskWith crlfSource).find? ["a.tsx"] = some (.file crlfSource.toUTF8) ∧
    (∀ path append, echoing.log = some (path, append) → path.place [] ≠ ["a.tsx"]) ∧
    ∃ report s', runFiles Part.whole echoing none "first" [onlyPath] (diskWith crlfSource) =
        (.ok report, s') ∧
      ∃ items js bytes', itemsAt (diskWith crlfSource) [onlyPath] = .ok items ∧
        js.map Judged.item <+: items ∧ report.Tallies js ∧
        s'.find? ["a.tsx"] = some (.file bytes') ∧
        Rewritten (rewriting [] ["a.tsx"] js) crlfSource.toUTF8 bytes' := by
  have hcounted :
      ((runFiles Part.whole echoing none "first" [onlyPath] (diskWith crlfSource)).1.toOption.map
        (·.optimized)) = some 1 := by decide +kernel
  rcases hrun : runFiles Part.whole echoing none "first" [onlyPath] (diskWith crlfSource) with
    ⟨e | report, s'⟩
  · rw [hrun] at hcounted
    exact absurd hcounted (by simp [Except.toOption])
  · exact ⟨worksOn_echoing, calm_echoing, rfl, nofun, report, s', rfl,
      runFiles_rewrites worksOn_echoing calm_echoing hrun rfl nofun⟩

/-- Whatever takes the place of the span, the bytes around it are not kept. -/
theorem runFiles_rewrites_carriageReturns :
    let done := runFiles Part.whole echoing none "first" [onlyPath] (diskWith crlfSource)
    span? crlfSource.toList = some ⟨"x\r\n".toList, "<svg></svg>".toList, "\r\ny".toList⟩ ∧
    (diskWith crlfSource).read onlyPath = .ok crlfSource.toUTF8 ∧
    done.1.toOption.map (·.optimized) = some 1 ∧
    done.2.read onlyPath = .ok "x\n<svg> </svg>\ny".toUTF8 ∧
    ∀ new, done.2.read onlyPath ≠
      .ok (replaced ⟨"x\r\n".toList, "<svg></svg>".toList, "\r\ny".toList⟩ new).toUTF8 := by
  intro done
  have hread : done.2.read onlyPath = .ok "x\n<svg> </svg>\ny".toUTF8 := by decide +kernel
  refine ⟨by decide +kernel, by decide +kernel, by decide +kernel, hread, fun new hnew => ?_⟩
  rw [hread] at hnew
  have hsame := String.toByteArray_inj.1 (Except.ok.inj hnew)
  have hchars : 'x' :: '\n' :: "<svg> </svg>\ny".toList =
      'x' :: '\r' :: '\n' :: (new.toList ++ "\r\ny".toList) :=
    (congrArg String.toList hsame).trans String.toList_ofList
  have hsecond : '\n' = '\r' := (List.cons.inj (List.cons.inj hchars).2).1
  exact absurd hsecond (by decide)

end Batch
end SvgIcon
