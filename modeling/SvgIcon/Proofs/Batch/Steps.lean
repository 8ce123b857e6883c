import SvgIcon.Batch.Run
import SvgIcon.Proofs.Computation

/-!
What a batch run can do.  Work on an item ends in one of a few exits, each with the calls that were
made and the states between them; a run keeps whatever every exit keeps.
-/

namespace SvgIcon
namespace Batch

open Rules

variable {σ : Type}

/-! ## Reading and logging -/

section
variable {c : Collaborators σ} {runId : String} {item : Item} {s s' : σ}

theorem content_given (hpath : item.path = none) :
    content c item s = (.ok (item.content.text?.getD ""), s) := by
  rw [content, hpath]
  rfl

theorem content_file {p : Path} {answer : Except Fault String} (hpath : item.path = some p)
    (hread : c.read p s = (answer, s')) :
    content c item s = (answer.mapError (readFault item.identifier), s') := by
  rw [content, hpath]
  exact bind_of_eq hread

variable {path : Path} {append : Log.Entry → StateM σ (Except Fault Unit)} {outcome : Outcome}
  {ms : Double} {f : Fault}

theorem record_unlogged (hlog : c.log = none) :
    record c runId item outcome ms s = (.ok (), s) := by
  rw [record, hlog]
  rfl

theorem record_logged (hlog : c.log = some (path, append))
    (happend : append { runId, source := item.identifier, outcome, elapsedMs := ms } s =
      (.ok (), s')) : record c runId item outcome ms s = (.ok (), s') := by
  rw [record, hlog]
  exact bind_of_eq happend

theorem record_warned (hlog : c.log = some (path, append))
    (happend : append { runId, source := item.identifier, outcome, elapsedMs := ms } s =
      (.error f, s')) (hsystem : f.kind.isSystem = true) :
    ∃ text, record c runId item outcome ms s = (.ok (), (c.warn text s').2) := by
  refine ⟨s!"Could not append to run log {path.text}: {f.text}", ?_⟩
  rw [record, hlog]
  refine (bind_of_eq happend).trans ?_
  simp only [hsystem, if_true]
  exact bind_of_eq rfl

theorem record_raised (hlog : c.log = some (path, append))
    (happend : append { runId, source := item.identifier, outcome, elapsedMs := ms } s =
      (.error f, s')) (hsystem : f.kind.isSystem = false) :
    record c runId item outcome ms s = (.error (.fault f), s') := by
  rw [record, hlog]
  refine (bind_of_eq happend).trans ?_
  simp only [hsystem]
  rfl

end

/-- The exits of logging what came of an item. -/
inductive Recorded (c : Collaborators σ) (runId : String) (item : Item) (outcome : Outcome)
    (ms : Double) (s : σ) : Except Raised Unit → σ → Prop
  | unlogged (hlog : c.log = none) : Recorded c runId item outcome ms s (.ok ()) s
  | logged {path append s'} (hlog : c.log = some (path, append))
      (happend : append { runId, source := item.identifier, outcome, elapsedMs := ms } s =
        (.ok (), s')) : Recorded c runId item outcome ms s (.ok ()) s'
  | warned {path append f s₁} (text : String) (hlog : c.log = some (path, append))
      (happend : append { runId, source := item.identifier, outcome, elapsedMs := ms } s =
        (.error f, s₁)) (hsystem : f.kind.isSystem = true) :
      Recorded c runId item outcome ms s (.ok ()) (c.warn text s₁).2
  | raised {path append f s'} (hlog : c.log = some (path, append))
      (happend : append { runId, source := item.identifier, outcome, elapsedMs := ms } s =
        (.error f, s')) (hsystem : f.kind.isSystem = false) :
      Recorded c runId item outcome ms s (.error (.fault f)) s'

theorem record_exits (c : Collaborators σ) (runId : String) (item : Item) (outcome : Outcome)
    (ms : Double) (s : σ) :
    Recorded c runId item outcome ms s (record c runId item outcome ms s).1
      (record c runId item outcome ms s).2 := by
  cases hlog : c.log with
  | none =>
    rw [record_unlogged hlog]
    exact .unlogged hlog
  | some log =>
    obtain ⟨path, append⟩ := log
    rcases happend : append { runId, source := item.identifier, outcome, elapsedMs := ms } s
      with ⟨f | _, s₁⟩
    · cases hsystem : f.kind.isSystem with
      | true =>
        obtain ⟨text, hrecord⟩ := record_warned hlog happend hsystem
        rw [hrecord]
        exact .warned text hlog happend hsystem
      | false =>
        rw [record_raised hlog happend hsystem]
        exact .raised hlog happend hsystem
    · rw [record_logged hlog happend]
      exact .logged hlog happend

theorem recorded_of_eq {c : Collaborators σ} {runId : String} {item : Item} {outcome : Outcome}
    {ms : Double} {s s' : σ} {answer : Except Raised Unit}
    (h : record c runId item outcome ms s = (answer, s')) :
    Recorded c runId item outcome ms s answer s' := by
  have hexit := record_exits c runId item outcome ms s
  rwa [h] at hexit

/-! ## Exits -/

section
variable (c : Collaborators σ) (config : Option RuleSet) (runId : String) (item : Item)

/-- The exits of an attempt to put optimized markup into a text. -/
inductive Attempted (text element : List Char) (s : σ) : Except Raised Outcome → σ → Prop
  | refused {e s'}
      (hsubmit : c.submit (String.ofList (Markup.ofComponent element)) config s = (.error e, s')) :
      Attempted text element s (.error e) s'
  | unembedded {o e s₁ s'}
      (hsubmit : c.submit (String.ofList (Markup.ofComponent element)) config s = (.ok o, s₁))
      (hreembed : c.reembed o.markupText s₁ = (.error e, s')) :
      Attempted text element s (.error e) s'
  | embedded {o new done s₁ s₂ s'}
      (hsubmit : c.submit (String.ofList (Markup.ofComponent element)) config s = (.ok o, s₁))
      (hreembed : c.reembed o.markupText s₁ = (.ok new, s₂))
      (hpersist : c.persist item (String.ofList (Text.replaceFirst element new.toList text)) s₂ =
        (done, s')) :
      Attempted text element s (done.map fun _ => o) s'

/-- The exits of the work on an item. -/
inductive Processed (s : σ) : Except Raised (Verdict × Outcome) → σ → Prop
  | unread {f logged s₁ s'} (hcontent : content c item s = (.error (.failure f), s₁))
      (hrecord : record c runId item (.ofFailure f []) .zero s₁ = (logged, s')) :
      Processed s (logged.map fun _ => (.errored, .ofFailure f [])) s'
  | unknown {e s'} (hcontent : content c item s = (.error e, s')) (hother : ∀ f, e ≠ .failure f) :
      Processed s (.error e) s'
  | unmarked {text s'} (hcontent : content c item s = (.ok text, s'))
      (hextract : Markup.extract? text.toList = none) :
      Processed s (.ok (.skipped, noMarkup)) s'
  | interrupted {text element answer e s₁ s'} (hcontent : content c item s = (.ok text, s₁))
      (hextract : Markup.extract? text.toList = some element)
      (hattempt : Attempted c config item text.toList element (c.clock s₁).2 answer s')
      (hjudge : judge answer = .error e) :
      Processed s (.error e) s'
  | judged {text element answer verdict outcome ms logged s₁ s₂ s'}
      (hcontent : content c item s = (.ok text, s₁))
      (hextract : Markup.extract? text.toList = some element)
      (hattempt : Attempted c config item text.toList element (c.clock s₁).2 answer s₂)
      (hjudge : judge answer = .ok (verdict, outcome))
      (hrecord : record c runId item outcome ms (c.clock s₂).2 = (logged, s')) :
      Processed s (logged.map fun _ => (verdict, outcome)) s'

theorem attempt_exits (text element : List Char) (s : σ) :
    Attempted c config item text element s (attempt c config item text element s).1
      (attempt c config item text element s).2 := by
  rcases hsubmit : c.submit (String.ofList (Markup.ofComponent element)) config s with ⟨e | o, s₁⟩
  · have hall : attempt c config item text element s = (.error e, s₁) := bind_of_eq hsubmit
    rw [hall]
    exact .refused hsubmit
  rcases hreembed : c.reembed o.markupText s₁ with ⟨e | new, s₂⟩
  · have hall : attempt c config item text element s = (.error e, s₂) :=
      (bind_of_eq hsubmit).trans (bind_of_eq hreembed)
    rw [hall]
    exact .unembedded hsubmit hreembed
  rcases hpersist : c.persist item (String.ofList (Text.replaceFirst element new.toList text)) s₂
    with ⟨done, s₃⟩
  have hall : attempt c config item text element s = (done.map fun _ => o, s₃) :=
    (bind_of_eq hsubmit).trans ((bind_of_eq hreembed).trans (bind_of_eq hpersist))
  rw [hall]
  exact .embedded hsubmit hreembed hpersist

theorem process_exits (s : σ) :
    Processed c config runId item s (process c config runId item s).1
      (process c config runId item s).2 := by
  rcases hcontent : content c item s with ⟨e | text, s₁⟩
  · rcases e with f | f | _
    · rcases hrecord : record c runId item (.ofFailure f []) .zero s₁ with ⟨logged, s₂⟩
      have hall : process c config runId item s =
          (logged.map fun _ => (.errored, .ofFailure f []), s₂) :=
        (bind_of_eq hcontent).trans (bind_of_eq hrecord)
      rw [hall]
      exact .unread hcontent hrecord
    · have hall : process c config runId item s = (.error (.fault f), s₁) := bind_of_eq hcontent
      rw [hall]
      exact .unknown hcontent (by simp)
    · have hall : process c config runId item s = (.error .interrupt, s₁) := bind_of_eq hcontent
      rw [hall]
      exact .unknown hcontent (by simp)
  rcases hextract : Markup.extract? text.toList with _ | element
  · have hall : process c config runId item s = (.ok (.skipped, noMarkup), s₁) := by
      rw [process, bind_of_eq hcontent]
      simp only [hextract]
      rfl
    rw [hall]
    exact .unmarked hcontent hextract
  have hattempt := attempt_exits c config item text.toList element (c.clock s₁).2
  rcases heq : attempt c config item text.toList element (c.clock s₁).2 with ⟨answer, s₂⟩
  rw [heq] at hattempt
  rcases hjudge : judge answer with e | ⟨verdict, outcome⟩
  · have hall : process c config runId item s = (.error e, s₂) := by
      rw [process, bind_of_eq hcontent]
      simp only [hextract]
      rw [bind_of_eq (rfl : c.clock s₁ = _), bind_of_eq heq]
      simp only [hjudge]
      rfl
    rw [hall]
    exact .interrupted hcontent hextract hattempt hjudge
  rcases hrecord : record c runId item outcome (elapsed (c.clock s₁).1 (c.clock s₂).1)
    (c.clock s₂).2 with ⟨logged, s₃⟩
  have hall : process c config runId item s = (logged.map fun _ => (verdict, outcome), s₃) := by
    rw [process, bind_of_eq hcontent]
    simp only [hextract]
    rw [bind_of_eq (rfl : c.clock s₁ = _), bind_of_eq heq]
    simp only [hjudge]
    rw [bind_of_eq (rfl : c.clock s₂ = _), bind_of_eq hrecord]
    rfl
  rw [hall]
  exact .judged hcontent hextract hattempt hjudge hrecord

variable {c config runId item}

theorem processed_of_eq {s s' : σ} {answer : Except Raised (Verdict × Outcome)}
    (h : process c config runId item s = (answer, s')) :
    Processed c config runId item s answer s' := by
  have hexit := process_exits c config runId item s
  rwa [h] at hexit

end

/-! ## Runs -/

/-- An item that a run has worked on, and what it came to. -/
structure Judged where
  item : Item
  verdict : Verdict
  outcome : Outcome

/-- What is reported of the item. -/
def Judged.reported (j : Judged) : ItemOutcome :=
  { identifier := j.item.identifier, outcome := j.outcome, skipped := j.verdict = .skipped }

namespace Report

def addAll (r : Report) (js : List Judged) : Report :=
  js.foldl (fun r j => r.add j.item.identifier j.verdict j.outcome) r

theorem addAll_concat (r : Report) (js : List Judged) (j : Judged) :
    r.addAll (js ++ [j]) = (r.addAll js).add j.item.identifier j.verdict j.outcome := by
  rw [addAll, List.foldl_append]
  rfl

theorem add_runId (r : Report) (identifier : String) (verdict : Verdict) (outcome : Outcome) :
    (r.add identifier verdict outcome).runId = r.runId := by
  cases verdict <;> rfl

theorem addAll_runId (r : Report) (js : List Judged) : (r.addAll js).runId = r.runId := by
  induction js generalizing r with
  | nil => rfl
  | cons j js ih => exact (ih _).trans (add_runId r _ _ _)

theorem add_cancelled (r : Report) (identifier : String) (verdict : Verdict) (outcome : Outcome) :
    (r.add identifier verdict outcome).cancelled = r.cancelled := by
  cases verdict <;> rfl

theorem addAll_cancelled (r : Report) (js : List Judged) : (r.addAll js).cancelled = r.cancelled := by
  induction js generalizing r with
  | nil => rfl
  | cons j js ih => exact (ih _).trans (add_cancelled r _ _ _)

theorem add_items (r : Report) (j : Judged) :
    (r.add j.item.identifier j.verdict j.outcome).items = r.items ++ [j.reported] := by
  obtain ⟨item, verdict, outcome⟩ := j
  cases verdict <;> rfl

theorem addAll_items (r : Report) (js : List Judged) :
    (r.addAll js).items = r.items ++ js.map Judged.reported := by
  induction js generalizing r with
  | nil => exact (List.append_nil _).symm
  | cons j js ih =>
    refine (ih _).trans ?_
    rw [add_items, List.append_assoc]
    rfl

end Report

section
variable (c : Collaborators σ) (config : Option RuleSet) (runId : String)
  (Inv : List Judged → σ → Prop) (Stop : List Judged → Item → Raised → σ → Prop)

/-- What is kept by all that a run does.  `Stop` holds where the work on an item ends the run. -/
structure Keeps : Prop where
  cancelled : ∀ {js s}, Inv js s → Inv js (c.cancelled s).2
  progress : ∀ {js s} (x : Double), Inv js s → Inv js (c.progress x s).2
  judged : ∀ {js s item verdict outcome s'}, Inv js s →
    process c config runId item s = (.ok (verdict, outcome), s') →
    Inv (js ++ [⟨item, verdict, outcome⟩]) s'
  stopped : ∀ {js s item e s'}, Inv js s → process c config runId item s = (.error e, s') →
    Stop js item e s'

/-- The ends of a run over some items. -/
inductive Ended (items : List Item) : Except Raised Report → σ → Prop
  | finished {js s} (hinv : Inv js s) (hitems : js.map Judged.item = items) :
      Ended items (.ok (Report.addAll { runId } js)) s
  | cancelled {js s} (hinv : Inv js s) (hitems : js.map Judged.item <+: items) :
      Ended items (.ok { Report.addAll { runId } js with cancelled := true }) s
  | stopped {js item e s} (hstop : Stop js item e s)
      (hitems : js.map Judged.item ++ [item] <+: items) : Ended items (.error e) s

variable {c config runId Inv Stop}

theorem runFrom_ended (h : Keeps c config runId Inv Stop) (total : Nat) (items : List Item)
    (js : List Judged) (index : Nat) (s : σ) (hinv : Inv js s) :
    Ended runId Inv Stop (js.map Judged.item ++ items)
      (runFrom c config total (Report.addAll { runId } js) index items s).1
      (runFrom c config total (Report.addAll { runId } js) index items s).2 := by
  -- induction on the items that are left; `js` are the ones behind
  induction items generalizing js index s with
  | nil => exact .finished hinv (List.append_nil _).symm
  | cons item items ih =>
    have hasked := h.cancelled hinv
    rcases hcancelled : c.cancelled s with ⟨b, s₁⟩
    rw [hcancelled] at hasked
    cases b with
    | true =>
      have hall : runFrom c config total (Report.addAll { runId } js) index (item :: items) s =
          (.ok { Report.addAll { runId } js with cancelled := true }, s₁) := bind_of_eq hcancelled
      rw [hall]
      exact .cancelled hasked (List.prefix_append _ _)
    | false =>
      rcases hprocess : process c config runId item s₁ with ⟨e | ⟨verdict, outcome⟩, s₂⟩
      · have hall : runFrom c config total (Report.addAll { runId } js) index (item :: items) s =
            (.error e, s₂) := by
          rw [runFrom, bind_of_eq hcancelled, if_neg Bool.false_ne_true, Report.addAll_runId]
          exact bind_of_eq hprocess
        have hitems : js.map Judged.item ++ [item] <+: js.map Judged.item ++ item :: items :=
          (List.prefix_append_right_inj _).2 ⟨items, rfl⟩
        rw [hall]
        exact .stopped (h.stopped hasked hprocess) hitems
      · have hall : runFrom c config total (Report.addAll { runId } js) index (item :: items) s =
            runFrom c config total (Report.addAll { runId } (js ++ [⟨item, verdict, outcome⟩]))
              (index + 1) items (c.progress (progressAt index total) s₂).2 := by
          rw [runFrom, bind_of_eq hcancelled, if_neg Bool.false_ne_true, Report.addAll_runId,
            Report.addAll_concat]
          exact (bind_of_eq hprocess).trans (bind_of_eq rfl)
        have hnext := ih (js ++ [⟨item, verdict, outcome⟩]) (index + 1) _
          (h.progress (progressAt index total) (h.judged hasked hprocess))
        rw [hall]
        simpa using hnext

theorem run_ended (h : Keeps c config runId Inv Stop) (items : List Item) (s : σ)
    (hinv : Inv [] s) :
    Ended runId Inv Stop items (run c config runId items s).1 (run c config runId items s).2 :=
  runFrom_ended h items.length items [] 0 _ (h.progress .zero hinv)

end

/-! ## What every collaborator keeps -/

def Kept {α : Type} (I : σ → Prop) (act : StateM σ α) : Prop := ∀ s, I s → I (act s).2

theorem Kept.of_eq {α : Type} {I : σ → Prop} {act : StateM σ α} (h : Kept I act) {s s' : σ} {a : α}
    (hs : I s) (heq : act s = (a, s')) : I s' := by
  have hkept := h s hs
  rwa [heq] at hkept

structure Upholds (c : Collaborators σ) (I : σ → Prop) : Prop where
  read : ∀ p, Kept I (c.read p)
  submit : ∀ markup config, Kept I (c.submit markup config)
  reembed : ∀ markup, Kept I (c.reembed markup)
  persist : ∀ item text, Kept I (c.persist item text)
  log : ∀ {path append}, c.log = some (path, append) → ∀ e, Kept I (append e)
  warn : ∀ text, Kept I (c.warn text)
  progress : ∀ x, Kept I (c.progress x)
  cancelled : Kept I c.cancelled
  clock : Kept I c.clock

namespace Upholds

variable {c : Collaborators σ} {I : σ → Prop} (h : Upholds c I) (config : Option RuleSet)
  (runId : String) (item : Item)
include h

theorem content : Kept I (content c item) := by
  intro s hs
  cases hpath : item.path with
  | none => rwa [content_given hpath]
  | some p =>
    rw [content_file hpath rfl]
    exact h.read p s hs

theorem record (outcome : Outcome) (ms : Double) : Kept I (record c runId item outcome ms) := by
  intro s hs
  rcases hrecord : Batch.record c runId item outcome ms s with ⟨answer, s'⟩
  cases recorded_of_eq hrecord with
  | unlogged => exact hs
  | logged hlog happend => exact (h.log hlog _).of_eq hs happend
  | warned text hlog happend => exact h.warn text _ ((h.log hlog _).of_eq hs happend)
  | raised hlog happend => exact (h.log hlog _).of_eq hs happend

theorem attempted {text element : List Char} {s s' : σ} {answer : Except Raised Outcome} (hs : I s)
    (hattempt : Attempted c config item text element s answer s') : I s' := by
  cases hattempt with
  | refused hsubmit => exact (h.submit _ _).of_eq hs hsubmit
  | unembedded hsubmit hreembed =>
    exact (h.reembed _).of_eq ((h.submit _ _).of_eq hs hsubmit) hreembed
  | embedded hsubmit hreembed hpersist =>
    exact (h.persist _ _).of_eq ((h.reembed _).of_eq ((h.submit _ _).of_eq hs hsubmit) hreembed)
      hpersist

theorem process : Kept I (process c config runId item) := by
  intro s hs
  rcases hprocess : Batch.process c config runId item s with ⟨answer, s'⟩
  cases processed_of_eq hprocess with
  | unread hcontent hrecord =>
    exact (h.record runId item _ _).of_eq ((h.content item).of_eq hs hcontent) hrecord
  | unknown hcontent => exact (h.content item).of_eq hs hcontent
  | unmarked hcontent => exact (h.content item).of_eq hs hcontent
  | interrupted hcontent _ hattempt =>
    exact h.attempted config item (h.clock _ ((h.content item).of_eq hs hcontent)) hattempt
  | judged hcontent _ hattempt _ hrecord =>
    have hworked := h.attempted config item (h.clock _ ((h.content item).of_eq hs hcontent)) hattempt
    exact (h.record runId item _ _).of_eq (h.clock _ hworked) hrecord

/-- What every collaborator keeps, a run keeps. -/
theorem run (items : List Item) : Kept I (run c config runId items) := by
  intro s hs
  have hkeeps : Keeps c config runId (fun _ s => I s) (fun _ _ _ s => I s) :=
    { cancelled := h.cancelled _
      progress := fun x => h.progress x _
      judged := fun hs hprocess => (h.process config runId _).of_eq hs hprocess
      stopped := fun hs hprocess => (h.process config runId _).of_eq hs hprocess }
  have hended := run_ended hkeeps items s hs
  rcases hrun : Batch.run c config runId items s with ⟨answer, s'⟩
  rw [hrun] at hended
  cases hended with
  | finished hs' => exact hs'
  | cancelled hs' => exact hs'
  | stopped hs' => exact hs'

end Upholds

end Batch
end SvgIcon
