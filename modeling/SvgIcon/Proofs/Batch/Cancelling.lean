import SvgIcon.Proofs.Batch.Accounting
import SvgIcon.Proofs.Batch.Replacement

/-!
Cancelling a batch run.  All that happens in a run is noted, and with each happening whether the event
that cancels is set by then.  The event is looked at between items only: an item that is begun is worked
on to its end, and once the event is set no other one is begun.
-/

namespace SvgIcon
namespace Batch

open Rules Markup

variable {σ α : Type}

/-! ## What happens in a run -/

inductive Happening
  /-- Whether the run is cancelled has been asked. -/
  | asked (answer : Bool)
  | call (c : Call)
  | logged (e : Log.Entry) (answer : Except Fault Unit)
  | warned (text : String)
  /-- The part of the run that is done has been told. -/
  | told (x : Double)

/-- What happened, and whether the event was set after it. -/
structure Moment where
  happening : Happening
  set : Bool

def happened (event : σ → Bool) (happening : α → Happening) (act : StateM σ α) :
    StateM (σ × List Moment) α := fun x =>
  ((act x.1).1, ((act x.1).2, x.2 ++ [⟨happening (act x.1).1, event (act x.1).2⟩]))

def Collaborators.followed (c : Collaborators σ) (event : σ → Bool) :
    Collaborators (σ × List Moment) where
  read p := happened event (fun a => .call (.read p a)) (c.read p)
  submit markup config := happened event (fun a => .call (.submit markup a)) (c.submit markup config)
  reembed markup := happened event (fun a => .call (.reembed markup a)) (c.reembed markup)
  persist item text := happened event (fun a => .call (.persist item text a)) (c.persist item text)
  log := c.log.map fun log => (log.1, fun e => happened event (.logged e) (log.2 e))
  warn text := happened event (fun _ => .warned text) (c.warn text)
  progress x := happened event (fun _ => .told x) (c.progress x)
  cancelled := happened event .asked c.cancelled
  clock := fun x => ((c.clock x.1).1, ((c.clock x.1).2, x.2))

section
variable {c : Collaborators σ} {event : σ → Bool} {path : Path}

theorem followed_log_some {append : Log.Entry → StateM (σ × List Moment) (Except Fault Unit)}
    (h : (c.followed event).log = some (path, append)) : ∃ append', c.log = some (path, append') ∧
      append = fun e => happened event (.logged e) (append' e) := by
  obtain ⟨log, hlog, heq⟩ := Option.map_eq_some_iff.1 h
  obtain ⟨rfl, rfl⟩ := Prod.mk.inj heq
  exact ⟨log.2, hlog, rfl⟩

theorem followed_log_none : (c.followed event).log = none ↔ c.log = none :=
  Option.map_eq_none_iff

theorem beside_followed (c : Collaborators σ) (event : σ → Bool) : Beside (c.followed event) c where
  read _ _ _ := ⟨rfl, rfl⟩
  submit _ _ _ _ := ⟨rfl, rfl⟩
  reembed _ _ _ := ⟨rfl, rfl⟩
  persist _ _ _ _ := ⟨rfl, rfl⟩
  unlogged := followed_log_none.2
  logged hlog := ⟨_, by rw [Collaborators.followed, hlog]; rfl, fun _ _ _ => ⟨rfl, rfl⟩⟩
  warn _ _ _ := ⟨rfl, rfl⟩
  progress _ _ _ := ⟨rfl, rfl⟩
  cancelled _ _ := ⟨rfl, rfl⟩
  clock _ _ := ⟨rfl, rfl⟩

end

/-! ## The event -/

/-- The event that cancels a run may become set in any call, and stays set.  The run sees it if it is
set when the run asks. -/
structure Scheduled (c : Collaborators σ) (event : σ → Bool) : Prop where
  stays : Upholds c (event · = true)
  seen : ∀ s, event s = true → (c.cancelled s).1 = true
  sees : ∀ s, (c.cancelled s).1 = true → event (c.cancelled s).2 = true

/-- Once the event is set it is set, and no item is begun. -/
def Bars (set : Bool) (m : Moment) : Prop :=
  set = true → m.set = true ∧ m.happening ≠ .asked false

/-- The moments of a run that began with the event set or not, up to the state that it has reached. -/
structure InTime (event : σ → Bool) (begun : Bool) (x : σ × List Moment) : Prop where
  ordered : x.2.Pairwise fun m m' => Bars m.set m'
  still : begun = true → event x.1 = true
  barred : ∀ m ∈ x.2, Bars begun m
  seen : ∀ m ∈ x.2, m.happening = .asked true → m.set = true
  latest : ∀ m ∈ x.2, m.set = true → event x.1 = true

theorem inTime_begin (event : σ → Bool) (s : σ) : InTime event (event s) (s, []) where
  ordered := .nil
  still := id
  barred := List.forall_mem_nil _
  seen := List.forall_mem_nil _
  latest := List.forall_mem_nil _

theorem kept_inTime {event : σ → Bool} {begun : Bool} {happening : α → Happening} {act : StateM σ α}
    (hstays : Kept (event · = true) act)
    (hseen : ∀ s, event s = true → happening (act s).1 ≠ .asked false)
    (hsees : ∀ s, happening (act s).1 = .asked true → event (act s).2 = true) :
    Kept (InTime event begun) (happened event happening act) := by
  rintro ⟨s, moments⟩ h
  have hbars : ∀ set, (set = true → event s = true) →
      Bars set ⟨happening (act s).1, event (act s).2⟩ := fun set hevent hset =>
    ⟨hstays s (hevent hset), hseen s (hevent hset)⟩
  constructor
  · refine List.pairwise_append.2 ⟨h.ordered, List.pairwise_singleton _ _, fun m hm m' hm' => ?_⟩
    rw [List.mem_singleton.1 hm']
    exact hbars m.set (h.latest m hm)
  · exact fun hbegun => hstays s (h.still hbegun)
  · refine List.forall_mem_append.2 ⟨h.barred, fun m hm => ?_⟩
    rw [List.mem_singleton.1 hm]
    exact hbars begun h.still
  · refine List.forall_mem_append.2 ⟨h.seen, fun m hm => ?_⟩
    rw [List.mem_singleton.1 hm]
    exact hsees s
  · refine List.forall_mem_append.2 ⟨fun m hm hset => hstays s (h.latest m hm hset), fun m hm => ?_⟩
    rw [List.mem_singleton.1 hm]
    exact id

theorem upholds_inTime {c : Collaborators σ} {event : σ → Bool} (hc : Scheduled c event)
    (begun : Bool) : Upholds (c.followed event) (InTime event begun) where
  read p := kept_inTime (hc.stays.read p) (fun _ _ => nofun) fun _ => nofun
  submit markup config := kept_inTime (hc.stays.submit markup config) (fun _ _ => nofun) fun _ => nofun
  reembed markup := kept_inTime (hc.stays.reembed markup) (fun _ _ => nofun) fun _ => nofun
  persist item text := kept_inTime (hc.stays.persist item text) (fun _ _ => nofun) fun _ => nofun
  log hlog e := by
    obtain ⟨append, hlog', rfl⟩ := followed_log_some hlog
    exact kept_inTime (hc.stays.log hlog' e) (fun _ _ => nofun) fun _ => nofun
  warn text := kept_inTime (hc.stays.warn text) (fun _ _ => nofun) fun _ => nofun
  progress x := kept_inTime (hc.stays.progress x) (fun _ _ => nofun) fun _ => nofun
  cancelled := by
    refine kept_inTime hc.stays.cancelled (fun s hs => ?_) fun s heq => ?_
    · rw [hc.seen s hs]
      simp
    · exact hc.sees s (Happening.asked.inj heq)
  clock := by
    rintro ⟨s, moments⟩ h
    exact ⟨h.ordered, fun hbegun => hc.stays.clock s (h.still hbegun), h.barred, h.seen,
      fun m hm hset => hc.stays.clock s (h.latest m hm hset)⟩

/-! ## The work on an item -/

/-- What happens when the log is told what came of an item. -/
inductive Entered (logs : Bool) (runId : String) (item : Item) (outcome : Outcome) :
    Except Raised Unit → List Happening → Prop
  | unlogged (hlogs : logs = false) : Entered logs runId item outcome (.ok ()) []
  | written (ms : Double) (hlogs : logs = true) : Entered logs runId item outcome (.ok ())
      [.logged { runId, source := item.identifier, outcome, elapsedMs := ms } (.ok ())]
  | warned (ms : Double) {f : Fault} (text : String) (hlogs : logs = true)
      (hsystem : f.kind.isSystem = true) : Entered logs runId item outcome (.ok ())
      [.logged { runId, source := item.identifier, outcome, elapsedMs := ms } (.error f),
        .warned text]
  | raised (ms : Double) {f : Fault} (hlogs : logs = true) (hsystem : f.kind.isSystem = false) :
      Entered logs runId item outcome (.error (.fault f))
      [.logged { runId, source := item.identifier, outcome, elapsedMs := ms } (.error f)]

/-- What happens in the work on an item: the calls of a course, to the end, and then the entry in the
log. -/
def Worked (logs : Bool) (runId : String) (item : Item) (answer : Except Raised (Verdict × Outcome))
    (made : List Happening) : Prop :=
  ∃ calls closing, made = calls.map .call ++ closing ∧ Course item answer calls ∧
    Closed (Entered logs runId item) answer closing

/-- What has happened by a state. -/
def happenings (x : σ × List Moment) : List Happening := x.2.map (·.happening)

section
variable {c : Collaborators σ} {event : σ → Bool} {config : Option RuleSet} {runId : String}
  {item : Item} {x x' : σ × List Moment}

theorem happenings_happened (event : σ → Bool) (f : α → Happening) (act : StateM σ α)
    (x : σ × List Moment) :
    happenings (happened event f act x).2 = happenings x ++ [f (act x.1).1] :=
  List.map_append

theorem happenings_of_eq {f : α → Happening} {act : StateM σ α} {a : α}
    (h : happened event f act x = (a, x')) : happenings x' = happenings x ++ [f a] := by
  obtain ⟨rfl, rfl⟩ := Prod.mk.inj h
  exact happenings_happened event f act x

theorem shows_followed (c : Collaborators σ) (event : σ → Bool) :
    Shows (c.followed event) happenings .call where
  read h := happenings_of_eq (f := fun a => .call (.read _ a)) h
  submit h := happenings_of_eq (f := fun a => .call (.submit _ a)) h
  reembed h := happenings_of_eq (f := fun a => .call (.reembed _ a)) h
  persist h := happenings_of_eq (f := fun a => .call (.persist _ _ a)) h
  clock _ := rfl

theorem record_enters {outcome : Outcome} {ms : Double} {answer : Except Raised Unit}
    (h : record (c.followed event) runId item outcome ms x = (answer, x')) :
    ∃ made, Entered c.log.isSome runId item outcome answer made ∧
      happenings x' = happenings x ++ made := by
  have hsome : ∀ {path append}, (c.followed event).log = some (path, append) →
      c.log.isSome = true ∧ ∀ {e y a y'}, append e y = (a, y') →
        happenings y' = happenings y ++ [.logged e a] := by
    intro path append hlog
    obtain ⟨append', hlog', rfl⟩ := followed_log_some hlog
    exact ⟨by rw [hlog']; rfl, fun happend => happenings_of_eq happend⟩
  cases recorded_of_eq h with
  | unlogged hlog =>
    refine ⟨[], .unlogged ?_, (List.append_nil _).symm⟩
    rw [followed_log_none.1 hlog]
    rfl
  | logged hlog happend =>
    obtain ⟨hlogs, hentry⟩ := hsome hlog
    exact ⟨_, .written ms hlogs, hentry happend⟩
  | @warned path append f x₁ text hlog happend hsystem =>
    obtain ⟨hlogs, hentry⟩ := hsome hlog
    refine ⟨_, .warned ms text hlogs hsystem, ?_⟩
    have hwarn : happenings ((c.followed event).warn text x₁).2 = happenings x₁ ++ [.warned text] :=
      happenings_happened event (fun _ => .warned text) (c.warn text) x₁
    rw [hwarn, hentry happend, List.append_assoc]
    rfl
  | raised hlog happend hsystem =>
    obtain ⟨hlogs, hentry⟩ := hsome hlog
    exact ⟨_, .raised ms hlogs hsystem, hentry happend⟩

theorem process_works {answer : Except Raised (Verdict × Outcome)}
    (h : process (c.followed event) config runId item x = (answer, x')) :
    ∃ made, Worked c.log.isSome runId item answer made ∧ happenings x' = happenings x ++ made := by
  obtain ⟨calls, closing, hcourse, hclosed, hmade⟩ :=
    process_shows (shows_followed c event) record_enters h
  exact ⟨_, ⟨calls, closing, rfl, hcourse, hclosed⟩, hmade⟩

end

/-! ## The run -/

/-- What happens in a run from an item on. -/
inductive Unfolds (logs : Bool) (total : Nat) :
    Report → Nat → List Item → Except Raised Report → List Happening → Prop
  | finished (report index) : Unfolds logs total report index [] (.ok report) []
  | cancelled (report index item rest) :
      Unfolds logs total report index (item :: rest) (.ok { report with cancelled := true })
        [.asked true]
  | stopped {report index item rest e made} (hwork : Worked logs report.runId item (.error e) made) :
      Unfolds logs total report index (item :: rest) (.error e) (.asked false :: made)
  | worked {report index item rest verdict outcome answer made more}
      (hwork : Worked logs report.runId item (.ok (verdict, outcome)) made)
      (hrest : Unfolds logs total (report.add item.identifier verdict outcome) (index + 1) rest
        answer more) :
      Unfolds logs total report index (item :: rest) answer
        (.asked false :: (made ++ .told (progressAt index total) :: more))

section
variable (c : Collaborators σ) (event : σ → Bool) (config : Option RuleSet)

theorem runFrom_unfolds (total : Nat) (report : Report) (index : Nat) (items : List Item)
    (x : σ × List Moment) : ∃ made,
      Unfolds c.log.isSome total report index items
        (runFrom (c.followed event) config total report index items x).1 made ∧
      happenings (runFrom (c.followed event) config total report index items x).2 =
        happenings x ++ made := by
  -- induction on the items that are left, as the run goes through them
  induction items generalizing report index x with
  | nil => exact ⟨[], .finished report index, (List.append_nil _).symm⟩
  | cons item items ih =>
    rcases hcancelled : (c.followed event).cancelled x with ⟨b, x₁⟩
    have hasked : happenings x₁ = happenings x ++ [.asked b] := happenings_of_eq hcancelled
    cases b with
    | true =>
      have hall : runFrom (c.followed event) config total report index (item :: items) x =
          (.ok { report with cancelled := true }, x₁) := bind_of_eq hcancelled
      rw [hall]
      exact ⟨_, .cancelled report index item items, hasked⟩
    | false =>
      rcases hprocess : process (c.followed event) config report.runId item x₁ with
        ⟨e | ⟨verdict, outcome⟩, x₂⟩
      · have hall : runFrom (c.followed event) config total report index (item :: items) x =
            (.error e, x₂) := by
          rw [runFrom, bind_of_eq hcancelled, if_neg Bool.false_ne_true]
          exact bind_of_eq hprocess
        obtain ⟨made, hwork, hmade⟩ := process_works hprocess
        rw [hall]
        exact ⟨_, .stopped hwork, by rw [hmade, hasked, List.append_assoc]; rfl⟩
      · have hall : runFrom (c.followed event) config total report index (item :: items) x =
            runFrom (c.followed event) config total (report.add item.identifier verdict outcome)
              (index + 1) items ((c.followed event).progress (progressAt index total) x₂).2 := by
          rw [runFrom, bind_of_eq hcancelled, if_neg Bool.false_ne_true]
          exact (bind_of_eq hprocess).trans (bind_of_eq rfl)
        have htold : happenings ((c.followed event).progress (progressAt index total) x₂).2 =
            happenings x₂ ++ [.told (progressAt index total)] :=
          happenings_happened event (fun _ => .told (progressAt index total)) (c.progress _) x₂
        obtain ⟨made, hwork, hmade⟩ := process_works hprocess
        obtain ⟨more, hrest, hmore⟩ := ih (report.add item.identifier verdict outcome) (index + 1)
          ((c.followed event).progress (progressAt index total) x₂).2
        rw [hall]
        refine ⟨_, .worked hwork hrest, ?_⟩
        rw [hmore, htold, hmade, hasked]
        simp only [List.append_assoc, List.cons_append, List.nil_append]

theorem run_unfolds (runId : String) (items : List Item) (x : σ × List Moment) : ∃ made,
      Unfolds c.log.isSome items.length { runId } 0 items
        (run (c.followed event) config runId items x).1 made ∧
      happenings (run (c.followed event) config runId items x).2 =
        happenings x ++ .told .zero :: made := by
  have htold : happenings ((c.followed event).progress .zero x).2 = happenings x ++ [.told .zero] :=
    happenings_happened event (fun _ => .told .zero) (c.progress .zero) x
  obtain ⟨made, hmade, hall⟩ := runFrom_unfolds c event config
    items.length { runId } 0 items ((c.followed event).progress .zero x).2
  refine ⟨made, hmade, hall.trans ?_⟩
  rw [htold, List.append_assoc]
  rfl

end

/-! ## Where it is cut -/

/-- What happens over items that are worked on: each is begun when the event is not seen, is worked on,
and then the progress is told. -/
def stretches (total : Nat) : Nat → List (Judged × List Happening) → List Happening
  | _, [] => []
  | index, x :: steps =>
    .asked false :: (x.2 ++ .told (progressAt index total) :: stretches total (index + 1) steps)

/-- How a run ends that has worked on the first items. -/
inductive Cut (logs : Bool) (report : Report) (items : List Item)
    (steps : List (Judged × List Happening)) : Except Raised Report → List Happening → Prop
  | finished (hitems : items = steps.map (·.1.item)) :
      Cut logs report items steps (.ok (report.addAll (steps.map Prod.fst))) []
  /-- The event has been seen, and nothing is done for the items that are left. -/
  | cancelled {left : List Item} (hleft : left ≠ []) (hitems : items = steps.map (·.1.item) ++ left) :
      Cut logs report items steps
        (.ok { report.addAll (steps.map Prod.fst) with cancelled := true }) [.asked true]
  | stopped {item : Item} {left : List Item} {e : Raised} {made : List Happening}
      (hwork : Worked logs report.runId item (.error e) made)
      (hitems : items = steps.map (·.1.item) ++ item :: left) :
      Cut logs report items steps (.error e) (.asked false :: made)

theorem Cut.cons {logs : Bool} {report : Report} {items : List Item} {j : Judged}
    {steps : List (Judged × List Happening)} {answer : Except Raised Report}
    {last : List Happening} (made : List Happening)
    (h : Cut logs (report.add j.item.identifier j.verdict j.outcome) items steps answer last) :
    Cut logs report (j.item :: items) ((j, made) :: steps) answer last := by
  cases h with
  | finished hitems => exact .finished (by rw [hitems]; rfl)
  | cancelled hleft hitems => exact .cancelled hleft (by rw [hitems]; rfl)
  | stopped hwork hitems =>
    rw [Report.add_runId] at hwork
    exact .stopped hwork (by rw [hitems]; rfl)

theorem Unfolds.cut {logs : Bool} {total : Nat} {report : Report} {index : Nat} {items : List Item}
    {answer : Except Raised Report} {made : List Happening}
    (h : Unfolds logs total report index items answer made) : ∃ steps last,
      made = stretches total index steps ++ last ∧ Cut logs report items steps answer last ∧
      ∀ x ∈ steps, Worked logs report.runId x.1.item (.ok (x.1.verdict, x.1.outcome)) x.2 := by
  induction h with
  | finished report index => exact ⟨[], [], rfl, .finished rfl, nofun⟩
  | cancelled report index item rest =>
    exact ⟨[], _, rfl, .cancelled (List.cons_ne_nil item rest) rfl, nofun⟩
  | stopped hwork => exact ⟨[], _, rfl, .stopped hwork rfl, nofun⟩
  | @worked report index item rest verdict outcome answer made more hwork _ ih =>
    obtain ⟨steps, last, rfl, hcut, hsteps⟩ := ih
    refine ⟨(⟨item, verdict, outcome⟩, made) :: steps, last, ?_,
      Cut.cons (j := ⟨item, verdict, outcome⟩) made hcut, ?_⟩
    · simp only [stretches, List.cons_append, List.append_assoc]
    · rw [Report.add_runId] at hsteps
      exact List.forall_mem_cons.2 ⟨hwork, hsteps⟩

/-- A report that is given lists the items that were worked on, and says that the run was cancelled if
and only if others are left. -/
theorem Cut.report {logs : Bool} {runId : String} {items : List Item}
    {steps : List (Judged × List Happening)} {answer : Except Raised Report} {r : Report}
    {last : List Happening} (h : Cut logs { runId } items steps answer last) (hr : answer = .ok r) :
    r = { Report.addAll { runId } (steps.map Prod.fst) with cancelled := r.cancelled } ∧
      r.items = steps.map (·.1.reported) ∧ (r.cancelled = true ↔ steps.length < items.length) := by
  have hnot : (Report.addAll { runId } (steps.map Prod.fst)).cancelled = false :=
    Report.addAll_cancelled _ _
  have hitems : (Report.addAll { runId } (steps.map Prod.fst)).items = steps.map (·.1.reported) := by
    rw [Report.addAll_items, List.map_map]
    rfl
  subst hr
  cases h with
  | finished hall =>
    refine ⟨rfl, hitems, ?_⟩
    rw [hnot, hall, List.length_map]
    simp
  | cancelled hleft hall =>
    refine ⟨rfl, hitems, ?_⟩
    have hlength := List.length_pos_iff.2 hleft
    rw [hall, List.length_append, List.length_map]
    simp only [true_iff]
    omega

/-- A run is cut between items.  It tells at the start that nothing is done; then come the stretches of
the items that it works on, each from a look at the event that does not see it, through the calls for
the item and its entry in the log, to the progress being told.  The first look that sees the event is
the last that happens.  Whatever call it becomes set in, the event bars all items that are not begun by
then.  The report lists the items that were worked on, and is cancelled exactly if others are left. -/
theorem run_cancels (c : Collaborators σ) {event : σ → Bool} (hc : Scheduled c event)
    (config : Option RuleSet) (runId : String) (items : List Item) (s : σ) :
    ∃ answer s' moments, run c config runId items s = (answer, s') ∧
      run (c.followed event) config runId items (s, []) = (answer, (s', moments)) ∧
      (moments.Pairwise fun m m' => Bars m.set m') ∧ (∀ m ∈ moments, Bars (event s) m) ∧
      (∀ m ∈ moments, m.happening = .asked true → m.set = true) ∧
      (∃ (steps : List (Judged × List Happening)) (last : List Happening),
        moments.map (·.happening) = .told .zero :: (stretches items.length 0 steps ++ last) ∧
        (∀ x ∈ steps, Worked c.log.isSome runId x.1.item (.ok (x.1.verdict, x.1.outcome)) x.2) ∧
        Cut c.log.isSome { runId } items steps answer last ∧
        ∀ r, answer = .ok r →
          r = { Report.addAll { runId } (steps.map Prod.fst) with cancelled := r.cancelled } ∧
          r.items = steps.map (·.1.reported) ∧
          (r.cancelled = true ↔ steps.length < items.length)) ∧
      (c.Steady → ∃ r, answer = .ok r) := by
  obtain ⟨hanswer, hstate⟩ := (beside_followed c event).run config runId items s []
  obtain ⟨made, hunfolds, hmade⟩ := run_unfolds c event config runId items (s, [])
  obtain ⟨steps, last, rfl, hcut, hsteps⟩ := hunfolds.cut
  have hkept : InTime event (event s) (run (c.followed event) config runId items (s, [])).2 :=
    (upholds_inTime hc (event s)).run config runId items (s, []) (inTime_begin event s)
  refine ⟨_, _, _, Prod.ext hanswer.symm hstate.symm, rfl, hkept.ordered, hkept.barred, hkept.seen,
    ⟨steps, last, hmade, hsteps, hcut, fun r => hcut.report⟩, fun hsteady => ?_⟩
  obtain ⟨r, hr⟩ := run_reports hsteady config runId items s
  exact ⟨r, hanswer.trans hr⟩

/-- The collaborators that count requests, and by the first one have enough. -/
def impatient : Collaborators Nat :=
  { unreliable with cancelled := fun n => (decide (0 < n), n) }

theorem run_cancels_impatient :
    Scheduled impatient (fun n => decide (0 < n)) ∧
    ((run impatient none "batch" assortment 0).1.toOption.map fun r =>
      (r.items.map (·.identifier), r.optimized, r.cancelled)) = some (["a"], 1, true) ∧
    ∃ answer s' moments, run impatient none "batch" assortment 0 = (answer, s') ∧
      run (impatient.followed fun n => decide (0 < n)) none "batch" assortment (0, []) =
        (answer, (s', moments)) ∧
      (moments.Pairwise fun m m' => Bars m.set m') ∧ (∀ m ∈ moments, Bars (decide (0 < 0)) m) ∧
      (∀ m ∈ moments, m.happening = .asked true → m.set = true) ∧
      (∃ (steps : List (Judged × List Happening)) (last : List Happening),
        moments.map (·.happening) = .told .zero :: (stretches 4 0 steps ++ last) ∧
        (∀ x ∈ steps, Worked true "batch" x.1.item (.ok (x.1.verdict, x.1.outcome)) x.2) ∧
        Cut true { runId := "batch" } assortment steps answer last ∧
        ∀ r, answer = .ok r →
          r = { Report.addAll { runId := "batch" } (steps.map Prod.fst) with
            cancelled := r.cancelled } ∧
          r.items = steps.map (·.1.reported) ∧ (r.cancelled = true ↔ steps.length < 4)) ∧
      (impatient.Steady → ∃ r, answer = .ok r) := by
  have hc : Scheduled impatient (fun n => decide (0 < n)) := {
    seen := fun _ => id
    sees := fun _ => id
    stays := {
      read := fun _ _ => id
      submit := fun _ _ n _ => decide_eq_true n.succ_pos
      reembed := fun _ _ => id
      persist := fun _ _ _ => id
      log := by
        intro path append hlog e n
        obtain ⟨_, rfl⟩ := Prod.mk.inj (Option.some.inj hlog)
        exact id
      warn := fun _ _ => id
      progress := fun _ _ => id
      cancelled := fun _ => id
      clock := fun _ => id } }
  exact ⟨hc, by decide +kernel, run_cancels impatient hc none "batch" assortment 0⟩

end Batch
end SvgIcon
