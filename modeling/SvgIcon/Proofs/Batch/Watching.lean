import SvgIcon.Proofs.Batch.Steps

/-!
Watching a batch run.  What is noted beside the state changes nothing of a run.  Here the calls to the
collaborators that read, optimize and persist are noted with their answers.
-/

namespace SvgIcon
namespace Batch

open Rules

variable {σ α β : Type}

/-! ## Watching -/

/-- A call to a collaborator, with what it answered. -/
inductive Call
  | read (p : Path) (answer : Except Fault String)
  | submit (markup : String) (answer : Except Raised Outcome)
  | reembed (markup : String) (answer : Except Raised String)
  | persist (item : Item) (text : String) (answer : Except Raised Unit)

def noted (call : α → Call) (act : StateM σ α) : StateM (σ × List Call) α := fun s =>
  ((act s.1).1, ((act s.1).2, s.2 ++ [call (act s.1).1]))

def unnoted (act : StateM σ α) : StateM (σ × List Call) α := fun s =>
  ((act s.1).1, ((act s.1).2, s.2))

def Collaborators.watched (c : Collaborators σ) : Collaborators (σ × List Call) where
  read p := noted (.read p) (c.read p)
  submit markup config := noted (.submit markup) (c.submit markup config)
  reembed markup := noted (.reembed markup) (c.reembed markup)
  persist item text := noted (.persist item text) (c.persist item text)
  log := c.log.map fun log => (log.1, fun e => unnoted (log.2 e))
  warn text := unnoted (c.warn text)
  progress x := unnoted (c.progress x)
  cancelled := unnoted c.cancelled
  clock := unnoted c.clock

theorem watched_log_none {c : Collaborators σ} (hlog : c.log = none) : c.watched.log = none := by
  rw [Collaborators.watched, hlog]
  rfl

theorem watched_log_some {c : Collaborators σ}
    {log : Path × (Log.Entry → StateM σ (Except Fault Unit))} (hlog : c.log = some log) :
    c.watched.log = some (log.1, fun e => unnoted (log.2 e)) := by
  rw [Collaborators.watched, hlog]
  rfl

section
variable {s s' : σ × List Call} {a : α} {act : StateM σ α}

theorem noted_calls {call : α → Call} (h : noted call act s = (a, s')) :
    s'.2 = s.2 ++ [call a] := by
  obtain ⟨rfl, rfl⟩ := Prod.mk.inj h
  rfl

theorem unnoted_calls (h : unnoted act s = (a, s')) : s'.2 = s.2 := by
  obtain ⟨_, rfl⟩ := Prod.mk.inj h
  rfl

end

/-! ## Runs beside each other -/

/-- The first computation does what the second one does, and something beside its state. -/
def Watches {τ : Type} (x : StateM (σ × τ) α) (y : StateM σ α) : Prop :=
  ∀ s t, (x (s, t)).1 = (y s).1 ∧ (x (s, t)).2.1 = (y s).2

namespace Watches

variable {τ : Type} {x : StateM (σ × τ) α} {y : StateM σ α}

theorem noted (call : α → Call) (act : StateM σ α) : Watches (noted call act) act :=
  fun _ _ => ⟨rfl, rfl⟩

theorem unnoted (act : StateM σ α) : Watches (unnoted act) act := fun _ _ => ⟨rfl, rfl⟩

theorem pure (a : α) : Watches (σ := σ) (τ := τ) (pure a) (pure a) := fun _ _ => ⟨rfl, rfl⟩

theorem bind {f : α → StateM (σ × τ) β} {g : α → StateM σ β} (h : Watches x y)
    (hnext : ∀ a, Watches (f a) (g a)) : Watches (x >>= f) (y >>= g) := by
  intro s t
  obtain ⟨hanswer, hstate⟩ := h s t
  rcases hx : x (s, t) with ⟨a, s', t'⟩
  rw [hx] at hanswer hstate
  -- both computations go on from the same answer and the same state
  have hy : y s = (a, s') := Prod.ext hanswer.symm hstate.symm
  rw [bind_of_eq hx, bind_of_eq hy]
  exact hnext a s' t'

end Watches

/-- The first collaborators do what the second ones do, and something beside their state. -/
structure Beside {τ : Type} (c' : Collaborators (σ × τ)) (c : Collaborators σ) : Prop where
  read : ∀ p, Watches (c'.read p) (c.read p)
  submit : ∀ markup config, Watches (c'.submit markup config) (c.submit markup config)
  reembed : ∀ markup, Watches (c'.reembed markup) (c.reembed markup)
  persist : ∀ item text, Watches (c'.persist item text) (c.persist item text)
  unlogged : c.log = none → c'.log = none
  logged : ∀ {path append}, c.log = some (path, append) →
    ∃ append', c'.log = some (path, append') ∧ ∀ e, Watches (append' e) (append e)
  warn : ∀ text, Watches (c'.warn text) (c.warn text)
  progress : ∀ x, Watches (c'.progress x) (c.progress x)
  cancelled : Watches c'.cancelled c.cancelled
  clock : Watches c'.clock c.clock

namespace Beside

variable {τ : Type} {c' : Collaborators (σ × τ)} {c : Collaborators σ} (h : Beside c' c)
  (config : Option RuleSet) (runId : String) (item : Item)
include h

theorem content : Watches (content c' item) (content c item) := by
  unfold Batch.content
  cases item.path with
  | none => exact .pure _
  | some p => exact (h.read p).bind fun _ => .pure _

theorem attempt (text element : List Char) :
    Watches (attempt c' config item text element) (attempt c config item text element) := by
  refine (h.submit _ _).bind fun answer => ?_
  cases answer with
  | error e => exact .pure _
  | ok outcome =>
    refine (h.reembed _).bind fun answer => ?_
    cases answer with
    | error e => exact .pure _
    | ok new => exact (h.persist _ _).bind fun _ => .pure _

theorem record (outcome : Outcome) (ms : Double) :
    Watches (record c' runId item outcome ms) (record c runId item outcome ms) := by
  cases hlog : c.log with
  | none =>
    rw [Batch.record, Batch.record, hlog, h.unlogged hlog]
    exact .pure _
  | some log =>
    obtain ⟨append', hlog', happend⟩ := h.logged hlog
    rw [Batch.record, Batch.record, hlog, hlog']
    refine (happend _).bind fun answer => ?_
    cases answer with
    | ok _ => exact .pure _
    | error f =>
      by_cases hsystem : f.kind.isSystem = true
      · simp only [hsystem, if_true]
        exact (h.warn _).bind fun _ => .pure _
      · simp only [hsystem]
        exact .pure _

theorem process : Watches (process c' config runId item) (process c config runId item) := by
  refine (h.content item).bind fun answer => ?_
  rcases answer with (f | f | _) | text
  · exact (h.record runId item _ _).bind fun _ => .pure _
  · exact .pure _
  · exact .pure _
  · cases hextract : Markup.extract? text.toList with
    | none =>
      simp only [hextract]
      exact .pure _
    | some element =>
      simp only [hextract]
      refine h.clock.bind fun start => ?_
      refine (h.attempt config item _ _).bind fun tried => ?_
      cases hjudge : judge tried with
      | error e => exact .pure _
      | ok told =>
        refine h.clock.bind fun stop => ?_
        exact (h.record runId item _ _).bind fun _ => .pure _

theorem runFrom (total : Nat) (report : Report) (index : Nat) (items : List Item) :
    Watches (runFrom c' config total report index items)
      (runFrom c config total report index items) := by
  induction items generalizing report index with
  | nil => exact .pure _
  | cons item items ih =>
    refine h.cancelled.bind fun cancelled => ?_
    cases cancelled with
    | true => exact .pure _
    | false =>
      refine (h.process config report.runId item).bind fun answer => ?_
      cases answer with
      | error e => exact .pure _
      | ok told => exact (h.progress _).bind fun _ => ih _ _

theorem run (items : List Item) : Watches (run c' config runId items) (run c config runId items) :=
  (h.progress _).bind fun _ => h.runFrom config items.length _ 0 items

end Beside

theorem beside_watched (c : Collaborators σ) : Beside c.watched c where
  read p := .noted (.read p) (c.read p)
  submit markup config := .noted (.submit markup) (c.submit markup config)
  reembed markup := .noted (.reembed markup) (c.reembed markup)
  persist item text := .noted (.persist item text) (c.persist item text)
  unlogged := watched_log_none
  logged hlog := ⟨_, watched_log_some hlog, fun _ => .unnoted _⟩
  warn _ := .unnoted _
  progress _ := .unnoted _
  cancelled := .unnoted _
  clock := .unnoted _

theorem run_watches (c : Collaborators σ) (config : Option RuleSet) (runId : String)
    (items : List Item) : Watches (run c.watched config runId items) (run c config runId items) :=
  (beside_watched c).run config runId items

end Batch
end SvgIcon
