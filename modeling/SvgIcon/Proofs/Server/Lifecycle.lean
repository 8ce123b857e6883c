import SvgIcon.Proofs.Server.Watching
import SvgIcon.Server.Simulation

/-!
The life of a server.  Calls that are made one after another find it at rest, which is to say
stopped and without a socket, or listening on one that is bound to its port; and they leave it at
rest, whatever way they take, unless something is refused that has to do with its worker and its
timeout.  A call that is broken off by such a refusal leaves the server on the way, with its socket
open.
-/

namespace SvgIcon
namespace Server

variable {σ : Type}

/-! ## Ways through a start -/

/-- The ways to claim an address. -/
inductive Claimed (v : Server) : Except Raised Nat → Server → List Event → Prop
  | taken (socket : Nat) : Claimed v (.error (.failure (.portInUse v.port))) v
      [.opened socket, .bound socket (.error .addressInUse), .closed socket]
  | refused (socket : Nat) (reason : String) : Claimed v (.error (.failure (v.unbound reason))) v
      [.opened socket, .bound socket (.error (.refused reason)), .closed socket]
  | claimed (socket : Nat) {port : Int} (hport : port ≠ 0) : Claimed v (.ok socket) { v with port }
      [.opened socket, .bound socket (.ok port)]

/-- The ways to watch a worker; the last look decides. -/
inductive Watched (v : Server) (worker : Nat) : Except Raised Unit → List Event → Prop
  | started (n : Nat) : Watched v worker (.ok ())
      (List.replicate n (.looked worker false) ++ [.looked worker true])
  | failed (n : Nat) {f : Failure} (hf : f = v.exited ∨ f = v.late) :
      Watched v worker (.error (.failure f)) (List.replicate n (.looked worker false))

/-- The ways to give up a worker and a socket. -/
inductive TornDown (v : Server) : Except Raised Unit → Server → List Event → Prop
  | unserved (hhandles : v.handles = none) :
      TornDown v (.ok ()) { v with handles := none, phase := .stopped } []
  | closed {h : Handles} (hhandles : v.handles = some h) :
      TornDown v (.ok ()) { v with handles := none, phase := .stopped }
        [.joined h.worker (.ok ()), .closed h.socket]
  | refused {h : Handles} {e : Raised} (hhandles : v.handles = some h) :
      TornDown v (.error e) v [.joined h.worker (.error e)]

/-- The ways to serve a socket. -/
inductive Served (v : Server) (socket : Nat) : Except Raised Unit → Server → List Event → Prop
  | listening {worker : Nat} {watching : List Event}
      (htime : v.startupTimeout.double? ≠ none) (hwatched : Watched v worker (.ok ()) watching) :
      Served v socket (.ok ())
        { v with handles := some { worker, socket }, phase := .listening }
        (.prepared (.ok worker) :: watching)
  | failed {worker : Nat} {f : Failure} {watching : List Event}
      (htime : v.startupTimeout.double? ≠ none)
      (hwatched : Watched v worker (.error (.failure f)) watching) :
      Served v socket (.error (.failure f)) { v with handles := none, phase := .stopped }
        (.prepared (.ok worker) :: (watching ++ [.joined worker (.ok ()), .closed socket]))
  | unprepared {e : Raised} : Served v socket (.error e) v [.prepared (.error e)]
  | unreckoned {worker : Nat} (htime : v.startupTimeout.double? = none) :
      Served v socket (.error (.fault beyondClock)) { v with handles := some { worker, socket } }
        [.prepared (.ok worker)]
  | unjoined {worker : Nat} {f : Failure} {e : Raised} {watching : List Event}
      (htime : v.startupTimeout.double? ≠ none)
      (hwatched : Watched v worker (.error (.failure f)) watching) :
      Served v socket (.error e) { v with handles := some { worker, socket } }
        (.prepared (.ok worker) :: (watching ++ [.joined worker (.error e)]))

/-- The ways to start a server that is stopped. -/
inductive Started (v : Server) : Except Raised Unit → Server → List Event → Prop
  | unclaimed {f : Failure} {made : List Event}
      (hclaimed : Claimed { v with phase := .starting } (.error (.failure f))
        { v with phase := .starting } made) :
      Started v (.error (.failure f)) { v with phase := .stopped } made
  | served {port : Int} {socket : Nat} {answer : Except Raised Unit} {v' : Server}
      {claiming serving : List Event}
      (hclaimed : Claimed { v with phase := .starting } (.ok socket)
        { v with phase := .starting, port } claiming)
      (hserved : Served { v with phase := .starting, port } socket answer v' serving) :
      Started v answer v' (claiming ++ serving)

section
variable {m : Machine σ} {self : Part σ Server} {Fair : σ → Prop} (hm : m.Orderly self Fair)
include hm

theorem enter_follows {v : Server} {phase : Phase} {Q : Unit → Server → List Event → Prop}
    (h : Q () { v with phase } []) :
    Follows self Fair (enter (noting self) phase) (enter self phase) v Q :=
  .change hm h

theorem claimAddress_follows (v : Server) :
    Follows self Fair (claimAddress m.watched (noting self)) (claimAddress m self) v
      (Claimed v) := by
  refine .get fun s events hv => ?_
  show Follows self Fair (_ >>= _) (_ >>= _) v _
  simp only [noting, hv]
  refine .bind (.openSocket hm fun socket => .bind (.bindSocket hm fun answer hanswer => ?_))
  rcases answer with (_ | reason | f) | port
  · exact .bind (.close hm (.pure (.taken socket)))
  · exact .bind (.close hm (.pure (.refused socket reason)))
  · exact hanswer.elim
  · exact .bind (.change hm (.pure (.claimed socket hanswer)))

theorem watch_follows (v : Server) (worker : Nat) (deadline : Double) (n : Nat) :
    Follows self Fair (watch m.watched (noting self) worker deadline n)
      (watch m self worker deadline n) v
      fun answer v' made => v' = v ∧ Watched v worker answer made := by
  -- induction on the looks that are left; one that decides nothing is noted in front of the others
  induction n with
  | zero =>
    refine .get fun s events hv => ?_
    simp only [noting, hv]
    exact .pure ⟨rfl, .failed 0 (.inr rfl)⟩
  | succ n ih =>
    refine .bind (.hasStarted hm fun started => ?_)
    cases started with
    | true => exact .pure ⟨rfl, .started 0⟩
    | false =>
      refine .bind (.unnoted (hm.isAlive worker) fun alive _ => ?_)
      cases alive with
      | false =>
        refine .get fun s events hv => ?_
        simp only [noting, hv]
        exact .pure ⟨rfl, .failed 1 (.inl rfl)⟩
      | true =>
        refine .bind (.unnoted hm.now fun time _ => ?_)
        by_cases hlate : deadline.lt time = true
        · simp only [hlate]
          refine .get fun s events hv => ?_
          simp only [noting, hv]
          exact .pure ⟨rfl, .failed 1 (.inr rfl)⟩
        · simp only [hlate]
          refine .bind (.unnoted (hm.sleep _) fun answer hanswer => ?_)
          subst hanswer
          refine ih.mono fun answer v' made ⟨hv', hmade⟩ => ⟨hv', ?_⟩
          cases hmade with
          | started k => exact .started (k + 1)
          | failed k hf => exact .failed (k + 1) hf

theorem await_follows (v : Server) (worker : Nat) :
    Follows self Fair (await m.watched (noting self) worker) (await m self worker) v
      fun answer v' made => v' = v ∧
        (v.startupTimeout.double? ≠ none ∧ Watched v worker answer made ∨
          v.startupTimeout.double? = none ∧ answer = .error (.fault beyondClock) ∧ made = []) := by
  refine .get fun s events hv => ?_
  show Follows self Fair (_ >>= _) (_ >>= _) v _
  simp only [noting, hv]
  refine .bind (.unnoted hm.now fun time _ => ?_)
  simp only [List.nil_append]
  cases htime : v.startupTimeout.double? with
  | none => exact .pure ⟨rfl, .inr ⟨rfl, rfl, rfl⟩⟩
  | some timeout =>
    refine (watch_follows hm v worker _ _).mono ?_
    rintro _ _ _ ⟨rfl, hwatched⟩
    exact ⟨rfl, .inl ⟨nofun, hwatched⟩⟩

theorem teardown_follows (v : Server) :
    Follows self Fair (teardown m.watched (noting self)) (teardown m self) v (TornDown v) := by
  refine .get fun s events hv => ?_
  simp only [noting, hv, dismiss]
  cases hhandles : v.handles with
  | none =>
    refine .bind (.pure (.get fun s events hv => ?_))
    simp only [hv, hhandles]
    exact .bind (.change hm (.pure (.unserved hhandles)))
  | some h =>
    refine .bind (.bind (.unnoted (hm.askToExit _) fun _ _ => .join hm fun answer => ?_))
    cases answer with
    | error e => exact .pure (.refused hhandles)
    | ok =>
      refine .get fun s events hv => ?_
      simp only [hv, hhandles]
      exact .bind (.close hm (.bind (.change hm (.pure (.closed hhandles)))))

theorem serve_follows (v : Server) (socket : Nat) :
    Follows self Fair (serve m.watched (noting self) socket) (serve m self socket) v
      (Served v socket) := by
  refine .get fun s events hv => ?_
  show Follows self Fair (_ >>= _) (_ >>= _) v _
  simp only [noting, hv]
  refine .bind (.prepare hm fun answer => ?_)
  cases answer with
  | error e => exact .pure .unprepared
  | ok worker =>
    -- from here on the server has the socket at hand, and tearing it down closes it
    refine .bind (.change hm (.bind (.unnoted (hm.launch _) fun _ _ => ?_)))
    refine .bind ((await_follows hm _ worker).mono ?_)
    rintro answer _ watching ⟨rfl, ⟨htime, hwatched⟩ | ⟨htime, rfl, rfl⟩⟩
    · replace htime : v.startupTimeout.double? ≠ none := htime
      cases hwatched with
      | started n =>
        refine .bind (enter_follows hm (.pure ?_))
        simpa only [List.append_nil, List.nil_append, List.singleton_append] using
          Served.listening htime (.started n)
      | failed n hf =>
        refine .bind ((teardown_follows hm _).mono ?_)
        rintro _ _ _ htorn
        cases htorn with
        | unserved hhandles => exact absurd hhandles nofun
        | closed hhandles =>
          obtain rfl := Option.some.inj hhandles
          refine .pure ?_
          simpa only [List.append_nil, List.nil_append, List.singleton_append] using
            Served.failed htime (.failed n hf)
        | refused hhandles =>
          obtain rfl := Option.some.inj hhandles
          refine .pure ?_
          simpa only [List.append_nil, List.nil_append, List.singleton_append] using
            Served.unjoined htime (.failed n hf)
    · exact .pure (.unreckoned htime)

/-- A server that is stopped is started in one of the ways. -/
theorem start_follows {v : Server} (hstopped : v.phase = .stopped) :
    Follows self Fair (start m.watched (noting self)) (start m self) v (Started v) := by
  refine .get fun s events hv => ?_
  simp only [noting, hv, hstopped]
  refine .bind (enter_follows hm ?_)
  refine .bind ((claimAddress_follows hm _).mono ?_)
  rintro answer v' made hclaimed
  simp only [List.nil_append]
  cases hclaimed with
  | taken socket => exact .bind (enter_follows hm (.pure (.unclaimed (.taken socket))))
  | refused socket reason =>
    exact .bind (enter_follows hm (.pure (.unclaimed (.refused socket reason))))
  | claimed socket hport =>
    exact (serve_follows hm _ socket).mono fun _ _ _ hserved =>
      .served (.claimed socket hport) hserved

theorem stop_follows {v : Server} (hphase : v.phase ≠ .stopped) :
    Follows self Fair (stop m.watched (noting self)) (stop m self) v
      (TornDown { v with phase := .stopping }) := by
  refine .get fun s events hv => ?_
  simp only [noting, hv]
  cases hother : v.phase with
  | stopped => exact absurd hother hphase
  | _ => exact .bind (enter_follows hm (teardown_follows hm _))

end

/-! ## Servers at rest -/

/-- How calls that are made one after another find a server and leave it. -/
inductive Settled (v : Server) (events : List Event) : Prop
  | stopped (hphase : v.phase = .stopped) (hhandles : v.handles = none)
      (hsockets : openSockets events = [])
  | listening {h : Handles} (hphase : v.phase = .listening) (hhandles : v.handles = some h)
      (hsockets : openSockets events = [(h.socket, some v.port)]) (hport : v.port ≠ 0)

theorem not_settled_of_phase {v : Server} {events : List Event} (hstopped : v.phase ≠ .stopped)
    (hlistening : v.phase ≠ .listening) : ¬Settled v events := by
  rintro (⟨hphase, _, _⟩ | ⟨hphase, _, _, _⟩)
  · exact hstopped hphase
  · exact hlistening hphase

/-- An address was asked for that someone else has. -/
def AddressTaken (made : List Event) : Prop :=
  ∃ socket, Event.bound socket (.error .addressInUse) ∈ made

section
variable {v v' : Server} {made events : List Event}

theorem Claimed.sockets_of_error {e : Raised} (h : Claimed v (.error e) v' made) :
    made.foldl Event.apply [] = [] := by
  cases h <;> simp [Event.apply]

theorem Claimed.sockets_of_ok {socket : Nat} (h : Claimed v (.ok socket) v' made) :
    made.foldl Event.apply [] = [(socket, some v'.port)] ∧ v'.port ≠ 0 := by
  cases h with
  | claimed socket hport => exact ⟨by simp [Event.apply], hport⟩

theorem Claimed.smooth {answer : Except Raised Nat} (h : Claimed v answer v' made)
    (timeout : Seconds) : Smooth timeout made := by
  cases h <;> rfl

theorem Watched.sockets {worker : Nat} {answer : Except Raised Unit}
    (h : Watched v worker answer made) (sockets : Sockets) :
    made.foldl Event.apply sockets = sockets := by
  cases h with
  | started n =>
    rw [List.foldl_append, foldl_looked]
    rfl
  | failed n hf => exact foldl_looked worker n false sockets

theorem Watched.smooth {worker : Nat} {answer : Except Raised Unit}
    (h : Watched v worker answer made) (timeout : Seconds) : Smooth timeout made := by
  rw [Smooth, complaints, List.filterMap_eq_nil_iff]
  rintro event hevent
  cases h <;> simp only [List.mem_append, List.mem_replicate, List.mem_singleton] at hevent
  · rcases hevent with ⟨-, rfl⟩ | rfl <;> rfl
  · obtain ⟨-, rfl⟩ := hevent
    rfl

theorem Watched.not_addressTaken {worker : Nat} {answer : Except Raised Unit}
    (h : Watched v worker answer made) : ¬AddressTaken made := by
  rintro ⟨socket, hsocket⟩
  cases h <;> simp [List.mem_replicate] at hsocket

theorem complaints_prepared {timeout : Seconds} (htime : timeout.double? ≠ none) (worker : Nat) :
    complaints timeout (.prepared (.ok worker) :: made) = complaints timeout made :=
  List.filterMap_cons_none (if_neg htime)

theorem Watched.complaints_prepared {worker : Nat} {answer : Except Raised Unit}
    (h : Watched v worker answer made) {timeout : Seconds} (htime : timeout.double? ≠ none)
    (more : List Event) :
    complaints timeout (.prepared (.ok worker) :: (made ++ more)) = complaints timeout more := by
  rw [Server.complaints_prepared htime, complaints_append, h.smooth, List.nil_append]

theorem Served.startupTimeout {socket : Nat} {answer : Except Raised Unit}
    (h : Served v socket answer v' made) : v'.startupTimeout = v.startupTimeout := by
  cases h <;> rfl

theorem Served.settled {socket : Nat} {answer : Except Raised Unit}
    (h : Served v socket answer v' made) (hsmooth : Smooth v.startupTimeout made)
    (hport : v.port ≠ 0) (hsockets : openSockets events = [(socket, some v.port)]) :
    Settled v' (events ++ made) := by
  cases h with
  | listening _ hwatched =>
    refine .listening rfl rfl ?_ hport
    rw [openSockets_append, hsockets]
    exact hwatched.sockets _
  | @failed worker _ watching _ hwatched =>
    refine .stopped rfl rfl ?_
    rw [openSockets_append, hsockets, List.foldl_cons, List.foldl_append]
    show List.foldl _ (List.foldl _ [(socket, some v.port)] watching) _ = []
    rw [hwatched.sockets]
    simp [Event.apply]
  | unprepared => exact absurd hsmooth nofun
  | unreckoned htime =>
    exact absurd hsmooth (not_smooth_of_complaints (List.filterMap_cons_some (if_pos htime)))
  | unjoined htime hwatched =>
    exact absurd hsmooth (not_smooth_of_complaints (hwatched.complaints_prepared htime _))

/-- What serving is broken off by is refused, and leaves the server and its sockets as they are. -/
theorem Served.broken {socket : Nat} {answer : Except Raised Unit}
    (h : Served v socket answer v' made) (hrough : ¬Smooth v.startupTimeout made) :
    (∃ e, complaints v.startupTimeout made = [e] ∧ answer = .error e) ∧ v'.phase = v.phase ∧
      v'.port = v.port ∧ ∀ sockets, made.foldl Event.apply sockets = sockets := by
  cases h with
  | listening htime hwatched =>
    exact absurd ((complaints_prepared htime _).trans (hwatched.smooth _)) hrough
  | failed htime hwatched => exact absurd (hwatched.complaints_prepared htime _) hrough
  | @unprepared e => exact ⟨⟨e, rfl, rfl⟩, rfl, rfl, fun _ => rfl⟩
  | unreckoned htime =>
    exact ⟨⟨_, List.filterMap_cons_some (if_pos htime), rfl⟩, rfl, rfl, fun _ => rfl⟩
  | unjoined htime hwatched =>
    refine ⟨⟨_, hwatched.complaints_prepared htime _, rfl⟩, rfl, rfl, fun sockets => ?_⟩
    rw [List.foldl_cons, List.foldl_append]
    exact hwatched.sockets sockets

theorem Served.not_addressTaken {socket : Nat} {answer : Except Raised Unit}
    (h : Served v socket answer v' made) : ¬AddressTaken made := by
  rintro ⟨taken, htaken⟩
  cases h with
  | listening _ hwatched => exact hwatched.not_addressTaken ⟨taken, by simpa using htaken⟩
  | failed _ hwatched => exact hwatched.not_addressTaken ⟨taken, by simpa using htaken⟩
  | unprepared => simp at htaken
  | unreckoned => simp at htaken
  | unjoined _ hwatched => exact hwatched.not_addressTaken ⟨taken, by simpa using htaken⟩

theorem Started.startupTimeout {answer : Except Raised Unit} (h : Started v answer v' made) :
    v'.startupTimeout = v.startupTimeout := by
  cases h with
  | unclaimed => rfl
  | served _ hserved => exact hserved.startupTimeout

theorem Started.settled {answer : Except Raised Unit} (h : Started v answer v' made)
    (hsmooth : Smooth v.startupTimeout made) (hhandles : v.handles = none)
    (hsockets : openSockets events = []) : Settled v' (events ++ made) := by
  cases h with
  | unclaimed hclaimed =>
    refine .stopped rfl hhandles ?_
    rw [openSockets_append, hsockets, hclaimed.sockets_of_error]
  | served hclaimed hserved =>
    obtain ⟨hopen, hport⟩ := hclaimed.sockets_of_ok
    rw [← List.append_assoc]
    refine hserved.settled (smooth_append.1 hsmooth).2 hport ?_
    rw [openSockets_append, hsockets, hopen]

/-- A start that is broken off has claimed an address. -/
theorem Started.broken {answer : Except Raised Unit} (h : Started v answer v' made)
    (hrough : ¬Smooth v.startupTimeout made) :
    (∃ e, complaints v.startupTimeout made = [e] ∧ answer = .error e) ∧ v'.phase = .starting ∧
      ∃ socket, made.foldl Event.apply [] = [(socket, some v'.port)] := by
  cases h with
  | unclaimed hclaimed => exact absurd (hclaimed.smooth _) hrough
  | @served port socket _ _ claiming serving hclaimed hserved =>
    have hclaiming : Smooth v.startupTimeout claiming := hclaimed.smooth _
    obtain ⟨⟨e, hcomplaint, hanswer⟩, hphase, hport, hsockets⟩ :=
      hserved.broken fun hserving => hrough (smooth_append.2 ⟨hclaiming, hserving⟩)
    refine ⟨⟨e, ?_, hanswer⟩, hphase, socket, ?_⟩
    · rw [complaints_append, hclaiming]
      exact hcomplaint
    · rw [List.foldl_append, hclaimed.sockets_of_ok.1, hsockets, hport]

/-- What a start comes to depends on whether the address is taken: if so, that is what it fails
with, and if not, the server listens or has failed with its own failure. -/
theorem Started.outcome {answer : Except Raised Unit} (h : Started v answer v' made)
    (hsmooth : Smooth v.startupTimeout made) :
    (AddressTaken made → answer = .error (.failure (.portInUse v.port)) ∧ v'.phase = .stopped) ∧
    (¬AddressTaken made → answer = .ok () ∧ v'.phase = .listening ∨
      ∃ message, answer = .error (.failure (.serverStart message)) ∧ v'.phase = .stopped) := by
  cases h with
  | unclaimed hclaimed =>
    cases hclaimed with
    | taken socket => exact ⟨fun _ => ⟨rfl, rfl⟩, fun h => (h ⟨socket, by simp⟩).elim⟩
    | refused socket reason => exact ⟨by simp [AddressTaken], fun _ => .inr ⟨_, rfl, rfl⟩⟩
  | @served port socket _ _ claiming serving hclaimed hserved =>
    have hfree : ¬AddressTaken (claiming ++ serving) := by
      rintro ⟨taken, htaken⟩
      rcases List.mem_append.1 htaken with htaken | htaken
      · cases hclaimed
        simp at htaken
      · exact hserved.not_addressTaken ⟨taken, htaken⟩
    refine ⟨fun h => (hfree h).elim, fun _ => ?_⟩
    have hserving : Smooth v.startupTimeout serving := (smooth_append.1 hsmooth).2
    cases hserved with
    | listening => exact .inl ⟨rfl, rfl⟩
    | failed _ hwatched =>
      cases hwatched with
      | failed n hf => rcases hf with rfl | rfl <;> exact .inr ⟨_, rfl, rfl⟩
    | unprepared => exact absurd hserving nofun
    | unreckoned htime =>
      exact absurd hserving (not_smooth_of_complaints (List.filterMap_cons_some (if_pos htime)))
    | unjoined htime hwatched =>
      exact absurd hserving (not_smooth_of_complaints (hwatched.complaints_prepared htime _))

end

/-! ## Calls one after another -/

inductive Operation
  | start
  | stop
  deriving DecidableEq, Repr

/-- The phase of a server while the call is made. -/
def Operation.underway : Operation → Phase
  | .start => .starting
  | .stop => .stopping

def perform (m : Machine σ) (self : Part σ Server) : Operation → StateM σ (Except Raised Unit)
  | .start => start m self
  | .stop => stop m self

def performAll (m : Machine σ) (self : Part σ Server) :
    List Operation → StateM σ (List (Except Raised Unit))
  | [] => return []
  | op :: ops => do
    let answer ← perform m self op
    let answers ← performAll m self ops
    return answer :: answers

/-- What a call comes to, whatever phase it finds the server in. -/
inductive Performed (v : Server) : Operation → Except Raised Unit → Server → List Event → Prop
  | rejected (hphase : v.phase = .listening ∨ v.phase = .starting) :
      Performed v .start (.error (.failure (.portInUse v.port))) v []
  | awaited (hphase : v.phase = .stopping) : Performed v .start (.error (.failure stopping)) v []
  | started {answer : Except Raised Unit} {v' : Server} {made : List Event}
      (hphase : v.phase = .stopped) (hstarted : Started v answer v' made) :
      Performed v .start answer v' made
  | idle (hphase : v.phase = .stopped) : Performed v .stop (.ok ()) v []
  | stopped {answer : Except Raised Unit} {v' : Server} {made : List Event}
      (hphase : v.phase ≠ .stopped) (htorn : TornDown { v with phase := .stopping } answer v' made) :
      Performed v .stop answer v' made

/-- What a call comes to, by the phase that it finds the server in. -/
structure Effect (own : Part σ Server) (op : Operation) (s : σ) (answer : Except Raised Unit)
    (s' : σ) (made : List Event) : Prop where
  rejected : op = .start → (own.get s).phase = .listening →
    answer = .error (.failure (.portInUse (own.get s).port)) ∧ s' = s ∧ made = []
  taken : op = .start → (own.get s).phase = .stopped → AddressTaken made →
    answer = .error (.failure (.portInUse (own.get s).port)) ∧ (own.get s').phase = .stopped
  free : op = .start → (own.get s).phase = .stopped → ¬AddressTaken made →
    answer = .ok () ∧ (own.get s').phase = .listening ∨
      ∃ message, answer = .error (.failure (.serverStart message)) ∧
        (own.get s').phase = .stopped
  stopped : op = .stop → answer = .ok () ∧ (own.get s').phase = .stopped

/-- A call was broken off by what was refused, and has left the server on the way with its socket
open. -/
structure BrokenOff (timeout : Seconds) (op : Operation) (answer : Except Raised Unit) (v' : Server)
    (events made : List Event) : Prop where
  refused : ∃ e, complaints timeout made = [e] ∧ answer = .error e
  phase : v'.phase = op.underway
  socket : ∃ socket, openSockets (events ++ made) = [(socket, some v'.port)]

section
variable {v v' : Server} {op : Operation} {answer : Except Raised Unit} {events made : List Event}

theorem Performed.startupTimeout (h : Performed v op answer v' made) :
    v'.startupTimeout = v.startupTimeout := by
  cases h with
  | started _ hstarted => exact hstarted.startupTimeout
  | stopped _ htorn => cases htorn <;> rfl
  | _ => rfl

/-- A call leaves a server at rest that was at rest. -/
theorem Performed.settled (h : Performed v op answer v' made) (hv : Settled v events)
    (hsmooth : Smooth v.startupTimeout made) : Settled v' (events ++ made) := by
  cases h with
  | started hphase hstarted =>
    cases hv with
    | stopped _ hhandles hsockets => exact hstarted.settled hsmooth hhandles hsockets
    | listening hlistening => exact absurd (hphase.symm.trans hlistening) (by decide)
  | stopped hphase htorn =>
    cases hv with
    | stopped hstopped => exact absurd hstopped hphase
    | listening _ hhandles hsockets _ =>
      cases htorn with
      | unserved hnone => exact absurd (hnone.symm.trans hhandles) nofun
      | closed hclosed =>
        obtain rfl := Option.some.inj (hclosed.symm.trans hhandles)
        refine .stopped rfl rfl ?_
        rw [openSockets_append, hsockets]
        simp [Event.apply]
      | refused => exact absurd hsmooth nofun
  | _ => rwa [List.append_nil]

theorem Performed.brokenOff (h : Performed v op answer v' made) (hv : Settled v events)
    (hrough : ¬Smooth v.startupTimeout made) :
    BrokenOff v.startupTimeout op answer v' events made := by
  cases h with
  | started hphase hstarted =>
    cases hv with
    | stopped _ hhandles hsockets =>
      obtain ⟨hrefused, hstarting, hopen⟩ := hstarted.broken hrough
      refine ⟨hrefused, hstarting, ?_⟩
      rwa [openSockets_append, hsockets]
    | listening hlistening => exact absurd (hphase.symm.trans hlistening) (by decide)
  | stopped hphase htorn =>
    cases hv with
    | stopped hstopped => exact absurd hstopped hphase
    | @listening h _ _ hsockets _ =>
      cases htorn with
      | @refused _ e =>
        refine ⟨⟨e, rfl, rfl⟩, rfl, h.socket, ?_⟩
        rw [openSockets_append, hsockets]
        rfl
      | _ => exact absurd rfl hrough
  | _ => exact absurd rfl hrough

theorem BrokenOff.not_settled {timeout : Seconds} (h : BrokenOff timeout op answer v' events made) :
    ¬Settled v' (events ++ made) := by
  refine not_settled_of_phase ?_ ?_ <;> rw [h.phase] <;> cases op <;> decide

end

section
variable {m : Machine σ} {self : Part σ Server} {Fair : σ → Prop}

theorem start_of_listening {s : σ} (hphase : (self.get s).phase = .listening) :
    start m self s = (.error (.failure (.portInUse (self.get s).port)), s) := by
  simp only [start, bind, StateT.bind, get, getThe, MonadStateOf.get, StateT.get, pure, hphase]
  rfl

theorem perform_follows (hm : m.Orderly self Fair) (v : Server) (op : Operation) :
    Follows self Fair (perform m.watched (noting self) op) (perform m self op) v
      (Performed v op) := by
  cases op with
  | start =>
    cases hphase : v.phase with
    | stopped =>
      exact (start_follows hm hphase).mono fun _ _ _ hstarted => .started hphase hstarted
    | listening =>
      refine .get fun s events hv => ?_
      simp only [noting, hv, hphase]
      exact .pure (.rejected (.inl hphase))
    | starting =>
      refine .get fun s events hv => ?_
      simp only [noting, hv, hphase]
      exact .pure (.rejected (.inr hphase))
    | stopping =>
      refine .get fun s events hv => ?_
      simp only [noting, hv, hphase]
      exact .pure (.awaited hphase)
  | stop =>
    by_cases hphase : v.phase = .stopped
    · refine .get fun s events hv => ?_
      simp only [noting, hv, hphase]
      exact .pure (.idle hphase)
    · exact (stop_follows hm hphase).mono fun _ _ _ htorn => .stopped hphase htorn

theorem performAll_follows (hm : m.Orderly self Fair) (v : Server) (ops : List Operation) :
    Follows self Fair (performAll m.watched (noting self) ops) (performAll m self ops) v
      fun _ v' made => v'.startupTimeout = v.startupTimeout ∧
        ∀ events, Settled v events → Smooth v.startupTimeout made → Settled v' (events ++ made) := by
  induction ops generalizing v with
  | nil =>
    refine .pure ⟨rfl, fun events hv _ => ?_⟩
    rwa [List.append_nil]
  | cons op ops ih =>
    refine .bind ((perform_follows hm v op).mono fun answer v' made hperformed => ?_)
    refine .bind ((ih v').mono fun answers v'' more ⟨htimeout, hmore⟩ => .pure ?_)
    rw [List.append_nil]
    rw [hperformed.startupTimeout] at htimeout hmore
    refine ⟨htimeout, fun events hv hsmooth => ?_⟩
    obtain ⟨hfirst, hrest⟩ := smooth_append.1 hsmooth
    rw [← List.append_assoc]
    exact hmore _ (hperformed.settled hv hfirst) hrest

theorem effect_of_performed {op : Operation} {s : σ} {made : List Event}
    (h : Performed (self.get s) op (perform m self op s).1
      (self.get (perform m self op s).2) made)
    (hsmooth : Smooth (self.get s).startupTimeout made) :
    Effect self op s (perform m self op s).1 (perform m self op s).2 made := by
  generalize hanswer : (perform m self op s).1 = answer at h ⊢
  generalize hserver : self.get (perform m self op s).2 = v' at h
  cases h with
  | rejected hbusy =>
    have hnot : (self.get s).phase ≠ .stopped := by
      intro hstopped
      rw [hstopped] at hbusy
      exact absurd hbusy (by decide)
    refine ⟨fun _ hlistening => ⟨rfl, ?_, rfl⟩, fun _ hstopped => absurd hstopped hnot,
      fun _ hstopped => absurd hstopped hnot, nofun⟩
    exact congrArg Prod.snd (start_of_listening hlistening)
  | awaited hphase =>
    have hnot : ∀ phase : Phase, phase ≠ .stopping → (self.get s).phase ≠ phase :=
      fun phase hne h => hne (h.symm.trans hphase)
    exact ⟨fun _ hlistening => absurd hlistening (hnot _ nofun),
      fun _ hstopped => absurd hstopped (hnot _ nofun),
      fun _ hstopped => absurd hstopped (hnot _ nofun), nofun⟩
  | started hphase hstarted =>
    subst hserver
    refine ⟨fun _ hlistening => ?_, fun _ _ => (hstarted.outcome hsmooth).1,
      fun _ _ => (hstarted.outcome hsmooth).2, nofun⟩
    exact absurd (hphase.symm.trans hlistening) (by decide)
  | idle hphase => exact ⟨nofun, nofun, nofun, fun _ => ⟨rfl, hserver ▸ hphase⟩⟩
  | stopped _ htorn =>
    refine ⟨nofun, nofun, nofun, fun _ => ?_⟩
    rw [hserver]
    cases htorn with
    | unserved => exact ⟨rfl, rfl⟩
    | closed => exact ⟨rfl, rfl⟩
    | refused => exact absurd hsmooth nofun

/-- As long as nothing is refused that has to do with the workers and their timeout, the server is at
rest, whatever calls have been made: it is stopped without handles, and every socket that was opened
has been closed, or it listens on the one socket that is open, which is bound to its port.  The next
call leaves it at rest again exactly if nothing is refused, and then it does what the phase asks for.
Otherwise the refusal is what comes out of the call, and the server is left on the way. -/
theorem performAll_lifecycle (hm : m.Orderly self Fair) {s : σ} (hfair : Fair s)
    (hphase : (self.get s).phase = .stopped) (hhandles : (self.get s).handles = none)
    (ops : List Operation) : ∃ answers s' events,
      performAll m self ops s = (answers, s') ∧
      performAll m.watched (noting self) ops (s, []) = (answers, (s', events)) ∧
      (Smooth (self.get s).startupTimeout events → Settled (self.get s') events ∧
      ∀ op, ∃ answer s'' made,
        perform m self op s' = (answer, s'') ∧
        perform m.watched (noting self) op (s', events) = (answer, (s'', events ++ made)) ∧
        (Settled (self.get s'') (events ++ made) ↔ Smooth (self.get s).startupTimeout made) ∧
        (Smooth (self.get s).startupTimeout made → Effect self op s' answer s'' made) ∧
        (¬Smooth (self.get s).startupTimeout made →
          BrokenOff (self.get s).startupTimeout op answer (self.get s'') events made)) := by
  have hrest : Settled (self.get s) [] := .stopped hphase hhandles rfl
  obtain ⟨events, hrun, hfair', htimeout, hsettles⟩ :=
    performAll_follows hm (self.get s) ops s [] hfair rfl
  refine ⟨_, _, events, rfl, hrun, fun hsmooth => ?_⟩
  have hsettled := hsettles [] hrest hsmooth
  refine ⟨hsettled, fun op => ?_⟩
  obtain ⟨made, hcall, -, hperformed⟩ := perform_follows hm _ op _ events hfair' rfl
  rw [← htimeout]
  refine ⟨_, _, made, rfl, hcall, ⟨fun hafter => ?_, hperformed.settled hsettled⟩,
    effect_of_performed hperformed, hperformed.brokenOff hsettled⟩
  exact Decidable.byContradiction fun hrough =>
    (hperformed.brokenOff hsettled hrough).not_settled hafter

end

/-! ## The machine in memory -/

namespace Simulation

def world : Part (World × Server) World := ⟨Prod.fst, fun w x => (w, x.2)⟩

/-- A server beside the world that it runs in. -/
def server : Part (World × Server) Server := ⟨Prod.snd, fun v x => (x.1, v)⟩

/-- Nothing interrupts a sleep, fresh ports are real, and hosts that are refused are so for a
reason of the system's. -/
structure Peaceful (x : World × Server) : Prop where
  interruptAt : x.1.interruptAt = none
  freshPort : 0 < x.1.freshPort
  refusals : ∀ host f, x.1.refusals.lookup host ≠ some (.fault f)

theorem minds_of_settings {α : Type} {act : StateM World α} {answers : α → Prop}
    (h : ∀ w, (act w).2.interruptAt = w.interruptAt ∧ w.freshPort ≤ (act w).2.freshPort ∧
      (act w).2.refusals = w.refusals)
    (hanswers : ∀ x, Peaceful x → answers (act x.1).1) :
    Minds server Peaceful (world.run act) answers := by
  intro x hx
  obtain ⟨hinterrupt, hport, hrefusals⟩ := h x.1
  refine ⟨⟨hinterrupt.trans hx.interruptAt, Int.lt_of_lt_of_le hx.freshPort hport, ?_⟩, rfl,
    hanswers x hx⟩
  show ∀ host f, (act x.1).2.refusals.lookup host ≠ some (.fault f)
  rw [hrefusals]
  exact hx.refusals

theorem bind_settings (w : World) (socket : Nat) (host : String) (port : Int) :
    (w.bind socket host port).2.interruptAt = w.interruptAt ∧
      w.freshPort ≤ (w.bind socket host port).2.freshPort ∧
      (w.bind socket host port).2.refusals = w.refusals := by
  rw [World.bind]
  cases w.refusals.lookup host with
  | some e => exact ⟨rfl, Int.le_refl _, rfl⟩
  | none =>
    by_cases hport : port = 0
    · simp only [if_pos hport]
      split <;> exact ⟨rfl, Int.le_of_lt (Int.lt_succ _), rfl⟩
    · simp only [if_neg hport]
      split <;> exact ⟨rfl, Int.le_refl _, rfl⟩

theorem binds_bind {x : World × Server} (hx : Peaceful x) (socket : Nat) (host : String)
    (port : Int) : Binds (x.1.bind socket host port).1 := by
  have hoffer : x.1.offer port ≠ 0 := by
    rw [World.offer]
    split
    · exact Int.ne_of_gt hx.freshPort
    · assumption
  rw [World.bind]
  cases hrefused : x.1.refusals.lookup host with
  | some e =>
    cases e with
    | fault f => exact absurd hrefused (hx.refusals host f)
    | _ => trivial
  | none =>
    by_cases hport : port = 0
    · simp only [if_pos hport]
      split
      · trivial
      · exact hoffer
    · simp only [if_neg hport]
      split
      · trivial
      · exact hoffer

theorem sleep_settings (w : World) (time : Double) :
    (w.sleep time).2.interruptAt = w.interruptAt ∧ w.freshPort ≤ (w.sleep time).2.freshPort ∧
      (w.sleep time).2.refusals = w.refusals := by
  simp only [World.sleep]
  split <;> exact ⟨rfl, Int.le_refl _, rfl⟩

theorem sleep_of_peaceful {x : World × Server} (hx : Peaceful x) (time : Double) :
    (x.1.sleep time).1 = .ok () := by
  simp [World.sleep, hx.interruptAt]

theorem machine_orderly : (machine.within world).Orderly server Peaceful where
  get_set _ _ := rfl
  fair_set _ _ hx := ⟨hx.interruptAt, hx.freshPort, hx.refusals⟩
  openSocket := minds_of_settings (fun _ => ⟨rfl, Int.le_refl _, rfl⟩) fun _ _ => trivial
  bind socket host port := minds_of_settings (fun w => bind_settings w socket host port)
    fun _ hx => binds_bind hx socket host port
  close _ := minds_of_settings (fun _ => ⟨rfl, Int.le_refl _, rfl⟩) fun _ _ => trivial
  prepare _ _ _ := minds_of_settings (fun _ => ⟨rfl, Int.le_refl _, rfl⟩) fun _ _ => trivial
  launch _ := minds_of_settings (fun _ => ⟨rfl, Int.le_refl _, rfl⟩) fun _ _ => trivial
  hasStarted _ := minds_of_settings (fun _ => ⟨rfl, Int.le_refl _, rfl⟩) fun _ _ => trivial
  isAlive _ := minds_of_settings (fun _ => ⟨rfl, Int.le_refl _, rfl⟩) fun _ _ => trivial
  askToExit _ := minds_of_settings (fun _ => ⟨rfl, Int.le_refl _, rfl⟩) fun _ _ => trivial
  join _ _ := minds_of_settings (fun _ => ⟨rfl, Int.le_refl _, rfl⟩) fun _ _ => trivial
  now := minds_of_settings (fun _ => ⟨rfl, Int.le_refl _, rfl⟩) fun _ _ => trivial
  sleep time := minds_of_settings (fun w => sleep_settings w time)
    fun _ hx => sleep_of_peaceful hx time

/-- A server that has the machine choose its port, in a world where the first worker comes up and
the second one ends at once. -/
def twoWorkers : World × Server := ({ plans := [{}, { conduct := .exits }] }, { port := 0 })

theorem performAll_lifecycle_twoWorkers :
    Peaceful twoWorkers ∧
      (performAll (machine.within world) server [.start] twoWorkers).2.2.phase = .listening ∧
      (performAll (machine.within world) server [.start, .start, .stop, .start]
        twoWorkers).2.2.phase = .stopped ∧
      ∃ answers s' events,
        performAll (machine.within world) server [.start, .start, .stop, .start] twoWorkers =
          (answers, s') ∧
        performAll (machine.within world).watched (noting server) [.start, .start, .stop, .start]
          (twoWorkers, []) = (answers, (s', events)) ∧
        Smooth (server.get twoWorkers).startupTimeout events ∧ Settled (server.get s') events ∧
        ∀ op, ∃ answer s'' made,
          perform (machine.within world) server op s' = (answer, s'') ∧
          perform (machine.within world).watched (noting server) op (s', events) =
            (answer, (s'', events ++ made)) ∧
          (Settled (server.get s'') (events ++ made) ↔
            Smooth (server.get twoWorkers).startupTimeout made) ∧
          (Smooth (server.get twoWorkers).startupTimeout made →
            Effect server op s' answer s'' made) := by
  have hpeaceful : Peaceful twoWorkers := ⟨rfl, by decide, fun _ _ => nofun⟩
  refine ⟨hpeaceful, by decide +kernel, by decide +kernel, ?_⟩
  obtain ⟨answers, s', events, hrun, hwatched, hnext⟩ := performAll_lifecycle machine_orderly
    hpeaceful rfl rfl [.start, .start, .stop, .start]
  have hsmooth : Smooth (server.get twoWorkers).startupTimeout events := by
    rw [← show _ = events from congrArg (fun x => x.2.2) hwatched]
    decide +kernel
  obtain ⟨hsettled, hnext⟩ := hnext hsmooth
  refine ⟨answers, s', events, hrun, hwatched, hsmooth, hsettled, fun op => ?_⟩
  obtain ⟨answer, s'', made, hcall, hwatchedCall, hiff, heffect, -⟩ := hnext op
  exact ⟨answer, s'', made, hcall, hwatchedCall, hiff, heffect⟩

/-- The longest time that the system waits for a worker. -/
def longestWait : Double := .ofRatio false 9223372036 1

def tooLong : Fault := ⟨.tooLarge, "timestamp too large to convert to C _PyTime_t"⟩

/-- The machine, where no longer time is waited than the system can count. -/
def impatient : Machine (World × Server) :=
  { machine.within world with
    join := fun worker timeout =>
      match timeout.double? with
      | some time =>
        if longestWait.lt time then pure (.error (.fault tooLong))
        else (machine.within world).join worker timeout
      | none => pure (.error (.fault tooLong)) }

/-- Calls to a server with a timeout, in a world where nothing else goes wrong. -/
def timedRun (startupTimeout : Seconds) (ops : List Operation) :
    List (Except Raised Unit) × (World × Server) × List Event :=
  performAll impatient.watched (noting server) ops (({}, { port := 0, startupTimeout }), [])

/-- Which calls have come to their end, and that the last one has left the server in a phase that is
none to rest in, with its socket open. -/
structure Stranded (run : List (Except Raised Unit) × (World × Server) × List Event)
    (ended : List Bool) (phase : Phase) : Prop where
  ended : run.1.map Except.toBool = ended
  phase : (server.get run.2.1).phase = phase
  socket : openSockets run.2.2 = [(0, some 50001)]
  unsettled : ¬Settled (server.get run.2.1) run.2.2

/-- Without end, the timeout lets the server listen, but not stop; as a whole number behind the
floats, it does not let it listen. -/
theorem performAll_stranded_timed :
    Stranded (timedRun (.float (.infinite false)) [.start, .stop]) [true, false] .stopping ∧
      Stranded (timedRun (.whole (.ofNat (Nat.pow 10 400))) [.start]) [false] .starting := by
  refine ⟨⟨?_, ?_, ?_, not_settled_of_phase ?_ ?_⟩, ?_, ?_, ?_, not_settled_of_phase ?_ ?_⟩ <;>
    decide +kernel

end Simulation

end Server
end SvgIcon
