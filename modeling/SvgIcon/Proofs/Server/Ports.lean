import SvgIcon.Proofs.Server.Lifecycle

/-!
Starting on any port.  The system is asked for an address only if the port is one of the sixteen bits
that ports have; any other port is turned down before, in a way of its own.  A start on a port is
reported: the server listens, or it has failed with a failure of its own and has closed its socket.  A
start on a number that is no port is not, and its socket stays open.
-/

namespace SvgIcon
namespace Server

variable {σ : Type}

/-! ## Ports -/

def IsPort (port : Int) : Prop := 0 ≤ port ∧ port ≤ 65535

instance (port : Int) : Decidable (IsPort port) := inferInstanceAs (Decidable (_ ∧ _))

/-- The answer to a number that is no port. -/
def Overflows (answer : Except BindError Int) : Prop :=
  ∃ text, answer = .error (.fault ⟨.tooLarge, text⟩)

/-- The machine, where nothing is asked of it about numbers that are no ports. -/
def Machine.inRange (m : Machine σ) : Machine σ :=
  { m with
    bind := fun socket host port =>
      if IsPort port then m.bind socket host port else pure (.error .addressInUse) }

/-- On ports the machine is orderly: it binds a socket or refuses for a reason of the system's.  To any
other number it answers that it is too large. -/
structure Machine.Ranged (m : Machine σ) (own : Part σ Server) (Fair : σ → Prop) : Prop where
  orderly : m.inRange.Orderly own Fair
  overflows : ∀ socket host port, ¬ IsPort port → Minds own Fair (m.bind socket host port) Overflows

/-! ## Starts that ask alike -/

section
variable {m : Machine σ} {self : Part σ Server} {s : σ}
  {b : Nat → String → Int → StateM σ (Except BindError Int)}

theorem watch_bind (worker : Nat) (deadline : Double) (n : Nat) :
    watch { m with bind := b } self worker deadline n = watch m self worker deadline n := by
  induction n with
  | zero => rfl
  | succ n ih => simp only [watch, ih]

theorem serve_bind (socket : Nat) : serve { m with bind := b } self socket = serve m self socket := by
  simp only [serve, await, watch_bind]
  rfl

theorem claimAddress_bind (hb : ∀ socket, b socket (self.get s).host (self.get s).port =
    m.bind socket (self.get s).host (self.get s).port) :
    claimAddress { m with bind := b } self s = claimAddress m self s := by
  simp only [claimAddress, bind, StateT.bind, get, getThe, MonadStateOf.get, StateT.get, pure, hb]

/-- How a machine binds other addresses than that of the server does not matter to a start. -/
theorem start_bind (hget : ∀ server, self.get (self.set server s) = server)
    (hb : ∀ socket, b socket (self.get s).host (self.get s).port =
      m.bind socket (self.get s).host (self.get s).port) :
    start { m with bind := b } self s = start m self s := by
  have hself : self.get (enter self .starting s).2 = { self.get s with phase := .starting } :=
    hget { self.get s with phase := .starting }
  rcases henter : enter self .starting s with ⟨u, s₁⟩
  rw [henter] at hself
  have hclaim : claimAddress { m with bind := b } self s₁ = claimAddress m self s₁ :=
    claimAddress_bind (by simpa only [hself] using hb)
  cases hphase : (self.get s).phase <;>
    simp only [start, bind, StateT.bind, get, getThe, MonadStateOf.get, StateT.get, pure, hphase,
      henter, hclaim, serve_bind]

end

/-! ## Numbers that are no ports -/

section
variable {m : Machine σ} {self : Part σ Server} {Fair : σ → Prop} (hm : m.Ranged self Fair)
include hm

/-- What a start comes to on a number that is no port. -/
def Unreported (v : Server) (answer : Except Raised Unit) (v' : Server) (made : List Event) : Prop :=
  ∃ socket text, answer = .error (.fault ⟨.tooLarge, text⟩) ∧ v' = v ∧
    made = [.opened socket, .bound socket (.error (.fault ⟨.tooLarge, text⟩))]

theorem claimAddress_overflows {v : Server} (hport : ¬ IsPort v.port) :
    Follows self Fair (claimAddress m.watched (noting self)) (claimAddress m self) v
      fun answer v' made => v' = v ∧ ∃ socket text, answer = .error (.fault ⟨.tooLarge, text⟩) ∧
        made = [.opened socket, .bound socket (.error (.fault ⟨.tooLarge, text⟩))] := by
  refine .get fun s events hv => ?_
  show Follows self Fair (_ >>= _) (_ >>= _) v _
  simp only [noting, hv]
  refine .bind (.noted hm.orderly.openSocket fun socket _ => ?_)
  refine .bind (.noted (hm.overflows socket v.host v.port hport) ?_)
  rintro _ ⟨text, rfl⟩
  exact .pure ⟨rfl, socket, text, rfl, rfl⟩

/-- The socket is opened and left behind. -/
theorem start_overflows {v : Server} (hstopped : v.phase = .stopped) (hport : ¬ IsPort v.port) :
    Follows self Fair (start m.watched (noting self)) (start m self) v (Unreported v) := by
  refine .get fun s events hv => ?_
  simp only [noting, hv, hstopped]
  refine .bind (enter_follows hm.orderly ?_)
  refine .bind ((claimAddress_overflows hm (v := { v with phase := .starting }) hport).mono ?_)
  rintro _ _ _ ⟨rfl, socket, text, rfl, rfl⟩
  simp only [List.nil_append]
  refine .bind (enter_follows hm.orderly (.pure ⟨socket, text, rfl, ?_, rfl⟩))
  rw [← hstopped]

end

/-! ## Any number -/

/-- A start is over as it should be: the server listens on the one socket that is open, or has failed
with a failure of its own, and then it is stopped and its socket is closed. -/
inductive Reported (v : Server) : Except Raised Unit → Server → List Event → Prop
  | listening {v' : Server} {events : List Event} {h : Handles} (hphase : v'.phase = .listening)
      (hhandles : v'.handles = some h) (hsockets : openSockets events = [(h.socket, some v'.port)]) :
      Reported v (.ok ()) v' events
  | failed {f : Failure} {v' : Server} {events : List Event}
      (hf : f = .portInUse v.port ∨ ∃ message, f = .serverStart message)
      (hphase : v'.phase = .stopped) (hhandles : v'.handles = none)
      (hsockets : openSockets events = []) : Reported v (.error (.failure f)) v' events

theorem Started.reported {v v' : Server} {answer : Except Raised Unit} {made : List Event}
    (h : Started v answer v' made) (hsmooth : Smooth v.startupTimeout made)
    (hhandles : v.handles = none) : Reported v answer v' made := by
  have hsettled : Settled v' ([] ++ made) := h.settled hsmooth hhandles rfl
  obtain ⟨htaken, hfree⟩ := h.outcome hsmooth
  rw [List.nil_append] at hsettled
  cases hsettled with
  | stopped hphase hhandles' hsockets =>
    by_cases haddress : AddressTaken made
    · obtain ⟨rfl, _⟩ := htaken haddress
      exact .failed (.inl rfl) hphase hhandles' hsockets
    · rcases hfree haddress with ⟨_, hlistening⟩ | ⟨message, rfl, _⟩
      · exact absurd (hphase.symm.trans hlistening) (by decide)
      · exact .failed (.inr ⟨message, rfl⟩) hphase hhandles' hsockets
  | listening hphase hhandles' hsockets _ =>
    have hnot : v'.phase ≠ .stopped := fun hstopped =>
      absurd (hphase.symm.trans hstopped) (by decide)
    by_cases haddress : AddressTaken made
    · exact absurd (htaken haddress).2 hnot
    · rcases hfree haddress with ⟨rfl, _⟩ | ⟨_, _, hstopped⟩
      · exact .listening hphase hhandles' hsockets
      · exact absurd hstopped hnot

/-- A start that is broken off is not over. -/
theorem Started.not_reported {v v' : Server} {answer : Except Raised Unit} {made : List Event}
    (h : Started v answer v' made) (hrough : ¬Smooth v.startupTimeout made) :
    ¬Reported v answer v' made := by
  obtain ⟨-, hstarting, -⟩ := h.broken hrough
  intro hreported
  cases hreported with
  | listening hphase => exact absurd (hphase.symm.trans hstarting) nofun
  | failed _ hphase => exact absurd (hphase.symm.trans hstarting) nofun

theorem not_reported_of_unreported {v v' : Server} {answer : Except Raised Unit} {made : List Event}
    (h : Unreported v answer v' made) : ¬ Reported v answer v' made := by
  obtain ⟨_, _, rfl, _, _⟩ := h
  intro hreported
  cases hreported

section
variable {m : Machine σ} {self : Part σ Server} {Fair : σ → Prop}

/-- On a port a start comes to what it comes to on the machine that is asked for nothing else. -/
theorem start_reported (hm : m.Ranged self Fair) {s : σ} (hfair : Fair s)
    (hphase : (self.get s).phase = .stopped) (hhandles : (self.get s).handles = none)
    (hport : IsPort (self.get s).port) : ∃ made,
      start m.watched (noting self) (s, []) = ((start m self s).1, ((start m self s).2, made)) ∧
        (Reported (self.get s) (start m self s).1 (self.get (start m self s).2) made ↔
          Smooth (self.get s).startupTimeout made) := by
  have hplain : start m.inRange self s = start m self s :=
    start_bind (fun server => hm.orderly.get_set server s) fun socket => if_pos hport
  have hwatched : start m.inRange.watched (noting self) (s, []) =
      start m.watched (noting self) (s, []) := by
    refine start_bind (m := m.watched) (fun server => hm.orderly.get_set server s) fun socket => ?_
    exact congrArg (noted (.bound socket)) (if_pos hport)
  obtain ⟨made, hrun, _, hstarted⟩ := start_follows hm.orderly hphase s [] hfair rfl
  rw [← hplain, ← hwatched]
  refine ⟨made, hrun, fun hreported => ?_, fun hsmooth => hstarted.reported hsmooth hhandles⟩
  exact Decidable.byContradiction fun hrough => hstarted.not_reported hrough hreported

/-- A start of a server that is stopped is reported and cleaned up exactly if its port is a port and
nothing is refused that has to do with its worker.  On any other number the system's complaint comes
out as it is; the server is stopped again, and the socket that was opened for it stays open.  In a
start a worker is waited for only once it has ended, or once the clock has passed its deadline. -/
theorem start_reported_iff (hm : m.Ranged self Fair) {s : σ} (hfair : Fair s)
    (hphase : (self.get s).phase = .stopped) (hhandles : (self.get s).handles = none) :
    ∃ answer s' events, start m self s = (answer, s') ∧
      start m.watched (noting self) (s, []) = (answer, (s', events)) ∧
      (Reported (self.get s) answer (self.get s') events ↔
        IsPort (self.get s).port ∧ Smooth (self.get s).startupTimeout events) ∧
      (¬ IsPort (self.get s).port → ∃ socket text, answer = .error (.fault ⟨.tooLarge, text⟩) ∧
        self.get s' = self.get s ∧ openSockets events = [(socket, none)]) := by
  by_cases hport : IsPort (self.get s).port
  · obtain ⟨made, hrun, hreported⟩ := start_reported hm hfair hphase hhandles hport
    refine ⟨_, _, made, rfl, hrun, ?_, fun hnot => absurd hport hnot⟩
    exact hreported.trans (and_iff_right hport).symm
  · obtain ⟨made, hrun, _, hunreported⟩ := start_overflows hm hphase hport s [] hfair rfl
    refine ⟨_, _, made, rfl, hrun,
      iff_of_false (not_reported_of_unreported hunreported) fun h => hport h.1, fun _ => ?_⟩
    obtain ⟨socket, text, hanswer, hself, rfl⟩ := hunreported
    exact ⟨socket, text, hanswer, hself, rfl⟩

end

/-! ## The machine in memory -/

/-- The machine, where a number that is no port is turned down before anything is asked of it. -/
def Machine.checked (m : Machine σ) : Machine σ :=
  { m with
    bind := fun socket host port =>
      if IsPort port then m.bind socket host port
      else pure (.error (.fault ⟨.tooLarge, "bind(): port must be 0-65535."⟩)) }

theorem Machine.Orderly.checked {m : Machine σ} {own : Part σ Server} {Fair : σ → Prop}
    (hm : m.Orderly own Fair) : m.checked.Ranged own Fair where
  orderly :=
    { get_set := hm.get_set
      fair_set := hm.fair_set
      openSocket := hm.openSocket
      bind := fun socket host port => by
        by_cases hport : IsPort port
        · simpa only [Machine.inRange, Machine.checked, if_pos hport] using hm.bind socket host port
        · simp only [Machine.inRange, if_neg hport]
          exact fun s hs => ⟨hs, rfl, trivial⟩
      close := hm.close
      prepare := hm.prepare
      launch := hm.launch
      hasStarted := hm.hasStarted
      isAlive := hm.isAlive
      askToExit := hm.askToExit
      join := hm.join
      now := hm.now
      sleep := hm.sleep }
  overflows socket host port hport := by
    simp only [Machine.checked, if_neg hport]
    exact fun s hs => ⟨hs, rfl, _, rfl⟩

namespace Simulation

/-- A server that is to listen on a number, in a world where nothing goes wrong. -/
def onPort (port : Int) : World × Server := ({}, { port })

theorem onPort_peaceful (port : Int) : Peaceful (onPort port) :=
  ⟨rfl, show (0 : Int) < 50001 by decide, fun _ _ => nofun⟩

theorem start_reported_iff_onPort : Peaceful (onPort 80) ∧
    ∃ answer s' events, start (machine.within world).checked server (onPort 80) = (answer, s') ∧
      start (machine.within world).checked.watched (noting server) (onPort 80, []) =
        (answer, (s', events)) ∧
      Reported (server.get (onPort 80)) answer (server.get s') events := by
  obtain ⟨answer, s', events, hrun, hwatched, hreported, _⟩ :=
    start_reported_iff machine_orderly.checked (onPort_peaceful 80) rfl rfl
  have hsmooth : Smooth (server.get (onPort 80)).startupTimeout events := by
    rw [← show _ = events from congrArg (fun x => x.2.2) hwatched]
    decide +kernel
  exact ⟨onPort_peaceful 80, answer, s', events, hrun, hwatched,
    hreported.2 ⟨by decide, hsmooth⟩⟩

/-- The port 70000: the complaint is none of the server's failures, and a socket is left open. -/
theorem start_overflows_onPort : ∃ s' events,
    start (machine.within world).checked.watched (noting server) (onPort 70000, []) =
      (.error (.fault ⟨.tooLarge, "bind(): port must be 0-65535."⟩), (s', events)) ∧
    (server.get s').phase = .stopped ∧ openSockets events = [(0, none)] ∧
    ¬ Reported (server.get (onPort 70000))
      (.error (.fault ⟨.tooLarge, "bind(): port must be 0-65535."⟩)) (server.get s') events :=
  ⟨_, _, rfl, rfl, rfl, nofun⟩

end Simulation

end Server
end SvgIcon
