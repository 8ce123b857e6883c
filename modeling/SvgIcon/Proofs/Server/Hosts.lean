import Mathlib.Logic.Function.Basic
import SvgIcon.Server.Basic

/-!
Hosts of servers.  The sockets of a host are known by the ports that they are bound to, and what the
machine does to them is described call by call.  A computation is described by the servers and the
sockets that it leaves, rule by rule along its text.
-/

namespace SvgIcon
namespace Server

variable {σ ι α β : Type}

/-! ## Hosts -/

/-- The port that each socket is bound to; one that is not open is bound to none. -/
abbrev Ports := Nat → Option Int

/-- A host of servers that have their places in a state. -/
structure Host (σ ι : Type) where
  name : String
  own : ι → Part σ Server
  ports : σ → Ports
  /-- The states that the host can be in. -/
  Fair : σ → Prop

def Host.servers (host : Host σ ι) (s : σ) : ι → Server := fun i => (host.own i).get s

/-- From a fair state the computation leads to a fair one and leaves the servers alone; what it
answers and what becomes of the sockets is such that `Q`. -/
def Host.Deals (host : Host σ ι) (act : StateM σ α)
    (Q : (ι → Server) → Ports → α → Ports → Prop) : Prop :=
  ∀ s, host.Fair s → host.Fair (act s).2 ∧ host.servers (act s).2 = host.servers s ∧
    Q (host.servers s) (host.ports s) (act s).1 (host.ports (act s).2)

/-- The answers to a bind.  A port is in use while another socket is bound to it; port 0 stands for
one that is free.  The system may refuse at any time for a reason of its own. -/
inductive Answers (f : Ports) (socket : Nat) : Int → Except BindError Int → Ports → Prop
  | inUse {port : Int} (hport : port ≠ 0) (htaken : ∃ other, other ≠ socket ∧ f other = some port) :
      Answers f socket port (.error .addressInUse) f
  | refused {port : Int} {e : BindError} (he : e ≠ .addressInUse) :
      Answers f socket port (.error e) f
  | asked {port : Int} (hport : port ≠ 0) (hfree : ∀ other, other ≠ socket → f other ≠ some port) :
      Answers f socket port (.ok port) (Function.update f socket (some port))
  | chosen {port : Int} (hfree : ∀ other, f other ≠ some port) :
      Answers f socket 0 (.ok port) (Function.update f socket (some port))

/-- A worker that ends may close the socket that it serves. -/
def LetsGo (worker : Nat) (w : ι → Server) (f f' : Ports) : Prop :=
  f' = f ∨ ∃ i h, (w i).handles = some h ∧ h.worker = worker ∧ f' = Function.update f h.socket none

/-- The worker is no server's. -/
def Unknown (worker : Nat) (w : ι → Server) : Prop :=
  ∀ i h, (w i).handles = some h → h.worker ≠ worker

/-- The socket is no server's. -/
def Unheld (socket : Nat) (w : ι → Server) : Prop :=
  ∀ i h, (w i).handles = some h → h.socket ≠ socket

/-- What is raised is none of the failures that servers fail with. -/
def Foreign (e : Raised) : Prop := ∀ f, e ≠ .failure f

/-- The machine of a host.  Its sockets are opened, bound and closed as they are asked to be, and no
call to it comes back to a server.  Apart from that workers and the clock may behave in any way, a
sleep may be interrupted, and what is asked about workers may be refused. -/
structure Machine.Hosts (m : Machine σ) (host : Host σ ι) : Prop where
  get_set : ∀ i server s, (host.own i).get ((host.own i).set server s) = server
  get_set_of_ne : ∀ i j server s, j ≠ i →
    (host.own j).get ((host.own i).set server s) = (host.own j).get s
  fair_set : ∀ i server s, host.Fair s → host.Fair ((host.own i).set server s)
  ports_set : ∀ i server s, host.ports ((host.own i).set server s) = host.ports s
  openSocket : host.Deals m.openSocket fun w f socket f' =>
    f socket = none ∧ Unheld socket w ∧ f' = f
  bind : ∀ socket port, host.Deals (m.bind socket host.name port) fun _ f answer f' =>
    Answers f socket port answer f'
  close : ∀ socket, host.Deals (m.close socket) fun _ f _ f' => f' = Function.update f socket none
  prepare : ∀ name logLevel socket, host.Deals (m.prepare name logLevel socket)
    fun w f answer f' => f' = f ∧
      (∀ worker, answer = .ok worker → Unknown worker w) ∧ ∀ e, answer = .error e → Foreign e
  launch : ∀ worker, host.Deals (m.launch worker) fun _ f _ f' => f' = f
  hasStarted : ∀ worker, host.Deals (m.hasStarted worker) fun _ f _ f' => f' = f
  isAlive : ∀ worker, host.Deals (m.isAlive worker) fun _ f _ f' => f' = f
  askToExit : ∀ worker, host.Deals (m.askToExit worker) fun w f _ f' => LetsGo worker w f f'
  join : ∀ worker timeout, host.Deals (m.join worker timeout) fun w f answer f' =>
    LetsGo worker w f f' ∧ ∀ e, answer = .error e → Foreign e
  now : host.Deals m.now fun _ f _ f' => f' = f
  sleep : ∀ time, host.Deals (m.sleep time) fun _ f answer f' =>
    f' = f ∧ (answer = .ok () ∨ answer = .error .interrupt)

/-- From a fair state with these servers and sockets the computation leads to a fair one, with an
answer, servers and sockets such that `Q`. -/
def Host.Leads (host : Host σ ι) (w : ι → Server) (f : Ports) (act : StateM σ α)
    (Q : α → (ι → Server) → Ports → Prop) : Prop :=
  ∀ s, host.Fair s → host.servers s = w → host.ports s = f →
    host.Fair (act s).2 ∧ Q (act s).1 (host.servers (act s).2) (host.ports (act s).2)

namespace Host.Leads

variable {host : Host σ ι} {w : ι → Server} {f : Ports} {act : StateM σ α}
  {Q : α → (ι → Server) → Ports → Prop}

theorem pure {a : α} (h : Q a w f) : host.Leads w f (pure a) Q := by
  rintro s hfair rfl rfl
  exact ⟨hfair, h⟩

theorem mono {P : α → (ι → Server) → Ports → Prop} (h : host.Leads w f act P)
    (hQ : ∀ a w' f', P a w' f' → Q a w' f') : host.Leads w f act Q := by
  intro s hfair hw hf
  obtain ⟨hfair', hP⟩ := h s hfair hw hf
  exact ⟨hfair', hQ _ _ _ hP⟩

/-- What follows is described from the servers and the sockets that the first computation leaves. -/
theorem bind {g : α → StateM σ β} {Q : β → (ι → Server) → Ports → Prop}
    (h : host.Leads w f act fun a w' f' => host.Leads w' f' (g a) Q) :
    host.Leads w f (act >>= g) Q := by
  intro s hfair hw hf
  obtain ⟨hfair', hnext⟩ := h s hfair hw hf
  exact hnext _ hfair' rfl rfl

theorem get {g : σ → StateM σ α}
    (h : ∀ s, (∀ i, (host.own i).get s = w i) → host.Leads w f (g s) Q) :
    host.Leads w f (get >>= g) Q :=
  fun s hfair hw hf => h s (congrFun hw) s hfair hw hf

theorem deals {P : (ι → Server) → Ports → α → Ports → Prop} (hact : host.Deals act P)
    (h : ∀ a f', P w f a f' → Q a w f') : host.Leads w f act Q := by
  rintro s hfair rfl rfl
  obtain ⟨hfair', hservers, hP⟩ := hact s hfair
  rw [hservers]
  exact ⟨hfair', h _ _ hP⟩

/-- The sockets are left alone. -/
theorem quiet (hact : host.Deals act fun _ f _ f' => f' = f) (h : ∀ a, Q a w f) :
    host.Leads w f act Q := by
  refine deals hact ?_
  rintro a _ rfl
  exact h a

section
variable {m : Machine σ} (hm : m.Hosts host)
include hm

theorem openSocket {Q : Nat → (ι → Server) → Ports → Prop}
    (h : ∀ socket, f socket = none → Unheld socket w → Q socket w f) :
    host.Leads w f m.openSocket Q := by
  refine deals hm.openSocket ?_
  rintro socket _ ⟨hnew, hunheld, rfl⟩
  exact h socket hnew hunheld

theorem prepare {name logLevel : String} {socket : Nat}
    {Q : Except Raised Nat → (ι → Server) → Ports → Prop}
    (hprepared : ∀ worker, Unknown worker w → Q (.ok worker) w f)
    (hrefused : ∀ e, Foreign e → Q (.error e) w f) :
    host.Leads w f (m.prepare name logLevel socket) Q := by
  refine deals (hm.prepare name logLevel socket) ?_
  rintro (e | worker) _ ⟨rfl, hworker, hforeign⟩
  · exact hrefused e (hforeign e rfl)
  · exact hprepared worker (hworker worker rfl)

theorem close {socket : Nat} {Q : Unit → (ι → Server) → Ports → Prop}
    (h : Q () w (Function.update f socket none)) : host.Leads w f (m.close socket) Q := by
  refine deals (hm.close socket) ?_
  rintro _ _ rfl
  exact h

theorem sleep {time : Double} {Q : Except Raised Unit → (ι → Server) → Ports → Prop}
    (hrested : Q (.ok ()) w f) (hinterrupted : Q (.error .interrupt) w f) :
    host.Leads w f (m.sleep time) Q := by
  refine deals (hm.sleep time) ?_
  rintro _ _ ⟨rfl, rfl | rfl⟩
  · exact hrested
  · exact hinterrupted

theorem change [DecidableEq ι] {i : ι} {Q : Unit → (ι → Server) → Ports → Prop}
    {u : Server → Server} (h : Q () (Function.update w i (u (w i))) f) :
    host.Leads w f ((host.own i).run (modify u)) Q := by
  rintro s hfair rfl rfl
  refine ⟨hm.fair_set _ _ _ hfair, ?_⟩
  have hservers : host.servers ((host.own i).set (u ((host.own i).get s)) s) =
      Function.update (host.servers s) i (u (host.servers s i)) := by
    funext j
    by_cases hj : j = i
    · subst hj
      rw [Function.update_self]
      exact hm.get_set j _ s
    · rw [Function.update_of_ne hj]
      exact hm.get_set_of_ne i j _ s hj
  show Q () (host.servers ((host.own i).set _ s)) (host.ports ((host.own i).set _ s))
  rw [hservers, hm.ports_set]
  exact h

end

end Host.Leads

end Server
end SvgIcon
