import SvgIcon.Server.Basic

/-!
Watching a server.  What it does with its sockets and what it sees of its worker is noted in order.
A computation of the watched server is compared with the one that is not watched, and described by
the server that it leaves and the events that it adds, rule by rule along its text.
-/

namespace SvgIcon
namespace Server

variable {σ α β : Type}

/-! ## Events -/

inductive Event
  | opened (socket : Nat)
  | bound (socket : Nat) (answer : Except BindError Int)
  | prepared (answer : Except Raised Nat)
  | looked (worker : Nat) (started : Bool)
  | joined (worker : Nat) (answer : Except Raised Unit)
  | closed (socket : Nat)

/-- The sockets that are open, each with the port that it is bound to. -/
abbrev Sockets := List (Nat × Option Int)

def Event.apply (sockets : Sockets) : Event → Sockets
  | .opened socket => (socket, none) :: sockets
  | .bound socket (.ok port) =>
    sockets.map fun entry => if entry.1 = socket then (socket, some port) else entry
  | .closed socket => sockets.filter (·.1 ≠ socket)
  | _ => sockets

/-- The sockets that are open after events, when none was open before. -/
def openSockets (events : List Event) : Sockets := events.foldl Event.apply []

theorem openSockets_append (events made : List Event) :
    openSockets (events ++ made) = made.foldl Event.apply (openSockets events) :=
  List.foldl_append

theorem foldl_looked (worker n : Nat) (started : Bool) (sockets : Sockets) :
    (List.replicate n (Event.looked worker started)).foldl Event.apply sockets = sockets := by
  induction n with
  | zero => rfl
  | succ n ih => exact ih

/-! ## Complaints -/

/-- What a call is broken off by when this happens to a server with a timeout: no worker is made, one
is made that no deadline can be reckoned for, or the end of one cannot be waited for. -/
def Event.complaint? (timeout : Seconds) : Event → Option Raised
  | .prepared (.ok _) => if timeout.double? = none then some (.fault beyondClock) else none
  | .prepared (.error e) => some e
  | .joined _ (.error e) => some e
  | _ => none

def complaints (timeout : Seconds) (events : List Event) : List Raised :=
  events.filterMap (Event.complaint? timeout)

/-- Nothing is refused that has to do with workers and their timeout. -/
def Smooth (timeout : Seconds) (events : List Event) : Prop := complaints timeout events = []

instance (timeout : Seconds) (events : List Event) : Decidable (Smooth timeout events) :=
  inferInstanceAs (Decidable (complaints timeout events = []))

theorem complaints_append (timeout : Seconds) (events made : List Event) :
    complaints timeout (events ++ made) = complaints timeout events ++ complaints timeout made :=
  List.filterMap_append

theorem smooth_append {timeout : Seconds} {events made : List Event} :
    Smooth timeout (events ++ made) ↔ Smooth timeout events ∧ Smooth timeout made := by
  rw [Smooth, complaints_append, List.append_eq_nil_iff]
  rfl

theorem not_smooth_of_complaints {timeout : Seconds} {events : List Event} {e : Raised}
    (h : complaints timeout events = [e]) : ¬Smooth timeout events := by
  rw [Smooth, h]
  exact nofun

/-! ## Watching -/

def beside : Part (σ × List Event) σ := ⟨Prod.fst, fun s x => (s, x.2)⟩

/-- A part of a state, where events are noted beside the state. -/
def noting (p : Part σ α) : Part (σ × List Event) α :=
  ⟨fun x => p.get x.1, fun a x => (p.set a x.1, x.2)⟩

def noted (event : α → Event) (act : StateM σ α) : StateM (σ × List Event) α := fun x =>
  ((act x.1).1, ((act x.1).2, x.2 ++ [event (act x.1).1]))

def Machine.watched (m : Machine σ) : Machine (σ × List Event) :=
  { m.within beside with
    openSocket := noted .opened m.openSocket
    bind := fun socket host port => noted (.bound socket) (m.bind socket host port)
    close := fun socket => noted (fun _ => .closed socket) (m.close socket)
    prepare := fun name logLevel socket => noted .prepared (m.prepare name logLevel socket)
    hasStarted := fun worker => noted (.looked worker) (m.hasStarted worker)
    join := fun worker timeout => noted (.joined worker) (m.join worker timeout) }

/-! ## Machines that keep to themselves -/

/-- From a fair state the computation leads to a fair one, leaves the server alone, and answers
like this. -/
def Minds (self : Part σ Server) (Fair : σ → Prop) (act : StateM σ α) (answers : α → Prop) : Prop :=
  ∀ s, Fair s → Fair (act s).2 ∧ self.get (act s).2 = self.get s ∧ answers (act s).1

/-- The system binds a socket to a real port, or refuses. -/
def Binds : Except BindError Int → Prop
  | .ok port => port ≠ 0
  | .error (.fault _) => False
  | .error _ => True

/-- No call to the machine comes back to the server itself, and nobody interrupts a sleep.  Apart
from that sockets, workers and the clock may behave in any way, and what is asked about workers may
be refused. -/
structure Machine.Orderly (m : Machine σ) (own : Part σ Server) (Fair : σ → Prop) : Prop where
  get_set : ∀ server s, own.get (own.set server s) = server
  fair_set : ∀ server s, Fair s → Fair (own.set server s)
  openSocket : Minds own Fair m.openSocket fun _ => True
  bind : ∀ socket host port, Minds own Fair (m.bind socket host port) Binds
  close : ∀ socket, Minds own Fair (m.close socket) fun _ => True
  prepare : ∀ name logLevel socket, Minds own Fair (m.prepare name logLevel socket) fun _ => True
  launch : ∀ worker, Minds own Fair (m.launch worker) fun _ => True
  hasStarted : ∀ worker, Minds own Fair (m.hasStarted worker) fun _ => True
  isAlive : ∀ worker, Minds own Fair (m.isAlive worker) fun _ => True
  askToExit : ∀ worker, Minds own Fair (m.askToExit worker) fun _ => True
  join : ∀ worker timeout, Minds own Fair (m.join worker timeout) fun _ => True
  now : Minds own Fair m.now fun _ => True
  sleep : ∀ time, Minds own Fair (m.sleep time) (· = .ok ())

/-! ## Following a computation -/

/-- From a fair state with this server the watched computation does what the plain one does, adds
events, and ends fair, with an answer, a server and added events such that `Q`. -/
def Follows (self : Part σ Server) (Fair : σ → Prop) (watched : StateM (σ × List Event) α)
    (plain : StateM σ α) (server : Server) (Q : α → Server → List Event → Prop) : Prop :=
  ∀ s events, Fair s → self.get s = server →
    ∃ made, watched (s, events) = ((plain s).1, ((plain s).2, events ++ made)) ∧
      Fair (plain s).2 ∧ Q (plain s).1 (self.get (plain s).2) made

namespace Follows

variable {self : Part σ Server} {Fair : σ → Prop} {server : Server}
  {x : StateM (σ × List Event) α} {y : StateM σ α} {Q : α → Server → List Event → Prop}

theorem pure {a : α} (h : Q a server []) : Follows self Fair (pure a) (pure a) server Q := by
  intro s events hfair hserver
  refine ⟨[], ?_, hfair, ?_⟩
  · rw [List.append_nil]
    rfl
  · show Q a (self.get s) []
    rwa [hserver]

theorem mono {P : α → Server → List Event → Prop} (h : Follows self Fair x y server P)
    (hQ : ∀ a server' made, P a server' made → Q a server' made) :
    Follows self Fair x y server Q := by
  intro s events hfair hserver
  obtain ⟨made, hx, hfair', hP⟩ := h s events hfair hserver
  exact ⟨made, hx, hfair', hQ _ _ _ hP⟩

/-- What follows is described from the server that the first computation leaves. -/
theorem bind {f : α → StateM (σ × List Event) β} {g : α → StateM σ β}
    {Q : β → Server → List Event → Prop}
    (h : Follows self Fair x y server fun a server' made =>
      Follows self Fair (f a) (g a) server' fun b server'' more => Q b server'' (made ++ more)) :
    Follows self Fair (x >>= f) (y >>= g) server Q := by
  intro s events hfair hserver
  obtain ⟨made, hx, hfair', hnext⟩ := h s events hfair hserver
  obtain ⟨more, hf, hfair'', hQ⟩ := hnext (y s).2 (events ++ made) hfair' rfl
  refine ⟨made ++ more, ?_, hfair'', hQ⟩
  show f (x (s, events)).1 (x (s, events)).2 = _
  rw [hx, ← List.append_assoc]
  exact hf

theorem get {f : σ × List Event → StateM (σ × List Event) α} {g : σ → StateM σ α}
    (h : ∀ s events, self.get s = server → Follows self Fair (f (s, events)) (g s) server Q) :
    Follows self Fair (get >>= f) (get >>= g) server Q :=
  fun s events hfair hserver => h s events hserver s events hfair hserver

theorem unnoted {act : StateM σ α} {answers : α → Prop} (hact : Minds self Fair act answers)
    (h : ∀ a, answers a → Q a server []) : Follows self Fair (beside.run act) act server Q := by
  intro s events hfair hserver
  obtain ⟨hfair', hself, hanswers⟩ := hact s hfair
  refine ⟨[], ?_, hfair', ?_⟩
  · rw [List.append_nil]
    rfl
  · rw [hself, hserver]
    exact h _ hanswers

theorem noted {act : StateM σ α} {answers : α → Prop} {event : α → Event}
    (hact : Minds self Fair act answers) (h : ∀ a, answers a → Q a server [event a]) :
    Follows self Fair (noted event act) act server Q := by
  intro s events hfair hserver
  obtain ⟨hfair', hself, hanswers⟩ := hact s hfair
  refine ⟨[event (act s).1], rfl, hfair', ?_⟩
  rw [hself, hserver]
  exact h _ hanswers

section
variable {m : Machine σ} (hm : m.Orderly self Fair)
include hm

theorem change {Q : Unit → Server → List Event → Prop} {u : Server → Server}
    (h : Q () (u server) []) :
    Follows self Fair ((noting self).run (modify u)) (self.run (modify u)) server Q := by
  intro s events hfair hserver
  refine ⟨[], ?_, hm.fair_set _ s hfair, ?_⟩
  · rw [List.append_nil]
    rfl
  · show Q () (self.get (self.set (u (self.get s)) s)) []
    rwa [hm.get_set, hserver]

theorem openSocket {Q : Nat → Server → List Event → Prop}
    (h : ∀ socket, Q socket server [.opened socket]) :
    Follows self Fair m.watched.openSocket m.openSocket server Q :=
  .noted hm.openSocket fun socket _ => h socket

theorem bindSocket {socket : Nat} {host : String} {port : Int}
    {Q : Except BindError Int → Server → List Event → Prop}
    (h : ∀ answer, Binds answer → Q answer server [.bound socket answer]) :
    Follows self Fair (m.watched.bind socket host port) (m.bind socket host port) server Q :=
  .noted (hm.bind socket host port) h

theorem close {socket : Nat} {Q : Unit → Server → List Event → Prop}
    (h : Q () server [.closed socket]) :
    Follows self Fair (m.watched.close socket) (m.close socket) server Q :=
  .noted (hm.close socket) fun _ _ => h

theorem hasStarted {worker : Nat} {Q : Bool → Server → List Event → Prop}
    (h : ∀ started, Q started server [.looked worker started]) :
    Follows self Fair (m.watched.hasStarted worker) (m.hasStarted worker) server Q :=
  .noted (hm.hasStarted worker) fun started _ => h started

theorem prepare {name logLevel : String} {socket : Nat}
    {Q : Except Raised Nat → Server → List Event → Prop}
    (h : ∀ answer, Q answer server [.prepared answer]) :
    Follows self Fair (m.watched.prepare name logLevel socket) (m.prepare name logLevel socket)
      server Q :=
  .noted (hm.prepare name logLevel socket) fun answer _ => h answer

theorem join {worker : Nat} {timeout : Seconds} {Q : Except Raised Unit → Server → List Event → Prop}
    (h : ∀ answer, Q answer server [.joined worker answer]) :
    Follows self Fair (m.watched.join worker timeout) (m.join worker timeout) server Q :=
  .noted (hm.join worker timeout) fun answer _ => h answer

end

end Follows
end Server
end SvgIcon
