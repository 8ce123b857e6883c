import SvgIcon.Failure
import SvgIcon.Number.Double
import SvgIcon.Part

/-!
What a server needs of the machine it runs on: sockets, workers that answer requests, and a clock.
Everything may change the threaded state, and a worker may end at any time without being asked.
Making a worker and waiting for its end may be refused, the one for a log level that nobody knows,
the other for a time that the system cannot wait.
-/

namespace SvgIcon
namespace Server

/-- A time in seconds as a caller gives it, in a number of either kind. -/
inductive Seconds
  | float (x : Double)
  | whole (n : Int)
  deriving DecidableEq, Repr

/-- The time as clocks count it.  A whole number that lies behind the finite floats has none. -/
def Seconds.double? : Seconds → Option Double
  | float x => some x
  | whole n => Double.ofInt? n

/-- Why a socket is not bound. -/
inductive BindError
  | addressInUse
  /-- The system refuses for another reason. -/
  | refused (reason : String)
  /-- The address is none that the system could be asked for. -/
  | fault (f : Fault)
  deriving Repr

/-- Sockets and workers are known by number. -/
structure Machine (σ : Type) where
  openSocket : StateM σ Nat
  /-- Bind a socket and listen.  The answer is the port, one of the machine's choice for port 0. -/
  bind : Nat → String → Int → StateM σ (Except BindError Int)
  close : Nat → StateM σ Unit
  /-- A worker of a name and a log level that is to serve a socket. -/
  prepare : String → String → Nat → StateM σ (Except Raised Nat)
  launch : Nat → StateM σ Unit
  /-- Whether a worker has come so far as to answer requests. -/
  hasStarted : Nat → StateM σ Bool
  isAlive : Nat → StateM σ Bool
  askToExit : Nat → StateM σ Unit
  /-- Wait for a worker to end, but not longer than a time. -/
  join : Nat → Seconds → StateM σ (Except Raised Unit)
  /-- The time in seconds. -/
  now : StateM σ Double
  /-- Let a time in seconds pass. -/
  sleep : Double → StateM σ (Except Raised Unit)

/-- A machine whose state is a part of a larger one. -/
def Machine.within {σ τ : Type} (p : Part τ σ) (m : Machine σ) : Machine τ where
  openSocket := p.run m.openSocket
  bind socket host port := p.run (m.bind socket host port)
  close socket := p.run (m.close socket)
  prepare name logLevel socket := p.run (m.prepare name logLevel socket)
  launch worker := p.run (m.launch worker)
  hasStarted worker := p.run (m.hasStarted worker)
  isAlive worker := p.run (m.isAlive worker)
  askToExit worker := p.run (m.askToExit worker)
  join worker timeout := p.run (m.join worker timeout)
  now := p.run m.now
  sleep time := p.run (m.sleep time)

end Server
end SvgIcon
