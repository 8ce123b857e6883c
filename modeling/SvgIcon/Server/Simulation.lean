import SvgIcon.Server.Machine
import SvgIcon.Value.Assoc

/-!
A machine in memory.  Its workers follow plans, its clock moves only when someone sleeps, and an
address can be bound once at a time.
-/

namespace SvgIcon
namespace Server
namespace Simulation

/-- How a worker comes up. -/
inductive Conduct
  | ready
  /-- It has started after so many ticks. -/
  | slow (ticks : Int)
  /-- It ends as soon as it is launched. -/
  | exits
  | hangs
  deriving DecidableEq, Repr

structure Plan where
  conduct : Conduct := .ready
  /-- The ticks after which it ends, if it does by itself. -/
  lifetime : Option Int := none
  deriving DecidableEq, Repr

structure Worker where
  name : String
  plan : Plan := {}
  ticks : Int := 0
  isAlive : Bool := false
  hasStarted : Bool := false
  askedToExit : Bool := false
  deriving Repr

/-- What a worker has come to by its plan.  It may have started in the tick in which it ends, and
one that was joined while it was being launched has started all the same. -/
def Worker.proceed (t : Worker) : Worker :=
  let comesUp := match t.plan.conduct with
    | .ready => true
    | .slow n => n ≤ t.ticks
    | .exits | .hangs => false
  let ends := t.plan.conduct = .exits || match t.plan.lifetime with
    | some n => n ≤ t.ticks
    | none => false
  { t with hasStarted := t.hasStarted || comesUp, isAlive := t.isAlive && !ends }

def Worker.tick (t : Worker) : Worker :=
  if t.isAlive then { t with ticks := t.ticks + 1 }.proceed else t

structure World where
  /-- How many sockets have been opened. -/
  opened : Nat := 0
  /-- The sockets that are bound, each with its host and port. -/
  bound : List (Nat × String × Int) := []
  /-- The port for the next socket that has no wish. -/
  freshPort : Int := 50001
  /-- Hosts that cannot be bound. -/
  refusals : Assoc BindError := []
  workers : List Worker := []
  /-- The plans of workers to come; without one a worker is ready at once. -/
  plans : List Plan := []
  clock : Double := .zero
  sleeps : Nat := 0
  /-- The sleep that is interrupted. -/
  interruptAt : Option Nat := none

namespace World

def changeWorker (w : World) (n : Nat) (f : Worker → Worker) : World :=
  { w with workers := w.workers.modify n f }

def worker (w : World) (n : Nat) : Worker := w.workers[n]?.getD { name := "" }

/-- The port that a bind would get. -/
def offer (w : World) (port : Int) : Int := if port = 0 then w.freshPort else port

/-- Bind a socket.  A fresh port that is offered is used up, even if someone has bound it already. -/
def bind (w : World) (socket : Nat) (host : String) (port : Int) :
    Except BindError Int × World :=
  match w.refusals.lookup host with
  | some e => (.error e, w)
  | none =>
    let offered := w.offer port
    let w := if port = 0 then { w with freshPort := w.freshPort + 1 } else w
    if w.bound.any fun b => b.2 = (host, offered) then (.error .addressInUse, w)
    else (.ok offered, { w with bound := w.bound ++ [(socket, host, offered)] })

/-- A worker is launched, but has not done anything yet. -/
def launch (w : World) (n : Nat) : World :=
  w.changeWorker n fun t => { t with isAlive := true, ticks := 0 }

def proceed (w : World) (n : Nat) : World := w.changeWorker n Worker.proceed

/-- Let time pass; a sleep that is interrupted leaves the workers where they were. -/
def sleep (w : World) (time : Double) : Except Raised Unit × World :=
  let w := { w with clock := w.clock.add time, sleeps := w.sleeps + 1 }
  if w.interruptAt = some w.sleeps then (.error .interrupt, w)
  else (.ok (), { w with workers := w.workers.map Worker.tick })

end World

def machine : Machine World where
  openSocket w := (w.opened, { w with opened := w.opened + 1 })
  bind socket host port w := w.bind socket host port
  close socket w := ((), { w with bound := w.bound.filter (·.1 ≠ socket) })
  prepare name _ _ w :=
    (.ok w.workers.length, { w with
      workers := w.workers ++ [{ name, plan := w.plans.headD {} }]
      plans := w.plans.tail })
  launch n w := ((), (w.launch n).proceed n)
  hasStarted n w := ((w.worker n).hasStarted, w)
  isAlive n w := ((w.worker n).isAlive, w)
  askToExit n w := ((), w.changeWorker n fun t => { t with askedToExit := true })
  join n _ w := (.ok (), w.changeWorker n fun t => { t with isAlive := false })
  now w := (w.clock, w)
  sleep time w := w.sleep time

end Simulation
end Server
end SvgIcon
