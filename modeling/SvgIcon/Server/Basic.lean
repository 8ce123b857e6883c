import SvgIcon.Server.Machine

/-!
A server that can be started and stopped.  Its own state is a part of the state that the machine
threads through, so that whatever a worker does while it is launched or joined, be it to start or
stop this very server, is seen here.

The socket is bound while `start` runs, hence a port that is taken is known at once; whether the
worker comes up is then watched until the timeout.

The timeout is not looked at before it is used.  What cannot be added to the time of the clock, or
cannot be waited, is complained about in the middle of a call, and the call ends there.
-/

namespace SvgIcon
namespace Server

inductive Phase
  | stopped
  | starting
  | listening
  | stopping
  deriving DecidableEq, Repr

def Phase.name : Phase → String
  | stopped => "stopped"
  | starting => "starting"
  | listening => "listening"
  | stopping => "stopping"

/-- The worker of a server that has been started, and the socket that it serves. -/
structure Handles where
  worker : Nat
  socket : Nat
  deriving DecidableEq, Repr

end Server

structure Server where
  host : String := "127.0.0.1"
  /-- The port to bind, and once bound the port that is served. -/
  port : Int := 3600
  startupTimeout : Server.Seconds := .float (.ofRatio false 10 1)
  logLevel : String := "info"
  phase : Server.Phase := .stopped
  handles : Option Server.Handles := none
  deriving Repr

namespace Server

def isRunning (s : Server) : Bool := s.phase = .listening

def workerName (s : Server) : String := s!"svg-optimizer-{s.port}"

variable {σ : Type}

def enter (self : Part σ Server) (phase : Phase) : StateM σ Unit :=
  self.run (modify fun s => { s with phase })

def stopping : Failure := .serverStart "Server is stopping"

def unbound (s : Server) (reason : String) : Failure :=
  .serverStart s!"Unable to bind {s.host}:{s.port}: {reason}"

def exited (s : Server) : Failure := .serverStart s!"Server on port {s.port} exited during startup"

def late (s : Server) : Failure := .serverStart s!"Server on port {s.port} did not start in time"

/-- A socket that is bound to the address; its port becomes the port of the server. -/
def claimAddress (m : Machine σ) (self : Part σ Server) : StateM σ (Except Raised Nat) := do
  let s := self.get (← get)
  let socket ← m.openSocket
  match ← m.bind socket s.host s.port with
  | .ok port =>
    self.run (modify fun s => { s with port })
    return .ok socket
  | .error .addressInUse =>
    m.close socket
    return .error (.failure (.portInUse s.port))
  | .error (.refused reason) =>
    m.close socket
    return .error (.failure (s.unbound reason))
  | .error (.fault f) => return .error (.fault f)

/-- The time between two looks at a worker that is to come up. -/
def lookInterval : Double := .ofRatio false 1 100

/-- More looks than anyone waits for, three hundred years of them. -/
def lookLimit : Nat := 1000000000000

/-- More looks than fit in a timeout, on every clock that runs at half the speed or faster. -/
def looks (timeout : Double) : Nat :=
  match (timeout.mul (.ofRatio false 200 1)).floor? with
  | some n => min lookLimit (n.toNat + 16)
  | none => lookLimit

/-- Watch a worker until it has started.  It fails if the worker ends before, or is not there at
the deadline; having looked more often than fits in the time is past the deadline, too. -/
def watch (m : Machine σ) (self : Part σ Server) (worker : Nat) (deadline : Double) :
    Nat → StateM σ (Except Raised Unit)
  | 0 => return .error (.failure (self.get (← get)).late)
  | n + 1 => do
    if ← m.hasStarted worker then return .ok ()
    else if !(← m.isAlive worker) then return .error (.failure (self.get (← get)).exited)
    else if deadline.lt (← m.now) then return .error (.failure (self.get (← get)).late)
    else
      match ← m.sleep lookInterval with
      | .ok () => watch m self worker deadline n
      | .error e => return .error e

/-- The complaint about a timeout that no deadline can be reckoned with. -/
def beyondClock : Fault := ⟨.tooLarge, "int too large to convert to float"⟩

/-- Watch a worker for the time that the server gives it. -/
def await (m : Machine σ) (self : Part σ Server) (worker : Nat) :
    StateM σ (Except Raised Unit) := do
  let s := self.get (← get)
  let time ← m.now
  match s.startupTimeout.double? with
  | some timeout => watch m self worker (time.add timeout) (looks timeout)
  | none => return .error (.fault beyondClock)

/-- Ask the worker to end and wait for it, if there is one. -/
def dismiss (m : Machine σ) (s : Server) : StateM σ (Except Raised Unit) := do
  match s.handles with
  | some h =>
    m.askToExit h.worker
    m.join h.worker s.startupTimeout
  | none => return .ok ()

/-- Give up the worker and the socket; what is closed is the socket that the server has once the
worker has been waited for.  If waiting is refused, everything stays as it is. -/
def teardown (m : Machine σ) (self : Part σ Server) : StateM σ (Except Raised Unit) := do
  match ← dismiss m (self.get (← get)) with
  | .error e => return .error e
  | .ok () =>
    match (self.get (← get)).handles with
    | some h => m.close h.socket
    | none => pure ()
    self.run (modify fun s => { s with handles := none, phase := .stopped })
    return .ok ()

/-- Launch a worker on a socket and see it come up.  A failure of the server's own has it give up
both; anything else leaves everything as it is. -/
def serve (m : Machine σ) (self : Part σ Server) (socket : Nat) : StateM σ (Except Raised Unit) := do
  let s := self.get (← get)
  match ← m.prepare s.workerName s.logLevel socket with
  | .error e => return .error e
  | .ok worker =>
    self.run (modify fun s => { s with handles := some { worker, socket } })
    m.launch worker
    match ← await m self worker with
    | .ok () =>
      enter self .listening
      return .ok ()
    | .error (.failure f) =>
      match ← teardown m self with
      | .ok () => return .error (.failure f)
      | .error e => return .error e
    | .error e => return .error e

def start (m : Machine σ) (self : Part σ Server) : StateM σ (Except Raised Unit) := do
  let s := self.get (← get)
  match s.phase with
  | .listening | .starting => return .error (.failure (.portInUse s.port))
  | .stopping => return .error (.failure stopping)
  | .stopped =>
    enter self .starting
    match ← claimAddress m self with
    | .ok socket => serve m self socket
    | .error e =>
      enter self .stopped
      return .error e

/-- Stop a server, wherever it is. -/
def stop (m : Machine σ) (self : Part σ Server) : StateM σ (Except Raised Unit) := do
  match (self.get (← get)).phase with
  | .stopped => return .ok ()
  | _ =>
    enter self .stopping
    teardown m self

/-- The time between two looks at a server that is waited for, in seconds. -/
def pollInterval : Double := .ofRatio false 1 2

/-- Wait while a server listens, for so many looks at most; whether it has ended. -/
def wait (m : Machine σ) (self : Part σ Server) (interval : Double) :
    Nat → StateM σ (Except Raised Bool)
  | 0 => return .ok false
  | n + 1 => do
    let s := self.get (← get)
    match s.phase, s.handles with
    | .listening, some h =>
      if ← m.isAlive h.worker then
        match ← m.sleep interval with
        | .ok () => wait m self interval n
        | .error e => return .error e
      else return .ok true
    | _, _ => return .ok true

end Server
end SvgIcon
