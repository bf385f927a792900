/-!
The life of a feed's connection. Every event of the transport is given to the machine, which answers
with the one thing to do next, if any. A connection that closes is opened again after a fixed delay,
without end; once stopped, nothing more is asked for.
-/

namespace FlagBoard

inductive Phase
  | disconnected
  | connecting
  | connected
  | waiting
  | stopped
  deriving DecidableEq, Repr

inductive Status
  | disconnected
  | connecting
  | connected
  deriving DecidableEq, Repr

def Phase.status : Phase → Status
  | .connecting => .connecting
  | .connected => .connected
  | .disconnected => .disconnected
  | .waiting => .disconnected
  | .stopped => .disconnected

inductive Signal
  | start
  | opened
  | closed
  | timer
  | stop
  deriving DecidableEq, Repr

/-- What the transport has to do: open a connection, or set one timer, in milliseconds. -/
inductive Action
  | connect (url : String)
  | wait (url : String) (delay : Nat)
  deriving DecidableEq, Repr

structure Connection where
  url : String
  delay : Nat
  phase : Phase
  attempts : Nat
  deriving DecidableEq, Repr

namespace Connection

def usualDelay : Nat := 3000

def mostAttempts : Nat := 0xffffffff

def new (url : String) (delay : Nat) : Connection := ⟨url, delay, .disconnected, 0⟩

def status (connection : Connection) : Status := connection.phase.status

def isStopped (connection : Connection) : Bool := connection.phase = .stopped

def connect (connection : Connection) : Connection × Option Action :=
  ({ connection with
      phase := .connecting, attempts := min (connection.attempts + 1) mostAttempts },
    some (.connect connection.url))

/-- The state after a signal, and what to do. A signal that does not fit the phase is ignored. -/
def step (connection : Connection) : Signal → Connection × Option Action
  | .start =>
      match connection.phase with
      | .disconnected => connection.connect
      | _ => (connection, none)
  | .opened =>
      match connection.phase with
      | .connecting => ({ connection with phase := .connected }, none)
      | _ => (connection, none)
  | .closed =>
      match connection.phase with
      | .connecting | .connected =>
          ({ connection with phase := .waiting }, some (.wait connection.url connection.delay))
      | _ => (connection, none)
  | .timer =>
      match connection.phase with
      | .waiting => connection.connect
      | _ => (connection, none)
  | .stop => ({ connection with phase := .stopped }, none)

def run (connection : Connection) : List Signal → Connection × List (Option Action)
  | [] => (connection, [])
  | signal :: rest =>
      let (next, action) := connection.step signal
      let (final, actions) := next.run rest
      (final, action :: actions)

end Connection

end FlagBoard
