import FlagBoard.Feed.Connection
import FlagBoard.Feed.View

/-!
A view together with the status of the connection that feeds it. Every step says whether what is
shown may have changed.
-/

namespace FlagBoard

structure Live (State : Type) where
  view : State
  status : Status
  deriving DecidableEq, Repr

namespace Live

variable {State : Type}

def ofView (view : State) : Live State := ⟨view, .disconnected⟩

def publish (live : Live State) (connection : Connection) : Live State × Bool :=
  if live.status = connection.status then (live, false)
  else ({ live with status := connection.status }, true)

def applyFrame [View State] (live : Live State) (frame : String) : Live State × Bool :=
  let (view, report) := FlagBoard.applyFrame live.view frame
  ({ live with view }, report.changed)

def applyBytes [View State] (live : Live State) (frame : List UInt8) : Live State × Bool :=
  let (view, report) := FlagBoard.applyBytes live.view frame
  ({ live with view }, report.changed)

/-- What reaches a live view: signals of its connection, and frames. -/
inductive Step
  | signal (signal : Signal)
  | text (frame : String)
  | bytes (frame : List UInt8)
  deriving DecidableEq, Repr

/-- The connection and the live view after a step. What the connection asks for is left to its
transport. -/
def step [View State] (current : Connection × Live State) : Step → Connection × Live State
  | .signal signal =>
      let connection := (current.1.step signal).1
      (connection, (current.2.publish connection).1)
  | .text frame => (current.1, (current.2.applyFrame frame).1)
  | .bytes frame => (current.1, (current.2.applyBytes frame).1)

def play [View State] (live : Live State) (url : String) (steps : List Step) : Live State :=
  (steps.foldl step (Connection.new url Connection.usualDelay, live)).2

end Live

end FlagBoard
