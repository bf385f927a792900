import FlagBoard.Feed.Connection
import FlagBoard.Feed.Handshake
import FlagBoard.Feed.View

/-!
Watching a feed. Frames are applied to a view that is kept over all connections, and every frame
that changes it hands the view on. A connection that fails or ends is opened again after the delay,
and nothing but a stop, or the first change where one is enough, ends the watch.
-/

namespace FlagBoard

inductive Incoming
  | text (frame : String)
  | bytes (frame : List UInt8)
  /-- Anything that holds no frame. -/
  | other
  deriving DecidableEq, Repr

inductive WatchEvent
  | opened
  | message (message : Incoming)
  /-- A connection fails or ends, whatever the reason. -/
  | closed
  | elapsed
  | stop
  deriving DecidableEq, Repr

inductive Arrival
  | message (message : Incoming)
  /-- A close message. -/
  | close
  /-- A failure of the transport. -/
  | fault
  deriving DecidableEq, Repr

/-- What a watch meets of what a connection yields until its stream ends. Nothing is read behind a
close message or a failure. -/
def Arrival.events : List Arrival → List WatchEvent
  | [] => [.closed]
  | .message incoming :: rest => .message incoming :: events rest
  | .close :: _ => [.closed]
  | .fault :: _ => [.closed]

inductive Link
  | failed
  | opened (arrivals : List Arrival)
  deriving DecidableEq, Repr

def Link.events : Link → List WatchEvent
  | .failed => [.closed, .elapsed]
  | .opened arrivals => .opened :: Arrival.events arrivals ++ [.elapsed]

structure Watch (State : Type) where
  connection : Connection
  view : State
  /-- The views handed on, in order. -/
  shown : List State
  /-- What was asked of the transport, in order. -/
  asked : List Action
  finished : Bool
  deriving DecidableEq, Repr

namespace Watch

variable {State : Type} [View State]

/-- Goes on with what the connection asks for. If it asks for nothing, the watch is over. -/
def proceed (watch : Watch State) (next : Connection × Option Action) : Watch State :=
  match next.2 with
  | some action => { watch with connection := next.1, asked := watch.asked ++ [action] }
  | none => { watch with connection := next.1, finished := true }

def start (url : String) (delay : Nat) : Watch State :=
  let connection := Connection.new url delay
  proceed ⟨connection, View.start, [], [], false⟩ (connection.step .start)

def halt (watch : Watch State) : Watch State :=
  { watch with connection := (watch.connection.step .stop).1, finished := true }

/-- Takes over the view after a frame. The first change is the last where one is enough. -/
def take (once : Bool) (watch : Watch State) (result : State × FrameReport) : Watch State :=
  let (view, report) := result
  if report.changed then
    let next := { watch with view, shown := watch.shown ++ [view] }
    if once then next.halt else next
  else { watch with view }

def receive (once : Bool) (watch : Watch State) : Incoming → Watch State
  | .text frame => watch.take once (applyFrame watch.view frame)
  | .bytes frame => watch.take once (applyBytes watch.view frame)
  | .other => watch

/-- The watch after an event. Once finished it meets nothing more. -/
def step (once : Bool) (watch : Watch State) (event : WatchEvent) : Watch State :=
  if watch.finished then watch
  else
    match event with
    | .opened => { watch with connection := (watch.connection.step .opened).1 }
    | .message message => watch.receive once message
    | .closed => watch.proceed (watch.connection.step .closed)
    | .elapsed => watch.proceed (watch.connection.step .timer)
    | .stop => watch.halt

def run (url : String) (delay : Nat) (once : Bool) (events : List WatchEvent) : Watch State :=
  events.foldl (step once) (start url delay)

def ofUrl (url : String) (session : Option String) (delay : Nat) (once : Bool)
    (events : List WatchEvent) : Except Failure (Watch State) :=
  match Handshake.ofUrl url session with
  | .ok _ => .ok (run url delay once events)
  | .error failure => .error failure

def attempts (watch : Watch State) : Nat :=
  watch.asked.countP fun action =>
    match action with
    | .connect _ => true
    | .wait _ _ => false

end Watch

end FlagBoard
