import FlagBoard.Feed.Frame

/-!
Views of the live feed. A message replaces one slice of a view as a whole, or is ignored by it.
Applying a frame reports the kinds that were taken, the unknown names and the refused segments.
-/

namespace FlagBoard

class View (State : Type) where
  /-- The state before any message. -/
  start : State
  /-- The state after a message, or nothing if the message is ignored. -/
  accept : State → Message → Option State

structure FrameReport where
  applied : List Kind
  unknown : List String
  errors : List SegmentError
  deriving DecidableEq, Repr

namespace FrameReport

def empty : FrameReport := ⟨[], [], []⟩

def changed (report : FrameReport) : Bool := !report.applied.isEmpty

end FrameReport

variable {State : Type} [View State]

def applyEvent (current : State × FrameReport) (event : Except SegmentError Event) :
    State × FrameReport :=
  let (view, report) := current
  match event with
  | .ok (.message message) =>
      match View.accept view message with
      | some changed => (changed, { report with applied := report.applied ++ [message.kind] })
      | none => (view, report)
  | .ok (.unknown name) => (view, { report with unknown := report.unknown ++ [name] })
  | .error error => (view, { report with errors := report.errors ++ [error] })

def applyEvents (view : State) (events : List (Except SegmentError Event)) :
    State × FrameReport :=
  events.foldl applyEvent (view, .empty)

def applyFrame (view : State) (frame : String) : State × FrameReport :=
  applyEvents view (decodeFrame frame)

def applyBytes (view : State) (frame : List UInt8) : State × FrameReport :=
  applyEvents view (decodeBytes frame)

end FlagBoard
