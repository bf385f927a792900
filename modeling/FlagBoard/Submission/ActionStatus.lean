import FlagBoard.Submission.Reply

/-!
The status of a button that asks the platform for one thing. It is busy until the outcome comes, and
then shows it.
-/

namespace FlagBoard

structure ActionStatus where
  busy : Bool
  message : Option String
  isError : Bool
  deriving DecidableEq, Repr

namespace ActionStatus

def idle : ActionStatus := ⟨false, none, false⟩

/-- Starts the action, unless it runs already. The second result says whether it was started. -/
def begin (status : ActionStatus) : ActionStatus × Bool :=
  if status.busy then (status, false) else (⟨true, none, false⟩, true)

/-- Shows how the action ended; `done` is what an accepted one says. -/
def finish (outcome : Outcome) (done : String) : ActionStatus :=
  match outcome with
  | .ok .accepted => ⟨false, some done, false⟩
  | .ok (.rejected message) => ⟨false, some message, true⟩
  | .ok .ignored => ⟨false, none, false⟩
  | .error error => ⟨false, some error.userMessage, true⟩

inductive Step
  | begin
  | finish (outcome : Outcome) (done : String)

/-- The status after a step; for a start also whether it was taken. -/
def step (status : ActionStatus) : Step → ActionStatus × Option Bool
  | .begin => (status.begin.1, some status.begin.2)
  | .finish outcome done => (finish outcome done, none)

end ActionStatus

end FlagBoard
