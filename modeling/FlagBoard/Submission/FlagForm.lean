import FlagBoard.Submission.Reply

/-!
The form for a flag. A new submission clears both messages; its outcome sets at most one of them,
and only an accepted flag clears the input.
-/

namespace FlagBoard

structure FlagForm where
  input : String
  error : Option String
  success : Option String
  deriving DecidableEq, Repr

namespace FlagForm

def empty : FlagForm := ⟨"", none, none⟩

def successMessage : String := "Correct flag, well done!"

inductive Step
  | begin
  | type (text : String)
  | finish (outcome : Outcome)

def begin (form : FlagForm) : FlagForm := { form with error := none, success := none }

def finish (form : FlagForm) : Outcome → FlagForm
  | .ok (.rejected message) => { form with error := some message }
  | .ok .accepted => { form with success := some successMessage, input := "" }
  | .ok .ignored => form
  | .error error => { form with error := some error.userMessage }

def step (form : FlagForm) : Step → FlagForm
  | .begin => form.begin
  | .type text => { form with input := text }
  | .finish outcome => form.finish outcome

def run (form : FlagForm) (steps : List Step) : FlagForm := steps.foldl step form

end FlagForm

end FlagBoard
