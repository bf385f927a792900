import FlagBoard.Submission.Request

/-!
What becomes of a request in a page that has no browser to send it. A blank flag is refused first,
as everywhere.
-/

namespace FlagBoard.Detached

def error : SubmitError := .network "not available outside the browser"

def submitFlag (tag flag : String) : Outcome :=
  match FlagRequest.ofInput tag flag with
  | .ok _ => .error error
  | .error refused => .error refused

def act : Outcome := .error error

def fetch {Value : Type} : Except String Value := .error error.message

end FlagBoard.Detached
