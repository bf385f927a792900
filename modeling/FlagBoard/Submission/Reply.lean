import FlagBoard.Json.Schema

/-!
The verdict of the server on a submission. A reply may hold an error and a status; an error counts
before a status, and only the status `ok` accepts.
-/

namespace FlagBoard

inductive Verdict
  | accepted
  | rejected (message : String)
  | ignored
  deriving DecidableEq, Repr

structure Reply where
  error : Option String
  status : Option String
  deriving DecidableEq, Repr

namespace Reply

@[reducible] def fields : Json.Fields :=
  .field "error" [] false (.optional .text) <|
  .field "status" [] false (.optional .text) .nil

@[reducible] def schema : Json.Schema := .record "ActionReply" fields

def ofValue : schema.Value → Reply
  | (error, status, ()) => ⟨error, status⟩

def read (body : String) : Except Json.ReadError Reply := (schema.readText body).map ofValue

def verdict (reply : Reply) : Verdict :=
  match reply.error with
  | some message => .rejected message
  | none => if reply.status = some "ok" then .accepted else .ignored

end Reply

inductive SubmitError
  | blankFlag
  | inFlight (tag : String)
  | network (detail : String)
  deriving DecidableEq, Repr

namespace SubmitError

def message : SubmitError → String
  | .blankFlag => "flag is empty"
  | .inFlight tag => "a submission for `" ++ tag ++ "` is already in flight"
  | .network detail => "network error: " ++ detail

def userMessage : SubmitError → String
  | .blankFlag => "Please enter a flag"
  | .inFlight _ => "Your previous submission is still being checked"
  | .network _ => "Could not reach the server, please try again"

end SubmitError

abbrev Outcome := Except SubmitError Verdict

def classifyReply (body : String) : Outcome :=
  match Reply.read body with
  | .ok reply => .ok reply.verdict
  | .error error => .error (.network ("unexpected reply: " ++ error.message))

end FlagBoard
