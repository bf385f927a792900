import FlagBoard.Feed.Endpoint
import FlagBoard.Json.Fault
import FlagBoard.Submission.Reply
import FlagBoard.Text.Quoted

/-!
Why a command fails. Each failure has a message for readers, and a form for diagnostics that names
its kind and quotes its parts.
-/

namespace FlagBoard

inductive TransportFault
  /-- The address is none. -/
  | noAddress
  /-- No request can be made at the address. -/
  | unaskable (url : String)
  | noReply (url : String)
  /-- The server sent on and on. -/
  | redirects (url : String)
  /-- The body is not what was asked for. -/
  | badBody
  deriving DecidableEq, Repr

def TransportFault.message : TransportFault → String
  | .noAddress => "builder error"
  | .unaskable url => "builder error for url (" ++ url ++ ")"
  | .noReply url => "error sending request for url (" ++ url ++ ")"
  | .redirects url => "error following redirect for url (" ++ url ++ ")"
  | .badBody => "error decoding response body"

structure WriteFault where
  code : Nat
  kind : String
  text : String
  deriving DecidableEq, Repr

namespace WriteFault

def nothingThere : WriteFault := ⟨2, "NotFound", "No such file or directory"⟩

def noFolder : WriteFault := ⟨20, "NotADirectory", "Not a directory"⟩

def isFolder : WriteFault := ⟨21, "IsADirectory", "Is a directory"⟩

end WriteFault

inductive Failure
  | page (error : PageError)
  | transport (fault : TransportFault)
  /-- The session cannot be sent in a header. -/
  | header
  /-- No feed can be opened at the address. -/
  | handshake
  | reply (error : Json.ReadError)
  | submit (error : SubmitError)
  | rejected (path message : String)
  | status (path : String) (status : Nat)
  | unknownSlot (id : String)
  | write (path : String) (fault : WriteFault)
  deriving DecidableEq, Repr

namespace Failure

def headerMessage : String := "failed to parse header value"

def message : Failure → String
  | .page error => "invalid base URL: " ++ error.message
  | .transport fault => "http request failed: " ++ fault.message
  | .header => "invalid header value: " ++ headerMessage
  | .handshake => "websocket connect failed"
  | .reply error => "invalid JSON payload: " ++ error.message
  | .submit error => error.message
  | .rejected path message => "server rejected " ++ path ++ ": " ++ message
  | .status path code => path ++ " returned HTTP " ++ toString code
  | .unknownSlot id => "unknown VPN connection id `" ++ id ++ "`"
  | .write path fault =>
      let reason := fault.text ++ " (os error " ++ toString fault.code ++ ")"
      "failed to write " ++ path ++ ": " ++ reason

def tuple (kind part : String) : String := kind ++ "(" ++ part ++ ")"

def fields (kind : String) (parts : List (String × String)) : String :=
  let shown := parts.map fun (name, part) => name ++ ": " ++ part
  kind ++ " \x7b " ++ ", ".intercalate shown ++ " \x7d"

def describePage : PageError → String
  | .noScheme url => tuple "UnsupportedScheme" (Text.Quoted.encode url)
  | .noHost url => tuple "MissingHost" (Text.Quoted.encode url)

def describeSubmit : SubmitError → String
  | .blankFlag => "EmptyFlag"
  | .inFlight tag => tuple "InFlight" (Text.Quoted.encode tag)
  | .network detail => tuple "Network" (Text.Quoted.encode detail)

def describeRead (error : Json.ReadError) : String :=
  tuple "Error" (", ".intercalate [Text.Quoted.encode error.cause.message,
    "line: " ++ toString error.position.line, "column: " ++ toString error.position.column])

/-- The form for diagnostics. What the transport has to say is left out. -/
def describe : Failure → String
  | .page error => tuple "BaseUrl" (describePage error)
  | .transport _ => tuple "Http" ".."
  | .header => tuple "InvalidHeader" (Text.Quoted.encode headerMessage)
  | .handshake => tuple "WsConnect" ".."
  | .reply error => tuple "InvalidJson" (describeRead error)
  | .submit error => tuple "Submit" (describeSubmit error)
  | .rejected path message =>
      fields "Rejected" [("path", Text.Quoted.encode path), ("message", Text.Quoted.encode message)]
  | .status path code =>
      fields "Status" [("path", Text.Quoted.encode path), ("status", toString code)]
  | .unknownSlot id => tuple "UnknownConnection" (Text.Quoted.encode id)
  | .write path fault =>
      fields "Write" [("path", Text.Quoted.encode path),
        ("source", fields "Os" [("code", toString fault.code), ("kind", fault.kind),
          ("message", Text.Quoted.encode fault.text)])]

end Failure

end FlagBoard
