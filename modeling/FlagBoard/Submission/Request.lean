import FlagBoard.Json.Printer
import FlagBoard.Submission.Reply
import FlagBoard.Text.Blank

/-!
Requests to the platform: their routes and their bodies.
-/

namespace FlagBoard

inductive Route
  | verifyFlag
  | resetChallenge
  | toggleChallenge
  | resetFrontend
  | vpnStatus
  | vpnDownload
  | labInfo
  deriving DecidableEq, Repr

def Route.path : Route → String
  | .verifyFlag => "/flags/verify"
  | .resetChallenge => "/reset/challenge"
  | .toggleChallenge => "/manage/challenge"
  | .resetFrontend => "/reset/frontend"
  | .vpnStatus => "/vpn/status"
  | .vpnDownload => "/vpn/download"
  | .labInfo => "/get/labsubnet"

structure FlagRequest where
  tag : String
  flag : String
  deriving DecidableEq, Repr

namespace FlagRequest

/-- A request from what was typed: the flag without the blanks around it, if there is any. -/
def ofInput (tag flag : String) : Except SubmitError FlagRequest :=
  let flag := Text.trimmed flag
  if flag = "" then .error .blankFlag else .ok ⟨tag, flag⟩

def toJson (request : FlagRequest) : Json :=
  .obj [("tag", .str request.tag), ("flag", .str request.flag)]

end FlagRequest

def tagBody (tag : String) : Json := .obj [("tag", .str tag)]

def slotBody (id : String) : Json := .obj [("vpnConnID", .str id)]

def emptyBody : Json := .obj []

def failedMessage (path : String) (status : Nat) : String := path ++ " failed: " ++ toString status

end FlagBoard
