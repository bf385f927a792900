import FlagBoard.Command.Grammar
import FlagBoard.Feed.Connection
import FlagBoard.Feed.Endpoint

/-!
What can be asked for on the command line, and the settings that go with it. A setting that is not
given comes from the environment, and from its default after that.
-/

namespace FlagBoard

inductive Call
  | submit (tag flag : String)
  | resetChallenge (tag : String)
  | toggleChallenge (tag : String)
  | resetFrontend
  | vpnStatus
  | vpnDownload (id : String) (output : Option String)
  | labInfo
  deriving DecidableEq, Repr

inductive Command
  | watch (feed : Endpoint) (once : Bool)
  | call (call : Call)
  deriving DecidableEq, Repr

structure Arguments where
  baseUrl : String
  session : Option String
  /-- The delay before a feed is opened again, in milliseconds. -/
  delay : Nat
  command : Command
  deriving DecidableEq, Repr

structure Environment where
  baseUrl : Option String
  session : Option String
  deriving DecidableEq, Repr

namespace Environment

def baseUrlVariable : String := "AMIGO_BASE_URL"

def sessionVariable : String := "AMIGO_SESSION"

end Environment

namespace Command

def Refusal.exitCode : Refusal → Nat
  | .help => 0
  | _ => 2

def usualBaseUrl : String := "http://127.0.0.1:8080"

def feedNames : List (String × Endpoint) :=
  [("scores", .scores), ("challenges", .challenges)]

def grammar : Grammar :=
  let tag : Positional := ⟨"tag", .text⟩
  .mk "" [⟨"base-url", none, some .text⟩, ⟨"session", none, some .text⟩,
      ⟨"reconnect-ms", none, some .number⟩] []
    [.mk "watch" [⟨"once", none, none⟩] [⟨"feed", .choice (feedNames.map Prod.fst)⟩] [],
      .mk "submit" [] [tag, ⟨"flag", .text⟩] [],
      .mk "reset-challenge" [] [tag] [],
      .mk "toggle-challenge" [] [tag] [],
      .mk "reset-frontend" [] [] [],
      .mk "vpn" [] []
        [.mk "status" [] [] [],
          .mk "download" [⟨"output", some 'o', some .text⟩] [⟨"id", .text⟩] []],
      .mk "lab-info" [] [] []]

def ofLine (line : ParsedLine) : Option Command :=
  let value (name : String) : Option String := line.values.lookup name
  match line.path with
  | ["watch"] => do
      some (.watch (← feedNames.lookup (← value "feed")) (value "once").isSome)
  | ["submit"] => do some (.call (.submit (← value "tag") (← value "flag")))
  | ["reset-challenge"] => (value "tag").map fun tag => .call (.resetChallenge tag)
  | ["toggle-challenge"] => (value "tag").map fun tag => .call (.toggleChallenge tag)
  | ["reset-frontend"] => some (.call .resetFrontend)
  | ["vpn", "status"] => some (.call .vpnStatus)
  | ["vpn", "download"] =>
      (value "id").map fun id => .call (.vpnDownload id (value "output"))
  | ["lab-info"] => some (.call .labInfo)
  | _ => none

end Command

namespace Arguments

def read (environment : Environment) (words : List String) : Except Command.Refusal Arguments := do
  let given := environment.baseUrl.isSome || environment.session.isSome
  let line ← Command.readWords Command.grammar given .start words
  let value (name : String) : Option String := line.values.lookup name
  match Command.ofLine line with
  | none => .error .missingArgument
  | some command =>
      .ok {
        baseUrl := ((value "base-url").or environment.baseUrl).getD Command.usualBaseUrl
        session := (value "session").or environment.session
        delay := ((value "reconnect-ms").bind Command.readNumber).getD Connection.usualDelay
        command }

end Arguments

end FlagBoard
