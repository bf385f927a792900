import FlagBoard.Command.Arguments
import FlagBoard.Command.Disk
import FlagBoard.Feed.Table
import FlagBoard.Feed.Watch
import FlagBoard.Http.Client
import FlagBoard.Submission.FlagForm

/-!
Running a command. It says something only when the platform did what was asked, and it writes a file
only with what the platform sent; everything else is a failure, or silence where the platform gave
no verdict.
-/

namespace FlagBoard.Command

structure Report where
  requests : List Http.Request
  /-- Number of connections that were asked for. -/
  connections : Nat
  output : String
  /-- What is said beside the output. -/
  remarks : String
  /-- The files that were written, and what was written. -/
  written : List (Place × String)
  disk : Disk
  failure : Option Failure
  /-- Whether the command came to an end; a watch goes on while nothing stops it. -/
  ended : Bool
  /-- Whether the command was broken off where something could not be printed. -/
  broken : Bool

structure World where
  server : Http.Server
  /-- What happens to the feed. -/
  events : List WatchEvent
  disk : Disk

def line (text : String) : String := text ++ "\n"

def silent (world : World) (requests : List Http.Request) : Report :=
  ⟨requests, 0, "", "", [], world.disk, none, true, false⟩

def refused (world : World) (failure : Failure) : Report :=
  { silent world [] with failure := some failure }

def conclude {Result : Type} (world : World) (sent : Http.Sent Result)
    (say : Result → Report → Report) : Report :=
  let silent := silent world sent.requests
  match sent.result with
  | .ok result => say result silent
  | .error failure => { silent with failure := some failure }

def sayVerdict (route : Route) (done : String) (verdict : Verdict) (report : Report) : Report :=
  match verdict with
  | .accepted => { report with output := line done }
  | .rejected message => { report with failure := some (.rejected route.path message) }
  | .ignored => { report with remarks := line ("no verdict from " ++ route.path) }

def saySlots (slots : List VpnSlot) (report : Report) : Report :=
  let lines := slots.map fun slot => line (slot.id ++ "\t" ++ slot.status)
  { report with output := String.join lines }

def sayLab (lab : Lab) (report : Report) : Report :=
  { report with
      output := line ("vpn: " ++ if lab.hasVpn then "enabled" else "disabled") ++
        line ("lab subnet: " ++ lab.subnet) }

def saveConfig (path content : String) (report : Report) : Report :=
  match report.disk.locate path with
  | .error fault => { report with failure := some (.write path fault) }
  | .ok place =>
      { report with
          written := report.written ++ [(place, content)]
          disk := report.disk.put place content }

/-- Goes on with a watch, up to the first view handed on that cannot be printed. -/
def watchOn {State : Type} [View State] [Render State] (once : Bool) (watch : Watch State) :
    List WatchEvent → Watch State
  | [] => watch
  | event :: rest =>
      let next := watch.step once event
      if next.shown.all fun view => (Render.render view).isSome then watchOn once next rest
      else next

def follow (State : Type) [View State] [Render State] (world : World) (arguments : Arguments)
    (endpoint : Endpoint) (once : Bool) : Report :=
  match streamUrl arguments.baseUrl endpoint with
  | .error error => refused world (.page error)
  | .ok url =>
      let started : Except Failure (Watch State) :=
        Watch.ofUrl url arguments.session arguments.delay once []
      match started with
      | .error failure => refused world failure
      | .ok begun =>
          let watched := watchOn once begun world.events
          let printed := watched.shown.filterMap Render.render
          let broken := printed.length < watched.shown.length
          { silent world [] with
              connections := watched.attempts
              output := String.join (printed.map line)
              ended := watched.finished || broken
              broken }

/-- Asks the platform once. A configuration is only asked for if it can be saved under some name. -/
def ask (world : World) (client : Http.Client) : Call → Report
  | .submit tag flag =>
      conclude world (client.submitFlag world.server tag flag)
        (sayVerdict .verifyFlag FlagForm.successMessage)
  | .resetChallenge tag =>
      conclude world (client.resetChallenge world.server tag)
        (sayVerdict .resetChallenge "challenge reset")
  | .toggleChallenge tag =>
      conclude world (client.toggleChallenge world.server tag)
        (sayVerdict .toggleChallenge "challenge started/stopped")
  | .resetFrontend =>
      conclude world (client.resetFrontend world.server)
        (sayVerdict .resetFrontend "frontend reset")
  | .vpnStatus => conclude world (client.vpnStatus world.server) saySlots
  | .vpnDownload id output =>
      match output.or (configFileName id) with
      | some path => conclude world (client.vpnDownload world.server id) (saveConfig path)
      | none => refused world (.unknownSlot id)
  | .labInfo => conclude world (client.labInfo world.server) sayLab

def run (world : World) (arguments : Arguments) : Report :=
  match arguments.command with
  | .watch .scores once => follow Scoreboard world arguments .scores once
  | .watch .challenges once => follow ChallengeBrowser world arguments .challenges once
  | .call asked =>
      match Http.Client.new arguments.baseUrl arguments.session with
      | .ok client => ask world client asked
      | .error failure => refused world failure

def exitCode (report : Report) : Nat :=
  if report.broken then 101 else if report.failure.isSome then 1 else 0

/-- All that goes to the error output, except for what is said where a command is broken off. -/
def errorOutput (report : Report) : String :=
  report.remarks ++ report.failure.elim "" fun failure => line ("Error: " ++ failure.describe)

end FlagBoard.Command
