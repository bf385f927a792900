import FlagBoard.Feed.Endpoint
import FlagBoard.Page.ChallengePage
import FlagBoard.Page.ScorePage
import FlagBoard.Page.TeamTools

/-!
Where the parts of the platform are put into a page: elements with ids known beforehand, each with
the part it takes. An element may carry the tag of a challenge and a first list of challenges.
-/

namespace FlagBoard

inductive MountPoint
  | flagChecker
  | scoreboard
  | challenges
  | teamsPage
  | indexPage
  | vpnDropdown
  | vpnDropdownSecondary
  | resetFrontend
  deriving DecidableEq, Repr

namespace MountPoint

def all : List MountPoint :=
  [.flagChecker, .scoreboard, .challenges, .teamsPage, .indexPage, .vpnDropdown,
    .vpnDropdownSecondary, .resetFrontend]

def elementId : MountPoint → String
  | .flagChecker => "flagchecker"
  | .scoreboard => "scoreboard"
  | .challenges => "challenges"
  | .teamsPage => "teamspagevue"
  | .indexPage => "indexpage"
  | .vpnDropdown => "vpn-dropdown"
  | .vpnDropdownSecondary => "vpn-dropdown-2"
  | .resetFrontend => "reset-frontend"

def ofElementId? (id : String) : Option MountPoint := all.find? fun point => point.elementId == id

def endpoint : MountPoint → Option Endpoint
  | .scoreboard | .teamsPage => some .scores
  | .challenges => some .challenges
  | _ => none

end MountPoint

structure MountAttributes where
  tag : Option String
  seed : List Challenge
  deriving DecidableEq, Repr

namespace MountAttributes

/-- Reads the first list of challenges. One that cannot be read is empty. -/
def readSeed (text : String) : List Challenge :=
  match (Json.Schema.list Challenge.schema).readText text with
  | .ok records => records.map Challenge.ofValue
  | .error _ => []

/-- Reads what is written in the element. A blank tag is no tag. -/
def ofRaw (tag seed : Option String) : MountAttributes :=
  ⟨(tag.map Text.trimmed).filter (· ≠ ""), seed.elim [] readSeed⟩

end MountAttributes

namespace Page

/-- The part for an element as it is first shown, after the given steps of its feed at the given
address. -/
def mounted (point : MountPoint) (context : Context) (attributes : MountAttributes)
    (url : String) (steps : List Live.Step) : List Html.Piece :=
  match point with
  | .flagChecker => flagForm .empty false
  | .scoreboard => scoreboardPage ((Live.ofView Scoreboard.empty).play url steps)
  | .challenges =>
      challengePage ((Live.ofView (ChallengeBrowser.ofChallenges attributes.seed)).play url steps)
  | .teamsPage => teamPage ((Live.ofView Scoreboard.empty).play url steps)
  | .indexPage => startPage context none
  | .vpnDropdown | .vpnDropdownSecondary => vpnMenu .closed
  | .resetFrontend => resetButton .idle

end Page

end FlagBoard
