import FlagBoard.Feed.ChallengeBrowser
import FlagBoard.Feed.Scoreboard

/-!
Views as plain tables, one line for the header and one for each entry. The column of names is as
wide as the longest name has bytes, while names are filled up by characters. A width that is only
known when a line is written has 16 bits; all lines of a table have the same, so a column that is
too wide for one of them, the header included, is too wide for all.
-/

namespace FlagBoard

namespace Table

def mostWidth : Nat := 65535

def padRight (width : Nat) (text : List Char) : List Char :=
  text ++ List.replicate (width - text.length) ' '

def padLeft (width : Nat) (text : List Char) : List Char :=
  List.replicate (width - text.length) ' ' ++ text

def width (least : Nat) (names : List String) : Nat :=
  names.foldl (fun width name => max width (Text.Utf8.size name.toList)) least

def number (n : Nat) : List Char := (toString n).toList

def gap : List Char := [' ', ' ']

end Table

open Table

namespace Scoreboard

def nameWidth (board : Scoreboard) : Nat := width 4 (board.teams.map Team.name)

def headerLine (board : Scoreboard) : List Char :=
  padLeft 3 ['#'] ++ gap ++ padRight board.nameWidth "team".toList ++ gap ++
    padLeft 6 "points".toList ++ gap ++ "solved\n".toList

/-- The line of the team at an index. A star marks the viewer's own. -/
def teamLine (board : Scoreboard) (index : Nat) (team : Team) : List Char :=
  padLeft 3 (number (index + 1)) ++ gap ++ padRight board.nameWidth team.name.toList ++ gap ++
    padLeft 6 (number team.points.toNat) ++ gap ++ number team.solvedCount ++ '/' ::
    number board.challenges.length ++ (if team.isOwn then [' ', '*'] else []) ++ ['\n']

def table (board : Scoreboard) : String :=
  String.ofList (board.headerLine ++ (board.teams.mapIdx board.teamLine).flatten)

def render (board : Scoreboard) : Option String :=
  if board.nameWidth ≤ mostWidth then some board.table else none

end Scoreboard

namespace ChallengeBrowser

def tagWidth (browser : ChallengeBrowser) : Nat :=
  width 3 (browser.rows.map fun row => row.challenge.tag)

def headerLine (browser : ChallengeBrowser) : List Char :=
  padRight browser.tagWidth "tag".toList ++ gap ++ padLeft 6 "points".toList ++ gap ++
    padRight 6 "status".toList ++ gap ++ "solves\n".toList

def rowLine (browser : ChallengeBrowser) (row : LiveRow) : List Char :=
  padRight browser.tagWidth row.challenge.tag.toList ++ gap ++
    padLeft 6 (number row.challenge.points.toNat) ++ gap ++
    padRight 6 (if row.solvedByOwn then "solved" else "open").toList ++ gap ++
    number row.solves.length ++ ['\n']

def table (browser : ChallengeBrowser) : String :=
  String.ofList (browser.headerLine ++ (browser.rows.map browser.rowLine).flatten)

def render (browser : ChallengeBrowser) : Option String :=
  if browser.tagWidth ≤ mostWidth then some browser.table else none

end ChallengeBrowser

class Render (State : Type) where
  render : State → Option String

instance : Render Scoreboard := ⟨Scoreboard.render⟩

instance : Render ChallengeBrowser := ⟨ChallengeBrowser.render⟩

end FlagBoard
