import FlagBoard.Feed.Scoreboard
import FlagBoard.Page.Label

/-!
The scoreboard as a table of rows, and the progress of the viewer's own team.
-/

namespace FlagBoard

structure ScoreRow where
  rank : Nat
  name : String
  points : UInt32
  isOwn : Bool
  cells : List (Option String)
  deriving DecidableEq, Repr

structure ProgressEntry where
  name : String
  category : String
  points : UInt32
  solvedAt : Option String
  deriving DecidableEq, Repr

structure Progress where
  name : String
  rank : Nat
  teams : Nat
  points : UInt32
  solved : Nat
  entries : List ProgressEntry
  deriving DecidableEq, Repr

def Team.shortCompletion (team : Team) (index : Nat) : Option String :=
  (team.completionAt index).map shortTimestamp

namespace Scoreboard

def rows (board : Scoreboard) : List ScoreRow :=
  board.teams.mapIdx fun index team =>
    ⟨index + 1, team.name, team.points, team.isOwn,
      (List.range board.challenges.length).map team.shortCompletion⟩

def progress (board : Scoreboard) : Option Progress := do
  let team ← board.ownTeam
  let rank ← board.rankOf team.id
  let entries := board.challenges.mapIdx fun index challenge =>
    ProgressEntry.mk challenge.name challenge.category challenge.points
      (team.shortCompletion index)
  some ⟨team.name, rank, board.teams.length, team.points,
    entries.countP fun entry => entry.solvedAt.isSome, entries⟩

end Scoreboard

end FlagBoard
