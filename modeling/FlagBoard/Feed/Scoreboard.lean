import FlagBoard.Feed.View

/-!
The scoreboard: the teams in the order of the server, and the challenges they compete in.
-/

namespace FlagBoard

structure Scoreboard where
  teams : List Team
  challenges : List Challenge
  deriving DecidableEq, Repr

namespace Scoreboard

def empty : Scoreboard := ⟨[], []⟩

/-- Teams and challenges replace those shown; live rows are ignored. -/
def accept (board : Scoreboard) : Message → Option Scoreboard
  | .teams teams => some { board with teams }
  | .challenges challenges => some { board with challenges }
  | .rows _ => none

instance : View Scoreboard := ⟨empty, accept⟩

def rankOf (board : Scoreboard) (id : String) : Option Nat :=
  (board.teams.findIdx? fun team => team.id == id).map (· + 1)

def ownTeam (board : Scoreboard) : Option Team := board.teams.find? Team.isOwn

end Scoreboard

end FlagBoard
