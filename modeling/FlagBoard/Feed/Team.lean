import FlagBoard.Json.Printer
import FlagBoard.Json.Schema

/-!
Teams on the scoreboard. The completions of a team stand in the order of the challenges, one time
or nothing for each; their number need not be that of the challenges.
-/

namespace FlagBoard

structure Team where
  id : String
  name : String
  points : UInt32
  completions : List (Option String)
  /-- Whether it is the team of the viewer. -/
  isOwn : Bool
  deriving DecidableEq, Repr

namespace Team

@[reducible] def fields : Json.Fields :=
  .field "id" [] true .text <|
  .field "name" [] true .text <|
  .field "points" [] false .natural <|
  .field "completions" [] false (.listOrNull (.optional .text)) <|
  .field "is_user" [] false .flag .nil

@[reducible] def schema : Json.Schema := .record "Team" fields

def ofValue : schema.Value → Team
  | (id, name, points, completions, isOwn, ()) => ⟨id, name, points, completions, isOwn⟩

def toJson (team : Team) : Json :=
  .obj [("id", .str team.id), ("name", .str team.name),
    ("points", .num (.natural team.points.toNat)),
    ("completions", .arr (team.completions.map fun completion => completion.elim .null .str)),
    ("is_user", .bool team.isOwn)]

def solvedCount (team : Team) : Nat := team.completions.countP Option.isSome

def completionAt (team : Team) (index : Nat) : Option String := (team.completions[index]?).join

end Team

end FlagBoard
