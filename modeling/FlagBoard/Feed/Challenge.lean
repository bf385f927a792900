import FlagBoard.Json.Printer
import FlagBoard.Json.Schema

/-!
Challenges, and the live rows that say which teams have solved them. Each record has its schema and
the value it is written as, with all its fields in order.
-/

namespace FlagBoard

/-- A challenge, known by its tag. The description is Markdown. -/
structure Challenge where
  tag : String
  name : String
  points : UInt32
  category : String
  description : String
  deriving DecidableEq, Repr

namespace Challenge

/-- Every field may also go by its name with a capital letter. -/
@[reducible] def fields : Json.Fields :=
  .field "tag" ["Tag"] true .text <|
  .field "name" ["Name"] true .text <|
  .field "points" ["Points"] false .natural <|
  .field "category" ["Category"] false .text <|
  .field "description" ["Description"] false .text .nil

@[reducible] def schema : Json.Schema := .record "Challenge" fields

def ofValue : schema.Value → Challenge
  | (tag, name, points, category, description, ()) => ⟨tag, name, points, category, description⟩

def toJson (challenge : Challenge) : Json :=
  .obj [("tag", .str challenge.tag), ("name", .str challenge.name),
    ("points", .num (.natural challenge.points.toNat)), ("category", .str challenge.category),
    ("description", .str challenge.description)]

end Challenge

structure Solve where
  teamName : String
  completedAt : Option String
  deriving DecidableEq, Repr

namespace Solve

@[reducible] def fields : Json.Fields :=
  .field "teamName" [] true .text <|
  .field "completedAt" [] false (.optional .text) .nil

@[reducible] def schema : Json.Schema := .record "TeamCompletion" fields

def ofValue : schema.Value → Solve
  | (teamName, completedAt, ()) => ⟨teamName, completedAt⟩

def toJson (solve : Solve) : Json :=
  .obj [("teamName", .str solve.teamName),
    ("completedAt", solve.completedAt.elim .null .str)]

end Solve

structure LiveRow where
  challenge : Challenge
  /-- Whether the team of the viewer has solved it. -/
  solvedByOwn : Bool
  solves : List Solve
  deriving DecidableEq, Repr

namespace LiveRow

@[reducible] def fields : Json.Fields :=
  .field "challenge" [] true Challenge.schema <|
  .field "isUserCompleted" [] false .flag <|
  .field "teamsCompleted" [] false (.listOrNull Solve.schema) .nil

@[reducible] def schema : Json.Schema := .record "ChallengeRow" fields

def ofValue : schema.Value → LiveRow
  | (challenge, solvedByOwn, solves, ()) =>
      ⟨.ofValue challenge, solvedByOwn, solves.map .ofValue⟩

def toJson (row : LiveRow) : Json :=
  .obj [("challenge", row.challenge.toJson), ("isUserCompleted", .bool row.solvedByOwn),
    ("teamsCompleted", .arr (row.solves.map Solve.toJson))]

end LiveRow

end FlagBoard
