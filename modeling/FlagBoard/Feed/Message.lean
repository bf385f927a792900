import FlagBoard.Feed.Challenge
import FlagBoard.Feed.Team

/-!
Messages of the live feed. Each is written as an envelope that names its kind and holds its values.
-/

namespace FlagBoard

inductive Kind
  | teams
  | challenges
  | rows
  deriving DecidableEq, Repr

namespace Kind

def name : Kind → String
  | .teams => "teams"
  | .challenges => "challenges"
  | .rows => "challengesFrontend"

def ofName? (name : String) : Option Kind :=
  if name = Kind.teams.name then some .teams
  else if name = Kind.challenges.name then some .challenges
  else if name = Kind.rows.name then some .rows
  else none

end Kind

/-- A message. It replaces what was known of its kind before. -/
inductive Message
  | teams (teams : List Team)
  | challenges (challenges : List Challenge)
  | rows (rows : List LiveRow)
  deriving DecidableEq, Repr

namespace Message

def kind : Message → Kind
  | .teams _ => .teams
  | .challenges _ => .challenges
  | .rows _ => .rows

def values : Message → Json
  | .teams records => .arr (records.map Team.toJson)
  | .challenges records => .arr (records.map Challenge.toJson)
  | .rows records => .arr (records.map LiveRow.toJson)

def toJson (message : Message) : Json :=
  .obj [("msg", .str message.kind.name), ("values", message.values)]

def encode (message : Message) : String := message.toJson.text

def ofValues : Kind → Json → Except Json.Mismatch Message
  | .teams, values =>
      ((Json.Schema.list Team.schema).readTree values).map fun records =>
        .teams (records.map Team.ofValue)
  | .challenges, values =>
      ((Json.Schema.list Challenge.schema).readTree values).map fun records =>
        .challenges (records.map Challenge.ofValue)
  | .rows, values =>
      ((Json.Schema.list LiveRow.schema).readTree values).map fun records =>
        .rows (records.map LiveRow.ofValue)

end Message

/-- What a well-formed segment says: a message, or one of a kind that is not known here. -/
inductive Event
  | message (message : Message)
  | unknown (name : String)
  deriving DecidableEq, Repr

end FlagBoard
