import FlagBoard.Feed.Frame
import FlagBoard.Proofs.Json.Digits
import FlagBoard.Proofs.Json.Shape
import Mathlib

/-!
Which values the feed accepts. The shape of every record is written out field by field, for a value
that is an object and for one that is a list; a message is accepted exactly if each item of its
values has the shape of its kind, and one item that has not spoils the whole message.
-/

namespace FlagBoard

open Json

/-- A team: an id and a name, points below 2 ^ 32 or none, completions or null or none, and perhaps
the mark of the viewer's team. -/
structure Team.Shape (json : Json) (team : Team) : Prop where
  record : json.IsRecord 5
  id : Given IsText (json.held 0 ["id"]) team.id
  name : Given IsText (json.held 1 ["name"]) team.name
  points : Defaulted IsNatural 0 (json.held 2 ["points"]) team.points
  completions : Defaulted (IsListOrNull (IsOptional IsText)) [] (json.held 3 ["completions"])
    team.completions
  isOwn : Defaulted IsFlag false (json.held 4 ["is_user"]) team.isOwn

/-- A challenge: a tag and a name, and what else is known of it, each under one of two names. -/
structure Challenge.Shape (json : Json) (challenge : Challenge) : Prop where
  record : json.IsRecord 5
  tag : Given IsText (json.held 0 ["tag", "Tag"]) challenge.tag
  name : Given IsText (json.held 1 ["name", "Name"]) challenge.name
  points : Defaulted IsNatural 0 (json.held 2 ["points", "Points"]) challenge.points
  category : Defaulted IsText "" (json.held 3 ["category", "Category"]) challenge.category
  description : Defaulted IsText "" (json.held 4 ["description", "Description"])
    challenge.description

/-- A solve: the name of a team, and a time or null or none. -/
structure Solve.Shape (json : Json) (solve : Solve) : Prop where
  record : json.IsRecord 2
  teamName : Given IsText (json.held 0 ["teamName"]) solve.teamName
  completedAt : Defaulted (IsOptional IsText) none (json.held 1 ["completedAt"]) solve.completedAt

/-- A live row: a challenge, and who has solved it. -/
structure LiveRow.Shape (json : Json) (row : LiveRow) : Prop where
  record : json.IsRecord 3
  challenge : Given Challenge.Shape (json.held 0 ["challenge"]) row.challenge
  solvedByOwn : Defaulted IsFlag false (json.held 1 ["isUserCompleted"]) row.solvedByOwn
  solves : Defaulted (IsListOrNull Solve.Shape) [] (json.held 2 ["teamsCompleted"]) row.solves

/-- The values of a message: one item for each of its records, in order. -/
def Message.Shape (values : Json) : Message → Prop
  | .teams records => IsList Team.Shape values records
  | .challenges records => IsList Challenge.Shape values records
  | .rows records => IsList LiveRow.Shape values records

/-- An item that may stand in a message of a kind. -/
def Kind.Admits : Kind → Json → Prop
  | .teams, item => ∃ team, Team.Shape item team
  | .challenges, item => ∃ challenge, Challenge.Shape item challenge
  | .rows, item => ∃ row, LiveRow.Shape item row

theorem team_fits_iff (json : Json) (value : Team.schema.Value) :
    Team.schema.Fits json value ↔ Team.Shape json (Team.ofValue value) := by
  obtain ⟨id, name, points, completions, isOwn, ⟨⟩⟩ := value
  simp only [Schema.Fits, Fields.Fit, if_true, Bool.false_eq_true, if_false, and_true]
  constructor
  · rintro ⟨record, fields⟩
    exact ⟨record, fields.1, fields.2.1, fields.2.2.1, fields.2.2.2.1, fields.2.2.2.2⟩
  · intro shape
    exact ⟨shape.record, shape.id, shape.name, shape.points, shape.completions, shape.isOwn⟩

theorem challenge_fits_iff (json : Json) (value : Challenge.schema.Value) :
    Challenge.schema.Fits json value ↔ Challenge.Shape json (Challenge.ofValue value) := by
  obtain ⟨tag, name, points, category, description, ⟨⟩⟩ := value
  simp only [Schema.Fits, Fields.Fit, if_true, Bool.false_eq_true, if_false, and_true]
  constructor
  · rintro ⟨record, fields⟩
    exact ⟨record, fields.1, fields.2.1, fields.2.2.1, fields.2.2.2.1, fields.2.2.2.2⟩
  · intro shape
    exact ⟨shape.record, shape.tag, shape.name, shape.points, shape.category, shape.description⟩

theorem solve_fits_iff (json : Json) (value : Solve.schema.Value) :
    Solve.schema.Fits json value ↔ Solve.Shape json (Solve.ofValue value) := by
  obtain ⟨teamName, completedAt, ⟨⟩⟩ := value
  simp only [Schema.Fits, Fields.Fit, if_true, Bool.false_eq_true, if_false, and_true]
  constructor
  · rintro ⟨record, fields⟩
    exact ⟨record, fields.1, fields.2⟩
  · intro shape
    exact ⟨shape.record, shape.teamName, shape.completedAt⟩

section Renamed

variable {Value Record : Type} {fits : Json → Value → Prop} {shape : Json → Record → Prop}
  {ofValue : Value → Record} (same : ∀ json value, fits json value ↔ shape json (ofValue value))

include same

theorem given_iff (held : List Json) (value : Value) :
    Given fits held value ↔ Given shape held (ofValue value) := by
  simp only [Given, same]

theorem is_list_iff (json : Json) (values : List Value) :
    IsList fits json values ↔ IsList shape json (values.map ofValue) := by
  have relation : fits = fun json value => shape json (ofValue value) :=
    funext fun json => funext fun value => propext (same json value)
  rw [relation]
  simp only [IsList, List.forall₂_map_right_iff]

theorem is_list_or_null_iff (json : Json) (values : List Value) :
    IsListOrNull fits json values ↔ IsListOrNull shape json (values.map ofValue) := by
  simp only [IsListOrNull, is_list_iff same, List.map_eq_nil_iff]

/-- Records are listed exactly if values that stand for them are. -/
theorem is_list_of_values (cover : Function.Surjective ofValue) (json : Json)
    (records : List Record) :
    (∃ values, IsList fits json values ∧ values.map ofValue = records) ↔
      IsList shape json records := by
  constructor
  · rintro ⟨values, listed, rfl⟩
    exact (is_list_iff same json values).mp listed
  · intro listed
    obtain ⟨values, rfl⟩ := cover.list_map records
    exact ⟨values, (is_list_iff same json values).mpr listed, rfl⟩

end Renamed

theorem live_row_fits_iff (json : Json) (value : LiveRow.schema.Value) :
    LiveRow.schema.Fits json value ↔ LiveRow.Shape json (LiveRow.ofValue value) := by
  obtain ⟨challenge, solvedByOwn, solves, ⟨⟩⟩ := value
  have given := given_iff challenge_fits_iff (json.held 0 ["challenge"]) challenge
  have listed := given_iff (is_list_or_null_iff solve_fits_iff) (json.held 2 ["teamsCompleted"])
    solves
  have solved : Defaulted (IsListOrNull Solve.schema.Fits) [] (json.held 2 ["teamsCompleted"])
      solves ↔ Defaulted (IsListOrNull Solve.Shape) [] (json.held 2 ["teamsCompleted"])
      (solves.map Solve.ofValue) := by
    simp only [Defaulted, listed, List.map_eq_nil_iff]
  constructor
  · rintro ⟨record, fields⟩
    exact ⟨record, given.mp fields.1, fields.2.1, solved.mp fields.2.2.1⟩
  · intro shape
    exact ⟨shape.record, given.mpr shape.challenge, shape.solvedByOwn, solved.mpr shape.solves,
      trivial⟩

theorem team_of_value_surjective : Function.Surjective Team.ofValue :=
  fun team => ⟨(team.id, team.name, team.points, team.completions, team.isOwn, ()), rfl⟩

theorem challenge_of_value_surjective : Function.Surjective Challenge.ofValue :=
  fun challenge => ⟨(challenge.tag, challenge.name, challenge.points, challenge.category,
    challenge.description, ()), rfl⟩

theorem solve_of_value_surjective : Function.Surjective Solve.ofValue :=
  fun solve => ⟨(solve.teamName, solve.completedAt, ()), rfl⟩

theorem live_row_of_value_surjective : Function.Surjective LiveRow.ofValue := by
  rintro ⟨challenge, solvedByOwn, solves⟩
  obtain ⟨challenge, rfl⟩ := challenge_of_value_surjective challenge
  obtain ⟨solves, rfl⟩ := solve_of_value_surjective.list_map solves
  exact ⟨(challenge, solvedByOwn, solves, ()), rfl⟩

theorem read_records_iff (schema : Schema) (separate : schema.Separate) {Record : Type}
    (ofValue : schema.Value → Record) (shape : Json → Record → Prop)
    (same : ∀ json value, schema.Fits json value ↔ shape json (ofValue value))
    (cover : Function.Surjective ofValue) (values : Json) (records : List Record) :
    (∃ read, (Schema.list schema).readTree values = .ok read ∧ read.map ofValue = records) ↔
      IsList shape values records := by
  have exact := schema_exact (.list schema) separate
  simp only [exact values, ← is_list_of_values same cover]
  rfl

theorem of_values_eq_ok_iff (kind : Kind) (values : Json) (message : Message) :
    Message.ofValues kind values = .ok message ↔ message.kind = kind ∧ message.Shape values := by
  have teams := read_records_iff Team.schema
    (by simp [Schema.Separate, Fields.Separate, Fields.names]) Team.ofValue Team.Shape
    team_fits_iff team_of_value_surjective values
  have challenges := read_records_iff Challenge.schema
    (by simp [Schema.Separate, Fields.Separate, Fields.names]) Challenge.ofValue Challenge.Shape
    challenge_fits_iff challenge_of_value_surjective values
  have rows := read_records_iff LiveRow.schema
    (by simp [Schema.Separate, Fields.Separate, Fields.names]) LiveRow.ofValue LiveRow.Shape
    live_row_fits_iff live_row_of_value_surjective values
  cases kind <;> cases message <;>
    simp [Message.ofValues, map_eq_ok_iff, Message.kind, Message.Shape, ← teams, ← challenges,
      ← rows]

theorem exists_is_list_iff {Record : Type} (shape : Json → Record → Prop) (values : Json) :
    (∃ records, IsList shape values records) ↔
      ∃ items, values = .arr items ∧ ∀ item ∈ items, ∃ record, shape item record := by
  have each (items : List Json) :
      (∃ records, List.Forall₂ shape items records) ↔
        ∀ item ∈ items, ∃ record, shape item record := by
    induction items with
    | nil => simp
    | cons item items induction =>
        rw [List.forall_mem_cons, ← induction]
        constructor
        · rintro ⟨_, listed⟩
          cases listed with
          | cons first rest => exact ⟨⟨_, first⟩, ⟨_, rest⟩⟩
        · rintro ⟨⟨record, first⟩, ⟨records, rest⟩⟩
          exact ⟨record :: records, .cons first rest⟩
  constructor
  · rintro ⟨records, items, same, listed⟩
    exact ⟨items, same, (each items).mp ⟨records, listed⟩⟩
  · rintro ⟨items, same, admitted⟩
    obtain ⟨records, listed⟩ := (each items).mpr admitted
    exact ⟨records, items, same, listed⟩

/-- A kind admits all items of a list exactly if the list is the values of a message of the kind. -/
theorem exists_shape_iff (kind : Kind) (values : Json) :
    (∃ message : Message, message.kind = kind ∧ message.Shape values) ↔
      ∃ items, values = .arr items ∧ ∀ item ∈ items, kind.Admits item := by
  cases kind with
  | teams =>
      refine Iff.trans ⟨?_, fun ⟨records, listed⟩ => ⟨.teams records, rfl, listed⟩⟩
        (exists_is_list_iff Team.Shape values)
      rintro ⟨message, same, shape⟩
      cases message <;> cases same
      exact ⟨_, shape⟩
  | challenges =>
      refine Iff.trans ⟨?_, fun ⟨records, listed⟩ => ⟨.challenges records, rfl, listed⟩⟩
        (exists_is_list_iff Challenge.Shape values)
      rintro ⟨message, same, shape⟩
      cases message <;> cases same
      exact ⟨_, shape⟩
  | rows =>
      refine Iff.trans ⟨?_, fun ⟨records, listed⟩ => ⟨.rows records, rfl, listed⟩⟩
        (exists_is_list_iff LiveRow.Shape values)
      rintro ⟨message, same, shape⟩
      cases message <;> cases same
      exact ⟨_, shape⟩

theorem of_name?_name (kind : Kind) : Kind.ofName? kind.name = some kind := by
  cases kind <;> decide

theorem decode_segment_of_envelope (segment : String) (kind : Kind) (values : Json)
    (envelope : Envelope.schema.readText segment = .ok (kind.name, values, ())) :
    decodeSegment segment =
      ((Message.ofValues kind values).map .message).mapError (.values kind) := by
  rw [decodeSegment, envelope]
  simp only [of_name?_name]
  cases Message.ofValues kind values <;> rfl

/-- Once the envelope of a segment names a known kind, the segment is decoded exactly if its values
are a list whose items all have the shape of the kind, and then to one record for each item, in
order. Otherwise the whole segment is refused for its values. A natural among the values is a number
of decimal digits alone. -/
theorem decode_segment_accepts_shape (segment : String) (kind : Kind) (values : Json)
    (envelope : Envelope.schema.readText segment = .ok (kind.name, values, ())) :
    ((∃ event, decodeSegment segment = .ok event) ↔
      ∃ items, values = .arr items ∧ ∀ item ∈ items, kind.Admits item) ∧
    (∀ event, decodeSegment segment = .ok event ↔
      ∃ message : Message, event = .message message ∧ message.kind = kind ∧
        message.Shape values) ∧
    ((¬ ∃ items, values = .arr items ∧ ∀ item ∈ items, kind.Admits item) →
      ∃ mismatch, decodeSegment segment = .error (.values kind mismatch)) ∧
    (∀ depth text number rest, readValue depth text = .ok (.num (.natural number), rest) ↔
      skipSpace text = Nat.toDigits 10 number ++ rest ∧ number < 2 ^ 64 ∧
        continuesNumber rest = false) := by
  have decoded := decode_segment_of_envelope segment kind values envelope
  have accepted := of_values_eq_ok_iff kind values
  have events (event : Event) : decodeSegment segment = .ok event ↔
      ∃ message : Message, event = .message message ∧ message.kind = kind ∧
        message.Shape values := by
    rw [decoded]
    simp only [← accepted]
    cases Message.ofValues kind values <;> simp [Except.map, Except.mapError, eq_comm]
  refine ⟨?_, events, ?_, read_value_natural_iff⟩
  · rw [← exists_shape_iff]
    constructor
    · rintro ⟨event, accepts⟩
      obtain ⟨message, _, shape⟩ := (events event).mp accepts
      exact ⟨message, shape⟩
    · rintro ⟨message, shape⟩
      exact ⟨.message message, (events _).mpr ⟨message, rfl, shape⟩⟩
  · intro refused
    rw [← exists_shape_iff] at refused
    simp only [← accepted] at refused
    rw [decoded]
    cases outcome : Message.ofValues kind values with
    | error mismatch => exact ⟨mismatch, rfl⟩
    | ok message => exact absurd ⟨message, outcome⟩ refused

/-- The second of two teams has one point too many, so neither is taken. -/
theorem decode_segment_accepts_shape_past_limit :
    ∃ mismatch, decodeSegment
      ("\x7b\"msg\":\"teams\",\"values\":" ++
        "[\x7b\"id\":\"1\",\"name\":\"a\"\x7d,[\"2\",\"b\",4294967296]]\x7d") =
        .error (.values .teams mismatch) := by
  refine (decode_segment_accepts_shape _ .teams
    (.arr [.obj [("id", .str "1"), ("name", .str "a")],
      .arr [.str "2", .str "b", .num (.natural 4294967296)]]) (by cbv)).2.2.1 ?_
  rintro ⟨items, same, admitted⟩
  cases same
  obtain ⟨team, shape⟩ := admitted (.arr [.str "2", .str "b", .num (.natural 4294967296)])
    (by simp)
  have bounded := team.points.toNat_lt
  have points := shape.points
  simp [Defaulted, Given, held, IsNatural] at points
  omega

end FlagBoard
