import FlagBoard.Proofs.Feed.Lines
import FlagBoard.Proofs.Feed.Respelling

/-!
Messages as they are written. The text of a message stands on one line and is one segment. It is
one of the texts of an envelope whose values, with their members in the order of their keys, have
the shape of the message, and so it is decoded to the message again.
-/

namespace FlagBoard

open Json

/-- What is written for an envelope is one of its texts. -/
theorem Envelope.spells_print (name : String) (values : Json) (readable : Readable 126 values) :
    Spells name values (Json.obj [("msg", .str name), ("values", values)]).print := by
  have members : Enclosed '\x7d' (fun part : Part => Keyed part.key part.value)
      [.msg name, .values values] (printMembers [("msg", .str name), ("values", values)]) [] := by
    rw [print_members_cons, follow_members_cons]
    exact .entry (spaces_refl _) (keyed_print "msg" (quoted_print name _))
      (.entry (spaces_refl _) (spaces_refl _) (keyed_print "values" (spelling_print readable _))
        (.close (spaces_refl _)))
  rw [print]
  exact ⟨_, _, [], spaces_refl _, members, spaces_refl _, rfl, rfl⟩

theorem readable_fields (depth : Nat) (members : List (String × Json))
    (each : members.Forall fun member => Readable depth member.2) :
    Readable (depth + 1) (.obj members) :=
  .obj members (List.forall_iff_forall_mem.mp each)

theorem readable_list {Record : Type} (depth : Nat) (toJson : Record → Json)
    (each : ∀ record, Readable depth (toJson record)) (records : List Record) :
    Readable (depth + 1) (.arr (records.map toJson)) := by
  refine .arr _ ?_
  rw [List.forall_mem_map]
  exact fun record _ => each record

theorem readable_completion (depth : Nat) (completion : Option String) :
    Readable depth (completion.elim .null .str) := by
  cases completion with
  | none => exact .null
  | some time => exact .str time

theorem readable_points (depth : Nat) (points : UInt32) :
    Readable depth (.num (.natural points.toNat)) :=
  .natural _ (Nat.lt_trans points.toNat_lt (by decide))

theorem readable_team (depth : Nat) (team : Team) : Readable (depth + 2) team.toJson := by
  have completions := readable_list depth _ (readable_completion depth) team.completions
  rw [Team.toJson]
  exact readable_fields _ _ ⟨.str _, .str _, readable_points _ _, completions, .bool _⟩

theorem readable_challenge (depth : Nat) (challenge : Challenge) :
    Readable (depth + 1) challenge.toJson := by
  rw [Challenge.toJson]
  exact readable_fields _ _ ⟨.str _, .str _, readable_points _ _, .str _, .str _⟩

theorem readable_solve (depth : Nat) (solve : Solve) : Readable (depth + 1) solve.toJson := by
  rw [Solve.toJson]
  exact readable_fields _ _ ⟨.str _, readable_completion _ _⟩

theorem readable_row (depth : Nat) (row : LiveRow) : Readable (depth + 3) row.toJson := by
  have solves := readable_list (depth + 1) _ (readable_solve depth) row.solves
  rw [LiveRow.toJson]
  exact readable_fields _ _ ⟨readable_challenge _ _, .bool _, solves⟩

/-- The values of a message are nested four deep at most. -/
theorem readable_values (depth : Nat) (message : Message) :
    Readable (depth + 4) message.values := by
  cases message with
  | teams records => exact readable_list _ _ (readable_team (depth + 1)) records
  | challenges records => exact readable_list _ _ (readable_challenge (depth + 2)) records
  | rows records => exact readable_list _ _ (readable_row depth) records

theorem distinct_fields (members : List (String × Json)) (keys : (members.map Prod.fst).Nodup)
    (each : members.Forall fun member => member.2.Distinct) : (Json.obj members).Distinct :=
  .obj members keys (List.forall_iff_forall_mem.mp each)

theorem distinct_list {Record : Type} (toJson : Record → Json)
    (each : ∀ record, (toJson record).Distinct) (records : List Record) :
    (Json.arr (records.map toJson)).Distinct := by
  refine .arr _ ?_
  rw [List.forall_mem_map]
  exact fun record _ => each record

theorem distinct_completion (completion : Option String) :
    (completion.elim Json.null Json.str).Distinct := by
  cases completion with
  | none => exact .null
  | some time => exact .str time

theorem distinct_team (team : Team) : team.toJson.Distinct := by
  rw [Team.toJson]
  exact distinct_fields _ (by simp)
    ⟨.str _, .str _, .num _, distinct_list _ distinct_completion team.completions, .bool _⟩

theorem distinct_challenge (challenge : Challenge) : challenge.toJson.Distinct := by
  rw [Challenge.toJson]
  exact distinct_fields _ (by simp) ⟨.str _, .str _, .num _, .str _, .str _⟩

theorem distinct_solve (solve : Solve) : solve.toJson.Distinct := by
  rw [Solve.toJson]
  exact distinct_fields _ (by simp) ⟨.str _, distinct_completion _⟩

theorem distinct_row (row : LiveRow) : row.toJson.Distinct := by
  rw [LiveRow.toJson]
  exact distinct_fields _ (by simp)
    ⟨distinct_challenge _, .bool _, distinct_list _ distinct_solve row.solves⟩

theorem distinct_values (message : Message) : message.values.Distinct := by
  cases message with
  | teams records => exact distinct_list _ distinct_team records
  | challenges records => exact distinct_list _ distinct_challenge records
  | rows records => exact distinct_list _ distinct_row records

/-- Records that are written one after the other are listed again. -/
theorem is_list_arranged {Record : Type} (shape : Json → Record → Prop)
    (toJson : Record → Json) (shaped : ∀ record, shape (toJson record).arranged record)
    (records : List Record) : IsList shape (Json.arr (records.map toJson)).arranged records := by
  refine ⟨_, by rw [arranged], ?_⟩
  rw [arranged_items, List.forall₂_map_left_iff, List.forall₂_map_left_iff, List.forall₂_same]
  exact fun record _ => shaped record

theorem completion_shape (completion : Option String) :
    IsOptional IsText (completion.elim Json.null Json.str).arranged completion := by
  cases completion with
  | none => simp [IsOptional, arranged]
  | some time => simp [IsOptional, IsText, arranged]

theorem team_shape (team : Team) : Team.Shape team.toJson.arranged team := by
  have completions := is_list_arranged (IsOptional IsText) _ completion_shape team.completions
  have sorted : team.toJson.arranged = .obj [
      ("completions", (Json.arr (team.completions.map fun completion =>
        completion.elim .null .str)).arranged),
      ("id", .str team.id), ("is_user", .bool team.isOwn), ("name", .str team.name),
      ("points", .num (.natural team.points.toNat))] := by
    simp [Team.toJson, arranged, arrangedMembers, putMember, -String.lt_iff_ltb]
  rw [sorted]
  exact {
    record := trivial
    id := ⟨_, by simp [held], rfl⟩
    name := ⟨_, by simp [held], rfl⟩
    points := .inr ⟨_, by simp [held], rfl⟩
    completions := .inr ⟨_, by simp [held], .inr completions⟩
    isOwn := .inr ⟨_, by simp [held], rfl⟩ }

theorem challenge_shape (challenge : Challenge) :
    Challenge.Shape challenge.toJson.arranged challenge := by
  have sorted : challenge.toJson.arranged = .obj [
      ("category", .str challenge.category), ("description", .str challenge.description),
      ("name", .str challenge.name), ("points", .num (.natural challenge.points.toNat)),
      ("tag", .str challenge.tag)] := by
    simp [Challenge.toJson, arranged, arrangedMembers, putMember, -String.lt_iff_ltb]
  rw [sorted]
  exact {
    record := trivial
    tag := ⟨_, by simp [held], rfl⟩
    name := ⟨_, by simp [held], rfl⟩
    points := .inr ⟨_, by simp [held], rfl⟩
    category := .inr ⟨_, by simp [held], rfl⟩
    description := .inr ⟨_, by simp [held], rfl⟩ }

theorem solve_shape (solve : Solve) : Solve.Shape solve.toJson.arranged solve := by
  have sorted : solve.toJson.arranged = .obj [
      ("completedAt", (solve.completedAt.elim .null Json.str).arranged),
      ("teamName", .str solve.teamName)] := by
    simp [Solve.toJson, arranged, arrangedMembers, putMember, -String.lt_iff_ltb]
  rw [sorted]
  exact {
    record := trivial
    teamName := ⟨_, by simp [held], rfl⟩
    completedAt := .inr ⟨_, by simp [held], completion_shape solve.completedAt⟩ }

theorem row_shape (row : LiveRow) : LiveRow.Shape row.toJson.arranged row := by
  have solves := is_list_arranged Solve.Shape _ solve_shape row.solves
  have sorted : row.toJson.arranged = .obj [
      ("challenge", row.challenge.toJson.arranged), ("isUserCompleted", .bool row.solvedByOwn),
      ("teamsCompleted", (Json.arr (row.solves.map Solve.toJson)).arranged)] := by
    simp [LiveRow.toJson, arranged, arrangedMembers, putMember, -String.lt_iff_ltb]
  rw [sorted]
  exact {
    record := trivial
    challenge := ⟨_, by simp [held], challenge_shape row.challenge⟩
    solvedByOwn := .inr ⟨_, by simp [held], rfl⟩
    solves := .inr ⟨_, by simp [held], .inr solves⟩ }

theorem message_shape (message : Message) : message.Shape message.values.arranged := by
  cases message with
  | teams records => exact is_list_arranged Team.Shape _ team_shape records
  | challenges records => exact is_list_arranged Challenge.Shape _ challenge_shape records
  | rows records => exact is_list_arranged LiveRow.Shape _ row_shape records

/-- A message is decoded from every text of its envelope. -/
theorem decode_segment_of_spells (message : Message) (segment : String)
    (spells : Envelope.Spells message.kind.name message.values segment.toList) :
    decodeSegment segment = .ok (.message message) := by
  have envelope := Envelope.read_spelled segment _ _ (distinct_values message) spells
  have taken := (of_values_eq_ok_iff message.kind message.values.arranged message).mpr
    ⟨rfl, message_shape message⟩
  rw [decode_segment_of_envelope _ _ _ envelope, taken]
  rfl

theorem decode_segment_encode (message : Message) :
    decodeSegment message.encode = .ok (.message message) := by
  apply decode_segment_of_spells
  rw [Message.encode, text, String.toList_ofList]
  exact Envelope.spells_print _ _ (readable_values 122 message)

theorem encode_visible (message : Message) : Visible message.encode.toList := by
  have readable : Readable 5 message.toJson := by
    rw [Message.toJson]
    exact readable_fields _ _ ⟨.str _, readable_values 0 message⟩
  rw [Message.encode, text, String.toList_ofList]
  exact print_visible 5 message.toJson readable

theorem newline_notMem_encode (message : Message) : '\n' ∉ message.encode.toList :=
  newline_notMem_of_visible _ (encode_visible message)

theorem follow_members_end (members : List (String × Json)) :
    ∃ inner, followMembers members = inner ++ ['\x7d'] := by
  induction members with
  | nil => exact ⟨[], rfl⟩
  | cons member members induction =>
      obtain ⟨inner, same⟩ := induction
      rw [follow_members_cons, same]
      exact ⟨',' :: (printString member.1 ++ ':' :: (member.2.print ++ inner)), by simp⟩

/-- The text of a message is one segment. -/
theorem segments_encode (message : Message) :
    segments message.encode.toList = [message.encode.toList] := by
  obtain ⟨inner, same⟩ := follow_members_end [("values", message.values)]
  have ends : message.encode.toList =
      '\x7b' :: (printString "msg" ++ ':' :: ((Json.str message.kind.name).print ++ inner)) ++
        ['\x7d'] := by
    have object : message.toJson.print =
        '\x7b' :: printMembers [("msg", .str message.kind.name), ("values", message.values)] := by
      rw [Message.toJson, print]
    rw [Message.encode, text, String.toList_ofList, object, print_members_cons, same]
    simp
  have trimmed := Text.trim_of_ends '\x7b' '\x7d'
    (printString "msg" ++ ':' :: ((Json.str message.kind.name).print ++ inner)) (by decide)
    (by decide)
  rw [segments_line _ (newline_notMem_encode message), ends, trimmed]
  rfl

end FlagBoard
