import FlagBoard.Proofs.Json.Record
import FlagBoard.Submission.Reply
import Mathlib

/-!
What the body of a reply comes to. An object is judged by the members `error` and `status` alone,
as long as each of them is given once at most, as null or a text, and all keys are texts; every
other object is no reply, and neither is any other text, save for a list of up to two such values.
-/

namespace FlagBoard.Reply

open Json

/-- The contents of the members with a name. -/
def given (name : String) (members : List (Option String × Content)) : List Content :=
  (members.filter fun member => member.1 = some name).map Prod.snd

def IsOptionalText (content : Content) : Prop :=
  content = .null ∨ ∃ text, content = .quoted (some text)

structure WellFormed (members : List (Option String × Content)) : Prop where
  keys : ∀ member ∈ members, member.1 ≠ none
  once : ∀ name ∈ ["error", "status"], (given name members).length ≤ 1
  texts : ∀ name ∈ ["error", "status"], ∀ content ∈ given name members, IsOptionalText content

theorem optional_text_iff (content : Content) :
    (optionalText content).isSome ↔ IsOptionalText content := by
  cases content with
  | null => simp [optionalText, IsOptionalText]
  | quoted meaning => cases meaning <;> simp [optionalText, IsOptionalText]
  | other => simp [optionalText, IsOptionalText]

def takeOnce : Option (Option String) → Content → Option (Option (Option String))
  | some _, _ => none
  | none, content => (optionalText content).map some

def take (key : String) (content : Content) : fields.Draft → Option fields.Draft
  | (error, status, ()) =>
      if key = "error" then (takeOnce error content).map fun error => (error, status, ())
      else if key = "status" then (takeOnce status content).map fun status => (error, status, ())
      else some (error, status, ())

theorem takes (depth : Nat) : Takes (fun key draft => fields.readMember depth key draft) take := by
  rintro key content ⟨error, status, ⟨⟩⟩ text colon start rest spaces valueSpaces standing ends
  have separated := (read_colon_iff text colon).mpr (skip_spaces_cons spaces rfl)
  have read := read_optional_text depth valueSpaces standing
  have passed := skip_value_complete valueSpaces standing ends
  simp only [fields, Fields.readMember, List.not_mem_nil, or_false, take]
  by_cases isError : key = "error"
  · rw [if_pos isError, if_pos isError]
    cases error with
    | some error => rfl
    | none =>
        simp only [separated, ok_bind, bind_toOption, read, takeOnce]
        cases optionalText content <;> rfl
  · rw [if_neg isError, if_neg isError]
    by_cases isStatus : key = "status"
    · rw [if_pos isStatus, if_pos isStatus]
      cases status with
      | some status => rfl
      | none =>
          simp only [separated, ok_bind, bind_toOption, read, takeOnce]
          cases optionalText content <;> rfl
    · rw [if_neg isStatus, if_neg isStatus]
      simp only [separated, ok_bind, passed]
      rfl

theorem given_cons (name : String) (member : Option String × Content)
    (members : List (Option String × Content)) :
    given name (member :: members) =
      if member.1 = some name then member.2 :: given name members else given name members := by
  rw [given, List.filter_cons]
  split_ifs <;> simp_all [given]

/-- Each of the two fields takes the contents that are given under its name. -/
theorem take_all_eq_some_iff (members : List (Option String × Content))
    (error status error' status' : Option (Option String)) :
    takeAll take members (error, status, ()) = some (error', status', ()) ↔
      (∀ member ∈ members, member.1 ≠ none) ∧
        (given "error" members).foldlM takeOnce error = some error' ∧
        (given "status" members).foldlM takeOnce status = some status' := by
  induction members generalizing error status with
  | nil => simp [takeAll, given]
  | cons member members induction =>
      obtain ⟨key, content⟩ := member
      rw [given_cons, given_cons]
      cases key with
      | none => simp [takeAll]
      | some key =>
          have keys : (∀ member ∈ (some key, content) :: members, member.1 ≠ none) ↔
              ∀ member ∈ members, member.1 ≠ none := by simp
          rw [keys, takeAll, take]
          simp only [Option.some.injEq]
          by_cases isError : key = "error"
          · have notStatus : key ≠ "status" := by rw [isError]; decide
            simp only [if_pos isError, if_neg notStatus, List.foldlM_cons]
            cases takeOnce error content with
            | none => simp
            | some taken => exact induction taken status
          · simp only [if_neg isError]
            by_cases isStatus : key = "status"
            · simp only [if_pos isStatus, List.foldlM_cons]
              cases takeOnce status content with
              | none => simp
              | some taken => exact induction error taken
            · simp only [if_neg isStatus]
              exact induction error status

theorem fold_take_once_iff (contents : List Content) (seen : Option (Option String)) :
    contents.foldlM takeOnce none = some seen ↔
      contents = [] ∧ seen = none ∨
        ∃ content value, contents = [content] ∧ optionalText content = some value ∧
          seen = some value := by
  match contents with
  | [] => simp [eq_comm]
  | [content] =>
      cases taken : optionalText content <;> simp [takeOnce, taken, eq_comm]
  | content :: second :: others =>
      cases taken : optionalText content <;> simp [takeOnce, taken]

theorem finish_eq (draft : fields.Draft) :
    fields.finish draft = .ok (draft.1.getD none, draft.2.1.getD none, ()) := by
  obtain ⟨error, status, ⟨⟩⟩ := draft
  cases error <;> cases status <;> rfl

/-- A reply that is an object is read by taking its members in turn. -/
theorem read_object (body : String) (members : List (Option String × Content))
    (object : ObjectText members body.toList) :
    (Reply.read body).toOption = (takeAll take members (none, none, ())).map fun draft =>
      ⟨draft.1.getD none, draft.2.1.getD none⟩ := by
  obtain ⟨start, rest, spaces, enclosed, ends⟩ := object
  have gathered := read_object_members (takes 126) enclosed (none, none, ())
  have value : (schema.read depthLimit body.toList).toOption =
      (takeAll take members (none, none, ())).map fun draft =>
        ((draft.1.getD none, draft.2.1.getD none, ()), rest) := by
    change ((Schema.record "ActionReply" fields).read (126 + 1) body.toList).toOption = _
    rw [read_record_object "ActionReply" fields 126 start spaces, bind_toOption]
    change ((readObject _ (none, none, ()) start).toOption.bind _) = _
    rw [gathered]
    cases takeAll take members (none, none, ()) with
    | none => rfl
    | some draft => simp [finish_eq, Except.toOption]
  have mapped : (Reply.read body).toOption = (schema.readText body).toOption.map ofValue := by
    rw [Reply.read]
    cases schema.readText body <;> rfl
  rw [mapped, read_text_toOption, value]
  cases takeAll take members (none, none, ()) with
  | none => rfl
  | some draft => simp [skip_nil_of_spaces ends, ofValue]

theorem field_filled_iff (contents : List Content) :
    (∃ seen, contents.foldlM takeOnce none = some seen) ↔
      contents.length ≤ 1 ∧ ∀ content ∈ contents, IsOptionalText content := by
  simp only [fold_take_once_iff, ← optional_text_iff]
  match contents with
  | [] => simp
  | [content] => simp [Option.isSome_iff_exists]
  | content :: second :: others => simp

theorem given_text_iff (contents : List Content) (seen : Option (Option String))
    (filled : contents.foldlM takeOnce none = some seen) (text : String) :
    .quoted (some text) ∈ contents ↔ seen.getD none = some text := by
  rcases (fold_take_once_iff contents seen).mp filled with
    ⟨rfl, rfl⟩ | ⟨content, value, rfl, taken, rfl⟩
  · simp
  · rw [List.mem_singleton, Option.getD_some]
    match content with
    | .null => cases taken; simp
    | .quoted none => cases taken
    | .quoted (some string) => cases taken; simp [eq_comm]
    | .other => cases taken

/-- Members are well formed exactly if both fields take what they are given. -/
theorem well_formed_iff (members : List (Option String × Content)) :
    WellFormed members ↔ ∃ error status, takeAll take members (none, none, ()) =
      some (error, status, ()) := by
  constructor
  · rintro ⟨keys, once, texts⟩
    obtain ⟨error, hasError⟩ := (field_filled_iff (given "error" members)).mpr
      ⟨once "error" (by simp), texts "error" (by simp)⟩
    obtain ⟨status, hasStatus⟩ := (field_filled_iff (given "status" members)).mpr
      ⟨once "status" (by simp), texts "status" (by simp)⟩
    exact ⟨error, status, (take_all_eq_some_iff _ _ _ _ _).mpr ⟨keys, hasError, hasStatus⟩⟩
  · rintro ⟨error, status, taken⟩
    obtain ⟨keys, hasError, hasStatus⟩ := (take_all_eq_some_iff _ _ _ _ _).mp taken
    have errors := (field_filled_iff _).mp ⟨error, hasError⟩
    have statuses := (field_filled_iff _).mp ⟨status, hasStatus⟩
    refine ⟨keys, ?_, ?_⟩
    · simpa using ⟨errors.1, statuses.1⟩
    · simpa using ⟨errors.2, statuses.2⟩

def Unexpected (body : String) : Prop :=
  ∃ detail, classifyReply body = .error (.network ("unexpected reply: " ++ detail))

theorem unexpected_of_error (body : String) (error : ReadError)
    (read : Reply.read body = .error error) : Unexpected body := by
  refine ⟨error.message, ?_⟩
  rw [classifyReply, read]

/-- What is read as a reply is an object, or a list that gives the two fields by place. -/
theorem object_or_list (body : String) (reply : Reply) (read : Reply.read body = .ok reply) :
    (∃ members, ObjectText members body.toList) ∨
      ∃ contents, ListText contents body.toList ∧ contents.length ≤ 2 ∧
        ∀ content ∈ contents, IsOptionalText content := by
  rw [Reply.read, map_eq_ok_iff] at read
  obtain ⟨values, read, rfl⟩ := read
  obtain ⟨rest, value, ends⟩ := (read_text_eq_ok_iff _ _ _).mp read
  rcases read_record_sound "ActionReply" fields
    ⟨optional_text_sound, optional_text_sound, trivial⟩ depthLimit body.toList values rest value
    with ⟨start, members, spaces, enclosed⟩ | ⟨start, contents, spaces, few, all, items⟩
  · exact .inl ⟨members, start, rest, spaces, enclosed, ends⟩
  · exact .inr ⟨contents, ⟨start, rest, spaces, items, ends⟩, few,
      fun content member => (optional_text_iff content).mp (all content member)⟩

theorem classify_object (body : String) (members : List (Option String × Content))
    (object : ObjectText members body.toList) (error status : Option (Option String))
    (taken : takeAll take members (none, none, ()) = some (error, status, ())) :
    classifyReply body = .ok (Reply.mk (error.getD none) (status.getD none)).verdict := by
  have read := read_object body members object
  rw [taken] at read
  rw [classifyReply, ok_of_toOption _ _ read]

/-- The verdict on two fields, told by what is given for them. -/
theorem verdict_of_given (members : List (Option String × Content))
    (error status : Option (Option String))
    (errors : (given "error" members).foldlM takeOnce none = some error)
    (statuses : (given "status" members).foldlM takeOnce none = some status) :
    let verdict := (Reply.mk (error.getD none) (status.getD none)).verdict
    (∀ message, .quoted (some message) ∈ given "error" members → verdict = .rejected message) ∧
    ((∀ message, .quoted (some message) ∉ given "error" members) →
      (.quoted (some "ok") ∈ given "status" members → verdict = .accepted) ∧
      (.quoted (some "ok") ∉ given "status" members → verdict = .ignored)) := by
  refine ⟨?_, ?_⟩
  · intro message member
    rw [given_text_iff _ error errors] at member
    rw [Reply.verdict, member]
  · intro none
    have noError : error.getD .none = .none := by
      rw [Option.eq_none_iff_forall_ne_some]
      intro message same
      exact none message ((given_text_iff _ error errors message).mpr same)
    rw [Reply.verdict, noError, given_text_iff _ status statuses]
    constructor
    · intro ok
      simp [ok]
    · intro other
      simp [other]

theorem unexpected_object (body : String) (members : List (Option String × Content))
    (object : ObjectText members body.toList) (illFormed : ¬ WellFormed members) :
    Unexpected body := by
  have read := read_object body members object
  cases taken : takeAll take members (none, none, ()) with
  | some draft =>
      exact absurd ((well_formed_iff members).mpr ⟨draft.1, draft.2.1, taken⟩) illFormed
  | none =>
      rw [taken] at read
      obtain ⟨error, failed⟩ := error_of_toOption _ read
      exact unexpected_of_error body error failed

theorem unexpected_elsewhere (body : String)
    (noObject : ∀ members, ¬ ObjectText members body.toList)
    (noList : ∀ contents, ListText contents body.toList →
      2 < contents.length ∨ ∃ content ∈ contents, ¬ IsOptionalText content) :
    Unexpected body := by
  cases read : Reply.read body with
  | error error => exact unexpected_of_error body error read
  | ok reply =>
      rcases object_or_list body reply read with ⟨members, object⟩ | ⟨contents, list, few, all⟩
      · exact absurd object (noObject members)
      · rcases noList contents list with many | ⟨content, member, other⟩
        · exact absurd few (Nat.not_le.mpr many)
        · exact absurd (all content member) other

/-- A body that is an object comes to the text of its `error`, if that is given as a text, and else
to an acceptance if its `status` is given as `ok`, whatever other members it has; it is no reply if
one of the two is given twice or as something else, or if a key is no text. A body that is no object
comes to nothing, unless it is a list that gives the two by place. -/
theorem classify_by_members (body : String) :
    (∀ members, ObjectText members body.toList → WellFormed members →
      (∀ message, .quoted (some message) ∈ given "error" members →
        classifyReply body = .ok (.rejected message)) ∧
      ((∀ message, .quoted (some message) ∉ given "error" members) →
        (.quoted (some "ok") ∈ given "status" members → classifyReply body = .ok .accepted) ∧
        (.quoted (some "ok") ∉ given "status" members → classifyReply body = .ok .ignored))) ∧
    (∀ members, ObjectText members body.toList → ¬ WellFormed members → Unexpected body) ∧
    ((∀ members, ¬ ObjectText members body.toList) →
      (∀ contents, ListText contents body.toList →
        2 < contents.length ∨ ∃ content ∈ contents, ¬ IsOptionalText content) →
      Unexpected body) := by
  refine ⟨?_, unexpected_object body, unexpected_elsewhere body⟩
  intro members object wellFormed
  obtain ⟨error, status, taken⟩ := (well_formed_iff members).mp wellFormed
  obtain ⟨_, errors, statuses⟩ := (take_all_eq_some_iff _ _ _ _ _).mp taken
  rw [classify_object body members object error status taken]
  simpa only [Except.ok.injEq] using verdict_of_given members error status errors statuses

theorem text_member (key value : String) (start colon behind : List Char)
    (keyRead : readString start = .ok (key, ':' :: '"' :: colon))
    (valueRead : readString colon = .ok (value, behind)) :
    Member IsValue (some key, .quoted (some value)) ('"' :: start) behind :=
  ⟨_, _, _, quoted_of_read key keyRead, spaces_refl _, spaces_refl _,
    value_of_quoted (quoted_of_read value valueRead)⟩

/-- An error behind a number past all bounds; and a number alone. -/
theorem classify_by_members_rejected :
    classifyReply "\x7b\"x\":[1e999],\"error\":\"no\"\x7d" = .ok (.rejected "no") ∧
      Unexpected "1" := by
  constructor
  · have number : NestedValue 0 .other "1e999],\"error\":\"no\"\x7d".toList
        "],\"error\":\"no\"\x7d".toList :=
      .number ⟨"e999],\"error\":\"no\"\x7d".toList, "e999],\"error\":\"no\"\x7d".toList,
        .inr ⟨by decide, ['1'], by decide, by simp [isDigit], rfl⟩, .inl rfl,
        .inr ⟨'e', "999],\"error\":\"no\"\x7d".toList, "999],\"error\":\"no\"\x7d".toList,
          .inl rfl, rfl, .inl rfl, ['9', '9', '9'], by decide, by simp [isDigit], rfl⟩⟩
    have list : Member IsValue (some "x", .other) "\"x\":[1e999],\"error\":\"no\"\x7d".toList
        ",\"error\":\"no\"\x7d".toList :=
      ⟨":[1e999],\"error\":\"no\"\x7d".toList, "[1e999],\"error\":\"no\"\x7d".toList,
        "[1e999],\"error\":\"no\"\x7d".toList, quoted_of_read "x" rfl, spaces_refl _,
        spaces_refl _, 1,
        .inr ⟨rfl, .list (.entry (spaces_refl _) number (.close (spaces_refl _)))⟩⟩
    have error := text_member "error" "no" "error\":\"no\"\x7d".toList "no\"\x7d".toList ['\x7d']
      rfl rfl
    have object : ObjectText [(some "x", .other), (some "error", .quoted (some "no"))]
        "\x7b\"x\":[1e999],\"error\":\"no\"\x7d".toList :=
      ⟨"\"x\":[1e999],\"error\":\"no\"\x7d".toList, [], spaces_refl _,
        .entry (spaces_refl _) list
          (.entry (spaces_refl _) (spaces_refl _) error (.close (spaces_refl _))), spaces_refl _⟩
    have wellFormed : WellFormed [(some "x", .other), (some "error", .quoted (some "no"))] :=
      ⟨by decide, by decide, by simp [given, IsOptionalText]⟩
    exact ((classify_by_members _).1 _ object wellFormed).1 "no" (by decide)
  · refine (classify_by_members "1").2.2 ?_ ?_
    · rintro members ⟨start, rest, spaces, _⟩
      exact absurd (skip_spaces_cons spaces rfl) (by simp [skipSpace, isSpace])
    · rintro contents ⟨start, rest, spaces, _⟩
      exact absurd (skip_spaces_cons spaces rfl) (by simp [skipSpace, isSpace])

/-- A status that is a number takes the error with it, and a list is read by place. -/
theorem number_status_and_list_by_place :
    let body := "\x7b\"error\":\"Incorrect Flag\",\"status\":400\x7d"
    let list := "[\"no\"]"
    (∃ members, ObjectText members body.toList ∧
      .quoted (some "Incorrect Flag") ∈ given "error" members ∧
      classifyReply body = .error (.network ("unexpected reply: " ++
        "invalid type: integer `400`, expected a string at line 1 column 38"))) ∧
    ∃ contents, ListText contents list.toList ∧ classifyReply list = .ok (.rejected "no") := by
  have number : IsValue .other "400\x7d".toList ['\x7d'] :=
    ⟨0, .number ⟨_, _, .inr ⟨by decide, "400".toList, by decide, by simp [isDigit], rfl⟩, .inl rfl,
      .inl rfl⟩⟩
  have error := text_member "error" "Incorrect Flag"
    "error\":\"Incorrect Flag\",\"status\":400\x7d".toList
    "Incorrect Flag\",\"status\":400\x7d".toList ",\"status\":400\x7d".toList rfl rfl
  have status : Member IsValue (some "status", .other) "\"status\":400\x7d".toList ['\x7d'] :=
    ⟨":400\x7d".toList, _, _, quoted_of_read "status" rfl, spaces_refl _, spaces_refl _, number⟩
  have item : IsValue (.quoted (some "no")) "\"no\"]".toList [']'] :=
    value_of_quoted (quoted_of_read "no" rfl)
  refine ⟨⟨[(some "error", .quoted (some "Incorrect Flag")), (some "status", .other)], ?_, ?_, ?_⟩,
    [.quoted (some "no")], ?_, ?_⟩
  · exact ⟨_, [], spaces_refl _, .entry (spaces_refl _) error
      (.entry (spaces_refl _) (spaces_refl _) status (.close (spaces_refl _))), spaces_refl _⟩
  · decide
  · decide +kernel
  · exact ⟨_, [], spaces_refl _, .entry (spaces_refl _) item (.close (spaces_refl _)),
      spaces_refl _⟩
  · decide +kernel

end FlagBoard.Reply
