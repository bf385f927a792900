import FlagBoard.Page.Mount
import FlagBoard.Proofs.Feed.Respelling
import FlagBoard.Proofs.Json.Agreement
import FlagBoard.Proofs.Json.Rereading
import Mathlib

/-!
The first list of challenges of a page. It is read from a text, while the values of a segment are
taken from the value that the text is read to; yet the same challenges come of it, or none.
-/

namespace FlagBoard

open Json

/-- The segment that has a text as the values of its challenges. -/
def challengesSegment (text : String) : String :=
  "\x7b\"msg\":\"challenges\",\"values\":" ++ text ++ "\x7d"

section Envelopes

variable {value : Json}

theorem challenges_segment_chars (value : Json) :
    (challengesSegment value.text).toList =
      '\x7b' :: printMembers [("msg", .str "challenges"), ("values", value)] := by
  have before : "\x7b\"msg\":\"challenges\",\"values\":".toList =
      '\x7b' :: (printString "msg" ++ ':' :: (printString "challenges" ++ ',' ::
        (printString "values" ++ [':']))) := by decide +kernel
  have after : "\x7d".toList = ['\x7d'] := by decide +kernel
  calc (challengesSegment value.text).toList
    _ = "\x7b\"msg\":\"challenges\",\"values\":".toList ++ value.text.toList ++ "\x7d".toList :=
        String.toList_append.trans (congrArg (· ++ _) String.toList_append)
    _ = _ := congrArg₂ (· ++ ·) (congrArg₂ (· ++ ·) before String.toList_ofList) after
    _ = _ := by
        simp only [printMembers, print, List.cons_append, List.append_assoc, List.nil_append]

theorem given_values_print (shallow : Nested 126 value) (rest : List Char) :
    (Envelope.Given.values (value.reread.map arranged)).value (value.print ++ rest) rest := by
  refine ⟨printed_stands.shorter value _ _ rfl, fun ends => ?_⟩
  rw [read_printed shallow ends, Option.map_map]
  rfl

/-- The envelope is read if the value is read back from its text. -/
theorem read_challenges_segment (shallow : Nested 126 value) :
    (Envelope.schema.readText (challengesSegment value.text)).toOption =
      value.reread.map fun read => ("challenges", read.arranged, ()) := by
  have printed : List.Forall₂ (fun (member : String × Json) (given : Envelope.Given) => ∀ rest,
      Keyed given.key given.value (printString member.1 ++ ':' :: (member.2.print ++ rest)) rest)
      [("msg", .str "challenges"), ("values", value)]
      [.msg "challenges", .values (value.reread.map arranged)] :=
    .cons (fun rest => keyed_print "msg" (quoted_print "challenges" rest))
      (.cons (fun rest => keyed_print "values" (given_values_print shallow rest)) .nil)
  have enclosed := enclosed_print_members printed []
  have begins : Spaces (challengesSegment value.text).toList
      ('\x7b' :: printMembers [("msg", .str "challenges"), ("values", value)]) := by
    rw [challenges_segment_chars]
    exact spaces_refl _
  rw [List.append_nil] at enclosed
  rw [Envelope.read_given _ begins enclosed (spaces_refl [])]
  cases value.reread <;> rfl

end Envelopes

/-- What a schema reads from the text of a value is what it takes of the value that is read back. -/
theorem read_text_printed (schema : Schema) {value read : Json} (distinct : value.Distinct)
    (shallow : Nested depthLimit value) (reread : value.reread = some read) :
    (schema.readText value.text).toOption = (schema.readTree read.arranged).toOption := by
  have spelling := spelling_reread shallow reread []
  have agrees := schema_agrees schema depthLimit read _ _ [] (spaces_refl _) spelling
    (distinct_reread distinct reread) rfl
  rw [List.append_nil] at agrees
  rw [read_text_toOption, text, String.toList_ofList, agrees]
  cases schema.readTree read.arranged <;> rfl

theorem read_seed_printed {value read : Json} (distinct : value.Distinct)
    (shallow : Nested depthLimit value) (reread : value.reread = some read) :
    MountAttributes.readSeed value.text =
      ((Schema.list Challenge.schema).readTree read.arranged).toOption.elim []
        fun records => records.map Challenge.ofValue := by
  rw [← read_text_printed _ distinct shallow reread, MountAttributes.readSeed]
  cases (Schema.list Challenge.schema).readText value.text <;> rfl

/-- The challenges of a segment with a text as its values are those that a page begins with by that
text. If the values are not of their kind, the page begins with none. One of the two is so as long
as all numbers in the text can be read back. -/
theorem seed_follows_segment (tag : Option String) (value : Json) (distinct : value.Distinct)
    (shallow : Nested 126 value) :
    let segment := challengesSegment value.text
    let seed := (MountAttributes.ofRaw tag (some value.text)).seed
    (∀ challenges, decodeSegment segment = .ok (.message (.challenges challenges)) →
      seed = challenges) ∧
    (∀ kind mismatch, decodeSegment segment = .error (.values kind mismatch) → seed = []) ∧
    (value.reread.isSome → decodeSegment segment = .ok (.message (.challenges seed)) ∨
      ∃ mismatch, decodeSegment segment = .error (.values .challenges mismatch)) := by
  have envelope := read_challenges_segment shallow
  intro segment seed
  cases reread : value.reread with
  | none =>
      -- The values of an envelope are read to the end, so the segment is not even one.
      rw [reread] at envelope
      have refused : ∃ error, decodeSegment segment = .error (.envelope error) := by
        cases read : Envelope.schema.readText segment with
        | error error => exact ⟨error, by rw [decodeSegment, read]⟩
        | ok result => rw [read] at envelope; cases envelope
      obtain ⟨error, refused⟩ := refused
      simp [refused]
  | some read =>
      rw [reread] at envelope
      have decoded := decode_segment_of_envelope segment .challenges read.arranged
        (ok_of_toOption _ _ envelope)
      have seeded : seed = _ := read_seed_printed distinct (nested_succ shallow) reread
      rw [Message.ofValues] at decoded
      cases taken : (Schema.list Challenge.schema).readTree read.arranged with
      | error mismatch =>
          rw [taken] at decoded seeded
          simp [decoded, seeded, Except.map, Except.mapError, Except.toOption]
      | ok records =>
          rw [taken] at decoded seeded
          simp [decoded, seeded, Except.map, Except.mapError, Except.toOption]

/-- The fields may go by their other names or stand in a list, and another member does not count. -/
theorem seed_follows_segment_other_names :
    let first : Json := .obj [("Name", .str "A"), ("x", .num (.negative 1)), ("Tag", .str "a")]
    let value : Json := .arr [first, .arr [.str "b", .str "B", .num (.natural 5)]]
    let challenges : List Challenge := [⟨"a", "A", 0, "", ""⟩, ⟨"b", "B", 5, "", ""⟩]
    decodeSegment (challengesSegment value.text) = .ok (.message (.challenges challenges)) ∧
      (MountAttributes.ofRaw none (some value.text)).seed = challenges := by
  intro first value challenges
  have distinct : value.Distinct := .arr _ (List.forall_iff_forall_mem.mp
    ⟨.obj _ (by decide) (List.forall_iff_forall_mem.mp ⟨.str _, .num _, .str _⟩),
      .arr _ (List.forall_iff_forall_mem.mp ⟨.str _, .str _, .num _⟩)⟩)
  have shallow : Nested 126 value := .arr _ (List.forall_iff_forall_mem.mp
    ⟨.obj _ (List.forall_iff_forall_mem.mp ⟨.str _, .num _, .str _⟩),
      .arr _ (List.forall_iff_forall_mem.mp ⟨.str _, .str _, .num _⟩)⟩)
  have decoded : decodeSegment (challengesSegment value.text) =
      .ok (.message (.challenges challenges)) := by decide +kernel
  exact ⟨decoded, (seed_follows_segment none value distinct shallow).1 challenges decoded⟩

end FlagBoard
