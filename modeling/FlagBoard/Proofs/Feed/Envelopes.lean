import FlagBoard.Feed.Scoreboard
import FlagBoard.Proofs.Feed.Lines
import FlagBoard.Proofs.Feed.Respelling
import FlagBoard.Proofs.Json.Values
import Mathlib

/-!
Which segments are decoded at all: objects with a string under `msg`, and lists of one item or two
of which the first is a string. Such a list is decoded as the object is that has its items as `msg`
and `values`. Any other segment is refused as no envelope, and leaves every view as it was.
-/

namespace FlagBoard

open Json

namespace Envelope

/-- An object with a string under `msg`. -/
def NamesByMember (segment : String) : Prop :=
  ∃ members name, ObjectText members segment.toList ∧ (some "msg", .quoted (some name)) ∈ members

/-- A list of one item or two, of which the first is a string. -/
def NamesByPlace (segment : String) : Prop :=
  ∃ name others, ListText (.quoted (some name) :: others) segment.toList ∧ others.length ≤ 1

/-- A member after which a name is known that was not known before is a `msg` with that name. -/
def Names (label : Option String × Content) (draft grown : fields.Draft) : Prop :=
  ∀ name, grown.1 = some name → draft.1 = some name ∨ label = (some "msg", .quoted (some name))

abbrev otherFields : Fields := .field "values" [] false .any .nil

section Sound

variable {text rest : List Char}

theorem name_of_read {name : String} (depth : Nat)
    (read : Schema.text.read depth text = .ok (name, rest)) :
    ∃ start, Spaces text start ∧ IsValue (.quoted (some name)) start rest := by
  obtain ⟨key, begins, read⟩ := (read_text_iff _ _ _ _).mp read
  exact ⟨_, spaces_of_skip begins, value_of_quoted (quoted_of_read name read)⟩

theorem members_name (depth : Nat) :
    ReadsBy IsValue Names fun key draft => fields.readMember depth key draft := by
  intro key draft text grown rest read
  obtain ⟨name, values, ⟨⟩⟩ := draft
  simp only [Fields.readMember, List.not_mem_nil, or_false] at read
  split_ifs at read with isMsg isValues
  · cases name with
    | some name => cases read
    | none =>
        simp only [bind_eq_ok_iff] at read
        obtain ⟨⟨_, colon⟩, separated, ⟨given, behind⟩, read, same⟩ := read
        cases same
        obtain ⟨start, spaces, standing⟩ := name_of_read depth read
        refine ⟨_, colon, start, spaces_of_skip ((read_colon_iff _ _).mp separated), spaces,
          standing, ?_⟩
        intro other isGiven
        cases isGiven
        rw [isMsg]
        exact .inr rfl
  · cases values with
    | some values => cases read
    | none =>
        simp only [bind_eq_ok_iff] at read
        obtain ⟨_, ⟨⟨_, colon⟩, separated, ⟨given, behind⟩, read, one⟩, same⟩ := read
        cases one
        cases same
        obtain ⟨content, start, _, spaces, standing⟩ := any_sound depth colon given _ read
        exact ⟨content, colon, start, spaces_of_skip ((read_colon_iff _ _).mp separated), spaces,
          standing, fun other known => .inl known⟩
  · simp only [bind_eq_ok_iff] at read
    obtain ⟨_, ⟨_, ⟨⟨_, colon⟩, separated, behind, passed, inner⟩, one⟩, same⟩ := read
    cases inner
    cases one
    cases same
    obtain ⟨content, start, spaces, standing⟩ := skip_value_sound colon _ passed
    exact ⟨content, colon, start, spaces_of_skip ((read_colon_iff _ _).mp separated), spaces,
      standing, fun other known => .inl known⟩

theorem named_by_steps {members : List (Option String × Content)} {draft grown : fields.Draft}
    (steps : Steps Names members draft grown) (name : String) (known : grown.1 = some name) :
    draft.1 = some name ∨ (some "msg", .quoted (some name)) ∈ members := by
  induction steps with
  | nil state => exact .inl known
  | cons one others induction =>
      cases induction known with
      | inl earlier =>
          cases one name earlier with
          | inl before => exact .inl before
          | inr here =>
              rw [here]
              exact .inr List.mem_cons_self
      | inr later => exact .inr (List.mem_cons_of_mem _ later)

theorem name_of_finish {draft : fields.Draft} {name : String} {values : Json}
    (finished : fields.finish draft = .ok (name, values, ())) : draft.1 = some name := by
  obtain ⟨seen, seenValues, ⟨⟩⟩ := draft
  cases seen with
  | none => cases finished
  | some seen => cases seenValues <;> cases finished <;> rfl

/-- What is read as an envelope names its kind by a member or by the first place. -/
theorem named_of_read (depth : Nat) {name : String} {values : Json}
    (read : schema.read depth text = .ok ((name, values, ()), rest)) :
    (∃ start members, Spaces text ('\x7b' :: start) ∧
      Enclosed '\x7d' (Member IsValue) members start rest ∧
      (some "msg", .quoted (some name)) ∈ members) ∨
    ∃ start others, Spaces text ('[' :: start) ∧
      Enclosed ']' IsValue (.quoted (some name) :: others) start rest ∧ others.length ≤ 1 := by
  have spaces := spaces_skip text
  rw [Schema.read] at read
  split at read
  case h_1 start begins =>
      right
      rw [begins] at spaces
      cases depth with
      | zero => cases read
      | succ depth =>
          simp only [bind_eq_ok_iff] at read
          obtain ⟨⟨found, behind⟩, read, ⟨_, after⟩, closed, same⟩ := read
          cases same
          rw [Fields.readPlaces, bind_eq_ok_iff] at read
          obtain ⟨next, isNext, read⟩ := read
          rcases next_item_cases _ _ _ isNext with ⟨after, bracket, rfl⟩ | ⟨item, rfl, before⟩
          · cases read
          · simp only [bind_eq_ok_iff] at read
            obtain ⟨⟨given, afterName⟩, first, ⟨others, afterFields⟩, read, same⟩ := read
            cases same
            obtain ⟨nameStart, nameSpaces, standing⟩ := name_of_read depth first
            obtain ⟨contents, few, _, more⟩ := read_places_sound otherFields ⟨any_sound, trivial⟩
              _ _ 1 depth afterName _ _ read closed
            exact ⟨start, contents, spaces,
              entries_entry (before_trans before nameSpaces) standing more, few⟩
  case h_2 start begins =>
      left
      rw [begins] at spaces
      cases depth with
      | zero => cases read
      | succ depth =>
          simp only [bind_eq_ok_iff] at read
          obtain ⟨⟨draft, behind⟩, read, finished⟩ := read
          cases finish : fields.finish draft with
          | error name => rw [finish] at finished; cases finished
          | ok found =>
              rw [finish] at finished
              cases finished
              obtain ⟨members, enclosed, steps⟩ :=
                object_of_read value_stands (members_name depth) fields.empty draft read
              cases named_by_steps steps name (name_of_finish finish) with
              | inl none => cases none
              | inr member => exact ⟨start, members, spaces, enclosed, member⟩
  case h_3 elsewhere _ _ => cases read

end Sound

/-- What is read as an envelope is an object or a list that names its kind. -/
theorem named_of_read_text {segment name : String} {values : Json}
    (read : schema.readText segment = .ok (name, values, ())) :
    NamesByMember segment ∨ NamesByPlace segment := by
  obtain ⟨rest, read, ends⟩ := (read_text_eq_ok_iff _ _ _).mp read
  cases named_of_read depthLimit read with
  | inl object =>
      obtain ⟨start, members, spaces, enclosed, member⟩ := object
      exact .inl ⟨members, name, ⟨start, rest, spaces, enclosed, ends⟩, member⟩
  | inr list =>
      obtain ⟨start, others, spaces, enclosed, few⟩ := list
      exact .inr ⟨name, others, ⟨start, rest, spaces, enclosed, ends⟩, few⟩

section Places

variable {text start rest : List Char}

/-- The texts of the list that gives the two fields by place. Values that are not given are null. -/
def SpellsByPlace (name : String) (values : Json) (text : List Char) : Prop :=
  ∃ others start rest, Spaces text ('[' :: start) ∧
    Enclosed ']' (fun item : Rule => item) (Quoted (some name) :: others) start rest ∧
    Spaces rest [] ∧ (others = [Spelling 126 values] ∨ others = [] ∧ values = .null)

theorem read_values_place {values : Json} {items : List Rule} (distinct : values.Distinct)
    (more : More ']' (fun item : Rule => item) items text rest)
    (given : items = [Spelling 126 values] ∨ items = [] ∧ values = .null) :
    ∃ behind, otherFields.readPlaces "Envelope" 2 1 126 text = .ok ((values.arranged, ()), behind) ∧
      closeList behind = .ok ((), rest) := by
  cases more with
  | close spaces =>
      have absent : values = .null := by
        cases given with
        | inl one => cases one
        | inr none => exact none.2
      refine ⟨text, ?_, (close_list_iff _ _).mpr (skip_spaces_cons spaces rfl)⟩
      rw [Fields.readPlaces, next_item_none (1 == 0) (skip_spaces_cons spaces rfl), absent]
      rfl
  | entry spaces moreSpaces first others =>
      cases given with
      | inr none => cases none.1
      | inl one =>
          cases one
          cases others with
          | close closing =>
              have ends : continuesNumber _ = false := spaces_end closing rfl
              have read := read_spelling 126 first distinct ends
              obtain ⟨c, inner, rfl, apart⟩ := (spelling_stands 126).begins values _ _ first
              have before : Before (1 == 0) text (c :: inner) := ⟨_, spaces, moreSpaces⟩
              refine ⟨_, ?_, (close_list_iff _ _).mpr (skip_spaces_cons closing rfl)⟩
              rw [Fields.readPlaces, next_item_of_before before apart]
              simp only [ok_bind, Schema.read, read]
              rfl

theorem read_by_place (text : String) {name : String} {values : Json} (distinct : values.Distinct)
    (spells : SpellsByPlace name values text.toList) :
    schema.readText text = .ok (name, values.arranged, ()) := by
  obtain ⟨others, start, rest, spaces, enclosed, ends, given⟩ := spells
  have places : ∃ behind, fields.readPlaces "Envelope" 2 0 126 start =
      .ok ((name, values.arranged, ()), behind) ∧ closeList behind = .ok ((), rest) := by
    cases enclosed with
    | entry nameSpaces first more =>
        obtain ⟨behind, later, closed⟩ := read_values_place distinct more given
        have read := read_name 126 (spaces_refl _) first
        obtain ⟨key, _, rfl, _⟩ := first
        have before : Before (0 == 0) start ('"' :: key) := nameSpaces
        refine ⟨behind, ?_, closed⟩
        rw [Fields.readPlaces, next_item_of_before before rfl]
        simp only [ok_bind, read]
        change (otherFields.readPlaces "Envelope" 2 1 126 _ >>= _) = _
        rw [later]
        rfl
  obtain ⟨behind, read, closed⟩ := places
  refine (read_text_eq_ok_iff _ _ _).mpr ⟨rest, ?_, ends⟩
  change (Schema.record "Envelope" fields).read (126 + 1) text.toList = _
  rw [Schema.read, skip_spaces_cons spaces rfl]
  change (fields.readPlaces "Envelope" 2 0 126 start >>= _) = _
  rw [read]
  simp only [ok_bind, closed]

end Places

end Envelope

theorem decode_frame_of_mem (frame segment : String) (member : segment ∈ splitFrame frame) :
    decodeFrame segment = [decodeSegment segment] := by
  obtain ⟨chars, isSegment, rfl⟩ := List.mem_map.mp member
  rw [decodeFrame, splitFrame, String.toList_ofList, segments_of_mem frame.toList chars isSegment]
  rfl

theorem refused_of_unnamed (segment : String) (noMember : ¬ Envelope.NamesByMember segment)
    (noPlace : ¬ Envelope.NamesByPlace segment) :
    ∃ error, decodeSegment segment = .error (.envelope error) := by
  cases read : Envelope.schema.readText segment with
  | error error =>
      refine ⟨error, ?_⟩
      rw [decodeSegment, read]
  | ok envelope =>
      cases Envelope.named_of_read_text read with
      | inl named => exact absurd named noMember
      | inr named => exact absurd named noPlace

/-- A segment of a frame is decoded only if it is an object with a string under `msg`, or a list of
one item or two that begins with a string. Every other one is refused as no envelope; as a frame of
its own it leaves every view as it was and counts as one error. Such a list is decoded as all
objects are that have its first item as `msg` and its second, or null, as `values`. -/
theorem only_envelopes_are_decoded (frame segment : String) (member : segment ∈ splitFrame frame) :
    (∀ event, decodeSegment segment = .ok event →
      Envelope.NamesByMember segment ∨ Envelope.NamesByPlace segment) ∧
    (¬ Envelope.NamesByMember segment → ¬ Envelope.NamesByPlace segment →
      ∃ error, decodeSegment segment = .error (.envelope error) ∧
        ∀ (State : Type) [View State] (view : State),
          applyFrame view segment = (view, ⟨[], [], [.envelope error]⟩)) ∧
    (∀ name values object, values.Distinct →
      Envelope.SpellsByPlace name values segment.toList →
      Envelope.Spells name values object.toList →
      decodeSegment segment = decodeSegment object) := by
  refine ⟨?_, ?_, ?_⟩
  · intro event decoded
    by_contra unnamed
    rw [not_or] at unnamed
    obtain ⟨error, refused⟩ := refused_of_unnamed segment unnamed.1 unnamed.2
    rw [decoded] at refused
    cases refused
  · intro noMember noPlace
    obtain ⟨error, refused⟩ := refused_of_unnamed segment noMember noPlace
    refine ⟨error, refused, ?_⟩
    intro State _ view
    rw [applyFrame, decode_frame_of_mem frame segment member, refused]
    rfl
  · intro name values object distinct byPlace byMember
    have place := Envelope.read_by_place segment distinct byPlace
    have object := Envelope.read_spelled object name values distinct byMember
    rw [decodeSegment, decodeSegment, place, object]

/-- A number is no envelope. -/
theorem only_envelopes_are_decoded_number :
    ∃ error, decodeSegment "1" = .error (.envelope error) ∧
      applyFrame (View.start : Scoreboard) "1" = (View.start, ⟨[], [], [.envelope error]⟩) := by
  have refused := (only_envelopes_are_decoded " 1\n" "1" (by decide)).2.1 ?_ ?_
  · obtain ⟨error, refused, same⟩ := refused
    exact ⟨error, refused, same Scoreboard View.start⟩
  · intro named
    obtain ⟨_, _, ⟨start, rest, spaces, _⟩, _⟩ := named
    exact absurd (skip_spaces_cons spaces rfl) (by simp [skipSpace, isSpace])
  · intro named
    obtain ⟨_, _, ⟨start, rest, spaces, _⟩, _⟩ := named
    exact absurd (skip_spaces_cons spaces rfl) (by simp [skipSpace, isSpace])

/-- A list is decoded to a message, though it is no object. -/
theorem list_is_decoded :
    "[\"teams\",[]]" ∈ splitFrame "[\"teams\",[]]" ∧
      decodeSegment "[\"teams\",[]]" = .ok (.message (.teams [])) ∧
      ∀ members, ¬ ObjectText members "[\"teams\",[]]".toList := by
  refine ⟨by decide +kernel, by decide +kernel, ?_⟩
  intro members object
  obtain ⟨start, rest, spaces, _⟩ := object
  exact absurd (skip_spaces_cons spaces rfl) (by simp [skipSpace, isSpace])

end FlagBoard
