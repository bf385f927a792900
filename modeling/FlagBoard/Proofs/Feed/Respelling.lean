import FlagBoard.Proofs.Feed.Acceptance
import FlagBoard.Proofs.Json.Documents
import Mathlib

/-!
Envelopes in whatever spelling. A segment is decoded by the name and the values of its envelope
alone: the order of members at any depth, spaces, escapes and further members of the envelope make
no difference, neither to a message nor to an error.
-/

namespace FlagBoard

open Json

namespace Envelope

/-- A member of an envelope: one of its two fields, or another one that is passed over. -/
inductive Part
  | msg (name : String)
  | values (json : Json)
  | other (key : String) (foreign : key ≠ "msg" ∧ key ≠ "values") (content : Content)

namespace Part

def key : Part → String
  | .msg _ => "msg"
  | .values _ => "values"
  | .other key _ _ => key

/-- The texts of what a member holds. With the envelope, values are nested 127 deep at most. -/
def value : Part → Rule
  | .msg name => Quoted (some name)
  | .values json => Spelling 126 json
  | .other _ _ content => IsValue content

def name? : Part → Option String
  | .msg name => some name
  | _ => none

def values? : Part → Option Json
  | .values json => some json
  | _ => none

end Part

/-- The texts of an envelope. Each of its two fields is given once, in any place. -/
def Spells (name : String) (values : Json) (text : List Char) : Prop :=
  ∃ parts start rest, Spaces text ('\x7b' :: start) ∧
    Enclosed '\x7d' (fun part => Keyed part.key part.value) parts start rest ∧ Spaces rest [] ∧
    parts.filterMap Part.name? = [name] ∧ parts.filterMap Part.values? = [values]

/-- What a reader makes of a member: a name, values if they can be read, or what is passed over. -/
inductive Given
  | msg (name : String)
  | values (read : Option Json)
  | other (key : String) (foreign : key ≠ "msg" ∧ key ≠ "values") (content : Content)

namespace Given

def key : Given → String
  | .msg _ => "msg"
  | .values _ => "values"
  | .other key _ _ => key

def value : Given → Rule
  | .msg name => Quoted (some name)
  | .values read => fun text rest => rest.length < text.length ∧
      (continuesNumber rest = false →
        (readValue 126 text).toOption = read.map fun value => (value, rest))
  | .other _ _ content => IsValue content

end Given

/-- A member is taken by its field, unless the field has been seen before. -/
def take (draft : fields.Draft) : Given → Option fields.Draft
  | .msg name => if draft.1.isNone then some (some name, draft.2) else none
  | .values read =>
      if draft.2.1.isNone then read.map fun value => (draft.1, some value, ()) else none
  | .other _ _ _ => some draft

section Reading

variable {text start rest : List Char}

theorem read_name {name : String} (depth : Nat) (spaces : Spaces text start)
    (quoted : Quoted (some name) start rest) :
    Schema.text.read depth text = .ok (name, rest) := by
  have whole := quoted
  obtain ⟨key, _, rfl, _⟩ := whole
  exact (read_text_iff _ _ _ _).mpr
    ⟨key, skip_spaces_cons spaces rfl, ok_of_toOption _ _ (read_quoted quoted)⟩

theorem given_follows (given : Given) :
    Follows (fun given : Given => Keyed given.key given.value)
      (fun key draft => fields.readMember 126 key draft) take given := by
  intro draft text behind keyed ends
  obtain ⟨begin, afterKey, colon, start, rfl, quoted, separated, spaces, standing⟩ :=
    keyed_read keyed
  refine ⟨begin, rfl, ?_⟩
  rw [quoted, ok_bind]
  obtain ⟨name, values, ⟨⟩⟩ := draft
  cases given with
  | msg given =>
      have read := read_name 126 spaces standing
      cases name with
      | none => simp [Fields.readMember, Given.key, separated, read, take, Except.toOption]
      | some name =>
          simp only [Fields.readMember, Given.key, true_or, if_true, take]
          rfl
  | values given =>
      have read := standing.2 ends
      rw [← read_value_skip 126 spaces] at read
      cases values with
      | none =>
          simp only [Fields.readMember, Given.key, String.reduceEq, List.not_mem_nil, or_false,
            if_false, if_true, take, separated, ok_bind, Schema.read, bind_toOption, read]
          cases given <;> rfl
      | some values =>
          simp only [Fields.readMember, Given.key, String.reduceEq, List.not_mem_nil, or_false,
            if_false, if_true, take]
          rfl
  | other key foreign content =>
      have passed := skip_value_complete spaces standing ends
      simp [Fields.readMember, Given.key, foreign, separated, passed, take, Except.toOption]

theorem given_shorter (given : Given) (text rest : List Char) (standing : given.value text rest) :
    rest.length < text.length := by
  cases given with
  | msg name => exact quoted_shorter standing
  | values read => exact standing.1
  | other key foreign content => exact value_stands.shorter content text rest standing

/-- An envelope is read by taking its members in turn. -/
theorem read_given (text : String) {given : List Given}
    (spaces : Spaces text.toList ('\x7b' :: start))
    (enclosed : Enclosed '\x7d' (fun given => Keyed given.key given.value) given start rest)
    (ends : Spaces rest []) :
    (schema.readText text).toOption = (given.foldlM take (none, none, ())).bind fun draft =>
      (fields.finish draft).toOption := by
  have gathered := read_object_along (keyed_stands given_shorter) enclosed
    (fun given _ => given_follows given) (none, none, ())
  rw [read_text_toOption]
  change ((Schema.record "Envelope" fields).read (126 + 1) text.toList).toOption.bind _ = _
  rw [read_record_object "Envelope" fields 126 start spaces, bind_toOption]
  change ((readObject _ (none, none, ()) start).toOption.bind _).bind _ = _
  rw [gathered]
  cases given.foldlM take (none, none, ()) with
  | none => rfl
  | some draft =>
      dsimp only [Option.map_some, Option.bind_some]
      cases fields.finish draft with
      | error name => rfl
      | ok values => exact if_pos (skip_nil_of_spaces ends)

end Reading

/-- A member and what is made of it, where values are read as related. -/
inductive Part.Reads (related : Json → Json → Prop) : Part → Given → Prop
  | msg (name : String) : Reads related (.msg name) (.msg name)
  | values {json read : Json} (one : related json read) :
      Reads related (.values json) (.values (some read))
  | other (key : String) (foreign : key ≠ "msg" ∧ key ≠ "values") (content : Content) :
      Reads related (.other key foreign content) (.other key foreign content)

/-- Fields of which the first is given once, and the second at most once, are seen in the end as
they are given, in whatever place. -/
theorem take_parts {related : Json → Json → Prop} {parts : List Part} {given : List Given}
    (all : List.Forall₂ (Part.Reads related) parts given) (name : Option String)
    (values : Option Json) (wholeName : String)
    (named : name.toList ++ parts.filterMap Part.name? = [wholeName])
    (few : (values.toList ++ parts.filterMap Part.values?).length ≤ 1) :
    ∃ wholeValues : Option Json, ∃ reads,
      given.foldlM take (name, values, ()) = some (some wholeName, wholeValues, ()) ∧
      wholeValues.toList = values.toList ++ reads ∧
      List.Forall₂ related (parts.filterMap Part.values?) reads := by
  induction all generalizing name values with
  | nil =>
      rw [List.filterMap_nil, List.append_nil, Option.toList_eq_singleton_iff] at named
      exact ⟨values, [], by rw [named]; rfl, (List.append_nil _).symm, .nil⟩
  | cons one others induction =>
      rw [List.foldlM_cons]
      -- A name or values after one that was seen would be one too many.
      cases one with
      | msg given =>
          cases name with
          | none => exact induction (some given) values named few
          | some name => cases named
      | @values json read one =>
          cases values with
          | none =>
              obtain ⟨whole, reads, taken, same, all⟩ := induction name (some read) named few
              exact ⟨whole, read :: reads, taken, same, .cons one all⟩
          | some values => simp [Part.values?] at few
      | other key foreign content => exact induction name values named few

/-- An envelope is read from a text of its members if its values are. -/
theorem read_parts {related : Json → Json → Prop} (text name : String) {parts : List Part}
    {start rest : List Char} (spaces : Spaces text.toList ('\x7b' :: start))
    (enclosed : Enclosed '\x7d' (fun part => Keyed part.key part.value) parts start rest)
    (ends : Spaces rest []) (named : parts.filterMap Part.name? = [name])
    (few : (parts.filterMap Part.values?).length ≤ 1)
    (each : ∀ json ∈ parts.filterMap Part.values?, ∀ text rest, Spelling 126 json text rest →
      continuesNumber rest = false → ∃ read, related json read ∧
        readValue 126 text = .ok (read, rest)) :
    ∃ values : Option Json, schema.readText text = .ok (name, values.getD .null, ()) ∧
      List.Forall₂ related (parts.filterMap Part.values?) values.toList := by
  have reads : ∀ part ∈ parts, ∀ text behind, Keyed part.key part.value text behind →
      continuesNumber behind = false → ∃ given, Part.Reads related part given ∧
        Keyed given.key given.value text behind := by
    intro part member text behind keyed ends
    cases part with
    | msg given => exact ⟨_, .msg given, keyed⟩
    | values json =>
        obtain ⟨afterKey, colon, start, quoted, gap, spaces, standing⟩ := keyed
        have shorter := (spelling_stands 126).shorter json start behind standing
        obtain ⟨read, one, found⟩ := each json (List.mem_filterMap.mpr ⟨_, member, rfl⟩) start
          behind standing ends
        exact ⟨_, .values one, afterKey, colon, start, quoted, gap, spaces, shorter,
          fun _ => congrArg Except.toOption found⟩
    | other key foreign content => exact ⟨_, .other key foreign content, keyed⟩
  obtain ⟨given, all, enclosed⟩ := enclosed_relabel rfl enclosed reads
  obtain ⟨values, taken, fold, same, related⟩ := take_parts all none none name named few
  have read := read_given text spaces enclosed ends
  rw [Option.toList_none, List.nil_append] at same
  rw [fold] at read
  refine ⟨values, ok_of_toOption _ _ ?_, by rwa [same]⟩
  rw [read]
  cases values <;> rfl

/-- An envelope is read from all its texts. -/
theorem read_spelled (text name : String) (values : Json) (distinct : values.Distinct)
    (spells : Spells name values text.toList) :
    schema.readText text = .ok (name, values.arranged, ()) := by
  obtain ⟨parts, start, rest, spaces, enclosed, ends, named, valued⟩ := spells
  have few : (parts.filterMap Part.values?).length ≤ 1 := by rw [valued]; exact Nat.le_refl 1
  have each : ∀ json ∈ parts.filterMap Part.values?, ∀ text rest, Spelling 126 json text rest →
      continuesNumber rest = false → ∃ read, json.arranged = read ∧
        readValue 126 text = .ok (read, rest) := by
    intro json given text rest spelling ends
    rw [valued, List.mem_singleton] at given
    rw [given] at spelling
    exact ⟨_, by rw [given], read_spelling 126 spelling distinct ends⟩
  obtain ⟨read, whole, related⟩ := read_parts text name spaces enclosed ends named few each
  rw [valued] at related
  cases read with
  | none => cases related
  | some read =>
      obtain ⟨same, _⟩ := List.forall₂_cons.mp related
      rw [whole, same]
      rfl

end Envelope

theorem name_of_name? {name : String} {kind : Kind} (known : Kind.ofName? name = some kind) :
    kind.name = name := by
  unfold Kind.ofName? at known
  split_ifs at known with teams challenges rows
  · cases known
    exact teams.symm
  · cases known
    exact challenges.symm
  · cases known
    exact rows.symm

theorem decode_segment_of_unknown (segment name : String) (values : Json)
    (unknown : Kind.ofName? name = none)
    (envelope : Envelope.schema.readText segment = .ok (name, values, ())) :
    decodeSegment segment = .ok (.unknown name) := by
  rw [decodeSegment, envelope]
  simp only [unknown]

/-- Whatever two texts of one envelope are, they are decoded to the same: to a message of the named
kind, to the name if it is that of no kind, or to what is wrong with the values. -/
theorem decode_segment_respelled (name : String) (values : Json) (distinct : values.Distinct)
    (first second : String) (firstSpells : Envelope.Spells name values first.toList)
    (secondSpells : Envelope.Spells name values second.toList) :
    decodeSegment first = decodeSegment second ∧
    ((∃ message : Message, message.kind.name = name ∧
        decodeSegment first = .ok (.message message)) ∨
      (∀ kind : Kind, kind.name ≠ name) ∧ decodeSegment first = .ok (.unknown name) ∨
      ∃ kind mismatch, kind.name = name ∧
        decodeSegment first = .error (.values kind mismatch)) := by
  have firstRead := Envelope.read_spelled first name values distinct firstSpells
  have secondRead := Envelope.read_spelled second name values distinct secondSpells
  constructor
  · rw [decodeSegment, decodeSegment, firstRead, secondRead]
  · cases known : Kind.ofName? name with
    | none =>
        right
        left
        refine ⟨?_, decode_segment_of_unknown first name _ known firstRead⟩
        intro kind same
        rw [← same, of_name?_name] at known
        cases known
    | some kind =>
        obtain rfl := name_of_name? known
        have decoded := decode_segment_of_envelope first kind _ firstRead
        cases taken : Message.ofValues kind values.arranged with
        | ok message =>
            left
            rw [taken] at decoded
            exact ⟨message, by rw [((of_values_eq_ok_iff _ _ _).mp taken).1], decoded⟩
        | error mismatch =>
            right
            right
            rw [taken] at decoded
            exact ⟨kind, mismatch, rfl, decoded⟩

/-- Of two bad fields the same one is refused, in whatever order they come. -/
theorem decode_segment_respelled_two_faults :
    let first := "\x7b\"msg\":\"teams\",\"values\":[\x7b\"id\":1,\"name\":2\x7d]\x7d"
    let second :=
      "\x7b\"values\":[\x7b\"n\\u0061me\":2,\"id\":1\x7d] ,\"x\":null,\"msg\":\"teams\"\x7d"
    decodeSegment first = decodeSegment second ∧
      decodeSegment first = .error (.values .teams (.wrongKind (.number (.natural 1)) .text)) := by
  let fields : List (String × Json) := [("id", .num (.natural 1)), ("name", .num (.natural 2))]
  have distinct : (Json.arr [.obj fields]).Distinct :=
    .arr _ (List.forall_mem_singleton.mpr (.obj _ (by decide)
      (List.forall_mem_cons.mpr ⟨.num _, List.forall_mem_singleton.mpr (.num _)⟩)))
  have one (rest : List Char) : Spelling 124 (.num (.natural 1)) ('1' :: rest) rest :=
    .inl (@Flat.number ['1'] _ rest (by decide))
  have two (rest : List Char) : Spelling 124 (.num (.natural 2)) ('2' :: rest) rest :=
    .inl (@Flat.number ['2'] _ rest (by decide))
  have ordered (rest : List Char) : Spelling 126 (.arr [.obj fields])
      ('[' :: '\x7b' :: (printString "id" ++ ':' :: '1' :: ',' ::
        (printString "name" ++ ':' :: '2' :: '\x7d' :: ']' :: rest))) rest := by
    refine .inr (.list (.entry (spaces_refl _) (.inr (.object (.refl _) ?_))
      (.close (spaces_refl _))))
    exact .entry (spaces_refl _) (keyed_print "id" (one _)) (.entry (spaces_refl _)
      (spaces_refl _) (keyed_print "name" (two _)) (.close (spaces_refl _)))
  have swapped (rest : List Char) : Spelling 126 (.arr [.obj fields])
      ('[' :: '\x7b' :: '"' :: 'n' :: '\\' :: 'u' :: '0' :: '0' :: '6' :: '1' :: 'm' :: 'e' ::
        '"' :: ':' :: '2' :: ',' :: (printString "id" ++ ':' :: '1' :: '\x7d' :: ']' :: rest))
      rest := by
    have name (rest : List Char) : Keyed "name" (Spelling 124 (.num (.natural 2)))
        ('"' :: 'n' :: '\\' :: 'u' :: '0' :: '0' :: '6' :: '1' :: 'm' :: 'e' :: '"' :: ':' ::
          '2' :: rest) rest :=
      ⟨_, _, _, quoted_of_read "name" (by rfl), spaces_refl _, spaces_refl _, two rest⟩
    refine .inr (.list (.entry (spaces_refl _) (.inr (.object (.swap _ _ _) ?_))
      (.close (spaces_refl _))))
    exact .entry (spaces_refl _) (name _) (.entry (spaces_refl _) (spaces_refl _)
      (keyed_print "id" (one _)) (.close (spaces_refl _)))
  have gap (rest : List Char) : Spaces (' ' :: ',' :: rest) (',' :: rest) :=
    ⟨[' '], by simp [isSpace], rfl⟩
  have firstSpells : Envelope.Spells "teams" (.arr [.obj fields])
      ('\x7b' :: (printString "msg" ++ ':' :: (printString "teams" ++ ',' ::
        (printString "values" ++ ':' :: '[' :: '\x7b' :: (printString "id" ++ ':' :: '1' :: ',' ::
          (printString "name" ++ ':' :: '2' :: '\x7d' :: ']' :: ['\x7d'])))))) :=
    ⟨[.msg "teams", .values (.arr [.obj fields])], _, [], spaces_refl _,
      .entry (spaces_refl _) (keyed_print "msg" (quoted_print "teams" _)) (.entry (spaces_refl _)
        (spaces_refl _) (keyed_print "values" (ordered _)) (.close (spaces_refl _))),
      spaces_refl _, rfl, rfl⟩
  have secondSpells : Envelope.Spells "teams" (.arr [.obj fields])
      ('\x7b' :: (printString "values" ++ ':' :: '[' :: '\x7b' :: '"' :: 'n' :: '\\' :: 'u' ::
        '0' :: '0' :: '6' :: '1' :: 'm' :: 'e' :: '"' :: ':' :: '2' :: ',' :: (printString "id" ++
          ':' :: '1' :: '\x7d' :: ']' :: ' ' :: ',' :: (printString "x" ++ ':' :: 'n' :: 'u' ::
            'l' :: 'l' :: ',' :: (printString "msg" ++ ':' ::
              (printString "teams" ++ ['\x7d'])))))) :=
    ⟨[.values (.arr [.obj fields]), .other "x" (by decide) .null, .msg "teams"], _, [],
      spaces_refl _, .entry (spaces_refl _) (keyed_print "values" (swapped _))
        (.entry (gap _) (spaces_refl _) (keyed_print "x" ⟨0, .null _⟩)
          (.entry (spaces_refl _) (spaces_refl _) (keyed_print "msg" (quoted_print "teams" _))
            (.close (spaces_refl _)))), spaces_refl _, rfl, rfl⟩
  refine ⟨(decode_segment_respelled "teams" _ distinct _ _ ?_ ?_).1, ?_⟩
  · exact firstSpells
  · exact secondSpells
  · decide +kernel

end FlagBoard
