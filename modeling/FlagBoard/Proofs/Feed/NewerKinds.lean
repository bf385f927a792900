import FlagBoard.Feed.Scoreboard
import FlagBoard.Proofs.Feed.Lines
import FlagBoard.Proofs.Feed.Respelling
import FlagBoard.Proofs.Json.Locality
import Mathlib

/-!
Kinds that are not known here, as a newer sender may name them. Their values are read to the end but
have no say: the segment is decoded to the name, and no view takes anything from it.
-/

namespace FlagBoard

open Json

namespace Envelope

/-- The texts of an envelope that names a kind once and has whatever values, at most once. Strings
in the values spell texts, and numbers are not out of range. -/
def Announces (name : String) (text : List Char) : Prop :=
  ∃ parts start rest, Spaces text ('\x7b' :: start) ∧
    Enclosed '\x7d' (fun part => Keyed part.key part.value) parts start rest ∧ Spaces rest [] ∧
    parts.filterMap Part.name? = [name] ∧ (parts.filterMap Part.values?).length ≤ 1

variable {name : String} {text : List Char}

theorem part_local (part : Part) : Local part.value := by
  cases part with
  | msg name => exact quoted_local (some name)
  | values json => exact spelling_local 126 json
  | other key foreign content => exact value_local content

/-- An envelope stands between blanks, and without them it is the same envelope. -/
theorem announces_between_blanks (announces : Announces name text) :
    ∃ before inner after, text = before ++ ('\x7b' :: inner ++ ['\x7d']) ++ after ∧
      (∀ c ∈ before, isSpace c = true) ∧ (∀ c ∈ after, isSpace c = true) ∧
      Announces name ('\x7b' :: inner ++ ['\x7d']) := by
  obtain ⟨parts, start, rest, ⟨before, blankBefore, rfl⟩, enclosed, ⟨after, blankAfter, rfl⟩, named,
    few⟩ := announces
  obtain ⟨inner, rfl, stands⟩ :=
    encloses (fun part => keyed_local part.key (part_local part)) enclosed
  refine ⟨before, inner, after, by simp, blankBefore, blankAfter, ?_⟩
  exact ⟨parts, _, [], spaces_refl _, stands [], spaces_refl _, named, few⟩

/-- Whatever values an envelope has, its name is read. -/
theorem read_announced (text : String) (announces : Announces name text.toList) :
    ∃ values, schema.readText text = .ok (name, values, ()) := by
  obtain ⟨parts, start, rest, spaces, enclosed, ends, named, few⟩ := announces
  have each : ∀ json ∈ parts.filterMap Part.values?, ∀ text rest, Spelling 126 json text rest →
      continuesNumber rest = false → ∃ read, True ∧ readValue 126 text = .ok (read, rest) := by
    intro json given text rest spelling ends
    obtain ⟨read, found⟩ := some_read_spelling 126 spelling ends
    exact ⟨read, trivial, found⟩
  obtain ⟨values, read, _⟩ := read_parts text name spaces enclosed ends named few each
  exact ⟨_, read⟩

end Envelope

theorem of_name?_eq_none_iff (name : String) :
    Kind.ofName? name = none ↔ ∀ kind : Kind, kind.name ≠ name := by
  constructor
  · rintro unknown kind rfl
    rw [of_name?_name] at unknown
    cases unknown
  · intro newer
    cases known : Kind.ofName? name with
    | none => rfl
    | some kind => exact absurd (name_of_name? known) (newer kind)

theorem decode_segment_of_announces {name : String} (text : String)
    (newer : ∀ kind : Kind, kind.name ≠ name) (announces : Envelope.Announces name text.toList) :
    decodeSegment text = .ok (.unknown name) := by
  obtain ⟨values, envelope⟩ := Envelope.read_announced text announces
  exact decode_segment_of_unknown text name values ((of_name?_eq_none_iff name).mpr newer) envelope

theorem newer_of_decode {segment name : String}
    (decoded : decodeSegment segment = .ok (.unknown name)) (kind : Kind) : kind.name ≠ name := by
  cases read : Envelope.schema.readText segment with
  | error error =>
      rw [decodeSegment, read] at decoded
      cases decoded
  | ok envelope =>
      obtain ⟨given, values, ⟨⟩⟩ := envelope
      cases known : Kind.ofName? given with
      | none =>
          rw [decode_segment_of_unknown segment given values known read] at decoded
          cases decoded
          exact (of_name?_eq_none_iff name).mp known kind
      | some found =>
          obtain rfl := name_of_name? known
          rw [decode_segment_of_envelope segment found values read] at decoded
          cases taken : Message.ofValues found values with
          | error mismatch => rw [taken] at decoded; cases decoded
          | ok message => rw [taken] at decoded; cases decoded

theorem blank_of_space {c : Char} (space : isSpace c = true) : Text.isBlank c = true := by
  simp only [isSpace, Bool.or_eq_true, beq_iff_eq] at space
  rcases space with ((rfl | rfl) | rfl) | rfl <;> rfl

/-- Around the envelope on a line there is nothing but blanks, so that it is the only segment. -/
theorem split_frame_of_announces {name : String} (text : String) (line : '\n' ∉ text.toList)
    (announces : Envelope.Announces name text.toList) :
    ∃ segment : String, splitFrame text = [segment] ∧
      Envelope.Announces name segment.toList := by
  obtain ⟨before, inner, after, same, blankBefore, blankAfter, announces⟩ :=
    Envelope.announces_between_blanks announces
  have whole := Text.trim_of_ends '\x7b' '\x7d' inner rfl rfl
  rw [same] at line
  rw [List.append_assoc, List.mem_append, List.mem_append, not_or, not_or] at line
  have only : segments text.toList = ['\x7b' :: inner ++ ['\x7d']] := by
    rw [same, List.append_assoc,
      segments_blank_append before _ fun c member => blank_of_space (blankBefore c member),
      segments_append_blank _ after line.2.1 fun c member => blank_of_space (blankAfter c member),
      segments_line _ line.2.1, whole]
    rfl
  refine ⟨String.ofList ('\x7b' :: inner ++ ['\x7d']), ?_, ?_⟩
  · rw [splitFrame, only, List.map_singleton]
  · rwa [String.toList_ofList]

/-- A segment of a newer kind is decoded to the name of the kind, whatever its values and its other
members are, and a frame of it leaves every view as it was and reports the name alone. No segment is
taken for a newer one that bears the name of a kind. -/
theorem newer_kinds_change_nothing (name text : String) (newer : ∀ kind : Kind, kind.name ≠ name)
    (line : '\n' ∉ text.toList) (announces : Envelope.Announces name text.toList) :
    decodeSegment text = .ok (.unknown name) ∧
    (∀ (State : Type) [View State] (view : State),
      applyFrame view text = (view, ⟨[], [name], []⟩) ∧
        (applyFrame view text).2.changed = false) ∧
    ∀ segment other, decodeSegment segment = .ok (.unknown other) →
      ∀ kind : Kind, kind.name ≠ other := by
  refine ⟨decode_segment_of_announces text newer announces, ?_, fun _ _ => newer_of_decode⟩
  intro State _ view
  obtain ⟨segment, only, announces⟩ := split_frame_of_announces text line announces
  have applied : applyFrame view text = (view, ⟨[], [name], []⟩) := by
    rw [applyFrame, decodeFrame, only, List.map_singleton,
      decode_segment_of_announces segment newer announces]
    rfl
  rw [applied]
  exact ⟨rfl, rfl⟩

/-- Half a character that is written as an escape stands between quotes but spells no text. -/
theorem half_quoted (rest : List Char) :
    Quoted none ('"' :: '\\' :: 'u' :: 'd' :: '8' :: '0' :: '0' :: '"' :: rest) rest :=
  ⟨_, [.unit 0xd800], rfl, .piece (.digits ⟨'d', '8', '0', '0', 13, 8, 0, 0, rfl, rfl, rfl, rfl,
    rfl, rfl⟩) (.close rest), rfl⟩

/-- Neither the blanks around it nor a key that the values have twice, nor half a character in a
member that is passed over, keep a segment from being decoded. -/
theorem newer_kinds_change_nothing_scores :
    let text :=
      " \x7b\"x\":\"\\ud800\",\"values\":\x7b\"a\":[1],\"a\":2\x7d,\"msg\":\"scores\"\x7d\t"
    decodeSegment text = .ok (.unknown "scores") ∧
      applyFrame Scoreboard.empty text = (Scoreboard.empty, ⟨[], ["scores"], []⟩) := by
  let values : Json := .obj [("a", .arr [.num (.natural 1)]), ("a", .num (.natural 2))]
  have digit {depth : Nat} (number : Nat) (c : Char) (rest : List Char)
      (alone : readNumber false [c] = .ok (.natural number, [])) :
      Spelling depth (.num (.natural number)) (c :: rest) rest :=
    spelling_flat depth (@Flat.number [c] _ rest alone)
  have spelled (rest : List Char) : Spelling 126 values ('\x7b' :: (printString "a" ++ ':' :: '[' ::
      '1' :: ']' :: ',' :: (printString "a" ++ ':' :: '2' :: '\x7d' :: rest))) rest := by
    refine .inr (.object (.refl _) (.entry (spaces_refl _) (keyed_print "a" (.inr (.list ?_)))
      (.entry (spaces_refl _) (spaces_refl _) (keyed_print "a" (digit 2 '2' _ (by decide)))
        (.close (spaces_refl _)))))
    exact .entry (spaces_refl _) (digit 1 '1' _ (by decide)) (.close (spaces_refl _))
  have announces : Envelope.Announces "scores" (' ' :: '\x7b' :: (printString "x" ++ ':' :: '"' ::
      '\\' :: 'u' :: 'd' :: '8' :: '0' :: '0' :: '"' :: ',' :: (printString "values" ++ ':' ::
        '\x7b' :: (printString "a" ++ ':' :: '[' :: '1' :: ']' :: ',' :: (printString "a" ++ ':' ::
          '2' :: '\x7d' :: ',' :: (printString "msg" ++ ':' :: (printString "scores" ++
            ['\x7d', '\t']))))))) :=
    ⟨[.other "x" (by decide) (.quoted none), .values values, .msg "scores"], _, ['\t'],
      ⟨[' '], by simp [isSpace], rfl⟩,
      .entry (spaces_refl _) (keyed_print "x" (value_of_quoted (half_quoted _)))
        (.entry (spaces_refl _) (spaces_refl _) (keyed_print "values" (spelled _))
          (.entry (spaces_refl _) (spaces_refl _) (keyed_print "msg" (quoted_print "scores" _))
            (.close (spaces_refl _)))),
      ⟨['\t'], by simp [isSpace], rfl⟩, rfl, by decide⟩
  have result := newer_kinds_change_nothing "scores"
    " \x7b\"x\":\"\\ud800\",\"values\":\x7b\"a\":[1],\"a\":2\x7d,\"msg\":\"scores\"\x7d\t"
    (fun kind => by cases kind <;> decide) (by decide +kernel) (by exact announces)
  exact ⟨result.1, (result.2.1 Scoreboard Scoreboard.empty).1⟩

/-- A segment of a newer kind is refused for half a character in its values or in a key, and for a
number in its values that is taken to be out of range, though it is nearer to the greatest finite
one than to any power beyond. -/
theorem newer_kinds_refused :
    let half := "\x7b\"msg\":\"x\",\"values\":\"\\ud800\"\x7d"
    let key := "\x7b\"msg\":\"x\",\"\\ud800\":null\x7d"
    let great := "\x7b\"msg\":\"x\",\"values\":1.7976931348623158e308\x7d"
    (∀ kind : Kind, kind.name ≠ "x") ∧
      ('\n' ∉ half.toList ∧
        ObjectText [(some "msg", .quoted (some "x")), (some "values", .quoted none)] half.toList ∧
        decodeSegment half = .error (.envelope ⟨.endInEscape, ⟨1, 28⟩⟩)) ∧
      ('\n' ∉ key.toList ∧
        ObjectText [(some "msg", .quoted (some "x")), (none, .null)] key.toList ∧
        decodeSegment key = .error (.envelope ⟨.endInEscape, ⟨1, 19⟩⟩)) ∧
      '\n' ∉ great.toList ∧
        ObjectText [(some "msg", .quoted (some "x")), (some "values", .other)] great.toList ∧
        17976931348623158 * 10 ^ 292 < 2 ^ 1024 - 2 ^ 970 ∧
        decodeSegment great = .error (.envelope ⟨.numberTooLarge, ⟨1, 42⟩⟩) := by
  have member {key : Option String} {content : Content} {text colon rest : List Char}
      (quoted : Quoted key text (':' :: colon)) (standing : IsValue content colon rest) :
      Member IsValue (key, content) text rest :=
    ⟨_, _, _, quoted, spaces_refl _, spaces_refl _, standing⟩
  have object (text : String) {label : Option String × Content} {second : List Char}
      (chars : text.toList =
        '\x7b' :: (printString "msg" ++ ':' :: (printString "x" ++ ',' :: second)))
      (standing : Member IsValue label second ['\x7d']) :
      ObjectText [(some "msg", .quoted (some "x")), label] text.toList := by
    have first := member (quoted_print "msg" _)
      (value_of_quoted (quoted_print "x" (',' :: second)))
    rw [chars]
    exact ⟨_, [], spaces_refl _, .entry (spaces_refl _) first
      (.entry (spaces_refl _) (spaces_refl _) standing (.close (spaces_refl _))), spaces_refl _⟩
  have number : Unsigned ['1', '.', '7', '9', '7', '6', '9', '3', '1', '3', '4', '8', '6', '2', '3',
      '1', '5', '8', 'e', '3', '0', '8', '\x7d'] ['\x7d'] :=
    ⟨_, _, .inr ⟨by decide, ['1'], by decide, by simp [isDigit], rfl⟩,
      .inr ⟨_, rfl, ['7', '9', '7', '6', '9', '3', '1', '3', '4', '8', '6', '2', '3', '1', '5',
        '8'], by decide, by simp [isDigit], rfl⟩,
      .inr ⟨'e', _, _, .inl rfl, rfl, .inl rfl, ['3', '0', '8'], by decide, by simp [isDigit],
        rfl⟩⟩
  refine ⟨fun kind => by cases kind <;> decide, ⟨by decide +kernel, ?_, by decide +kernel⟩,
    ⟨by decide +kernel, ?_, by decide +kernel⟩, by decide +kernel, ?_, by decide +kernel,
    by decide +kernel⟩
  · exact object _ (by decide +kernel)
      (member (quoted_print "values" _) (value_of_quoted (half_quoted ['\x7d'])))
  · exact object _ (by decide +kernel) (member (half_quoted _) ⟨0, .null ['\x7d']⟩)
  · exact object _ (by decide +kernel) (member (quoted_print "values" _) ⟨0, .number number⟩)

end FlagBoard
