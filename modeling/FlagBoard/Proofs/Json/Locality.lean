import FlagBoard.Proofs.Json.Documents
import Mathlib

/-!
No rule of the grammar looks beyond the thing that it begins with. What stands in front of one text
stands in front of any other as well, and an enclosure ends with its closing character.
-/

namespace FlagBoard.Json

/-- What the rule takes is a piece of the text, whatever follows it. -/
def Local (rule : Rule) : Prop :=
  ∀ text rest, rule text rest →
    ∃ piece, text = piece ++ rest ∧ ∀ other, rule (piece ++ other) other

theorem local_seq {first second : Rule} (firstLocal : Local first) (secondLocal : Local second) :
    Local fun text rest => ∃ between, first text between ∧ second between rest := by
  intro text rest both
  obtain ⟨between, one, two⟩ := both
  obtain ⟨piece, rfl, stands⟩ := firstLocal _ _ one
  obtain ⟨next, rfl, follows⟩ := secondLocal _ _ two
  refine ⟨piece ++ next, (List.append_assoc _ _ _).symm, ?_⟩
  intro other
  rw [List.append_assoc]
  exact ⟨next ++ other, stands _, follows other⟩

theorem spaces_local : Local Spaces := by
  rintro text rest ⟨blanks, all, rfl⟩
  exact ⟨blanks, rfl, fun other => ⟨blanks, all, rfl⟩⟩

/-- Spaces up to a character that is taken with them. -/
theorem spaces_cons_local (c : Char) : Local fun text rest => Spaces text (c :: rest) := by
  rintro text rest ⟨blanks, all, rfl⟩
  refine ⟨blanks ++ [c], by simp, ?_⟩
  intro other
  exact ⟨blanks, all, by simp⟩

section Numbers

theorem digits_local : Local Digits := by
  rintro text rest ⟨digits, some, all, rfl⟩
  exact ⟨digits, rfl, fun other => ⟨digits, some, all, rfl⟩⟩

theorem whole_local : Local Whole := by
  intro text rest whole
  rcases whole with rfl | ⟨notZero, digits, some, all, rfl⟩
  · exact ⟨['0'], rfl, fun other => .inl rfl⟩
  · refine ⟨digits, rfl, fun other => .inr ⟨?_, digits, some, all, rfl⟩⟩
    rw [List.head?_append_of_ne_nil _ some] at notZero ⊢
    exact notZero

theorem fraction_local : Local Fraction := by
  intro text rest fraction
  rcases fraction with rfl | ⟨start, rfl, digits⟩
  · exact ⟨[], rfl, fun other => .inl rfl⟩
  · obtain ⟨piece, rfl, stands⟩ := digits_local _ _ digits
    exact ⟨'.' :: piece, rfl, fun other => .inr ⟨_, rfl, stands other⟩⟩

theorem power_local : Local Power := by
  intro text rest power
  rcases power with rfl | ⟨mark, start, digits, isMark, rfl, sign, all⟩
  · exact ⟨[], rfl, fun other => .inl rfl⟩
  · obtain ⟨piece, rfl, stands⟩ := digits_local _ _ all
    rcases sign with rfl | rfl | rfl
    · exact ⟨mark :: piece, rfl,
        fun other => .inr ⟨mark, _, _, isMark, rfl, .inl rfl, stands other⟩⟩
    · exact ⟨mark :: '+' :: piece, rfl,
        fun other => .inr ⟨mark, _, _, isMark, rfl, .inr (.inl rfl), stands other⟩⟩
    · exact ⟨mark :: '-' :: piece, rfl,
        fun other => .inr ⟨mark, _, _, isMark, rfl, .inr (.inr rfl), stands other⟩⟩

theorem unsigned_local : Local Unsigned := by
  intro text rest number
  obtain ⟨afterWhole, afterFraction, whole, fraction, power⟩ := number
  obtain ⟨piece, same, stands⟩ := local_seq whole_local (local_seq fraction_local power_local) _ _
    ⟨afterWhole, whole, afterFraction, fraction, power⟩
  refine ⟨piece, same, fun other => ?_⟩
  obtain ⟨afterWhole, whole, afterFraction, fraction, power⟩ := stands other
  exact ⟨afterWhole, afterFraction, whole, fraction, power⟩

end Numbers

section Strings

theorem is_piece_local (piece : Piece) : Local (IsPiece piece) := by
  intro text rest first
  cases first with
  | plain c rest notQuote notBackslash visible =>
      exact ⟨[c], rfl, fun other => .plain c other notQuote notBackslash visible⟩
  | letter letter c rest escape =>
      exact ⟨['\\', letter], rfl, fun other => .letter letter c other escape⟩
  | digits digits =>
      obtain ⟨first, second, third, fourth, a, b, c, d, isFirst, isSecond, isThird, isFourth,
        unit, rfl⟩ := digits
      exact ⟨['\\', 'u', first, second, third, fourth], rfl, fun other => .digits ⟨first, second,
        third, fourth, a, b, c, d, isFirst, isSecond, isThird, isFourth, unit, rfl⟩⟩

theorem pieces_local (pieces : List Piece) : Local (Pieces pieces) := by
  intro text rest all
  induction all with
  | close rest => exact ⟨['"'], rfl, fun other => .close other⟩
  | piece first others induction =>
      obtain ⟨last, rfl, follows⟩ := induction
      obtain ⟨begin, rfl, stands⟩ := is_piece_local _ _ _ first
      refine ⟨begin ++ last, (List.append_assoc _ _ _).symm, fun other => ?_⟩
      rw [List.append_assoc]
      exact .piece (stands _) (follows other)

theorem quoted_local (meaning : Option String) : Local (Quoted meaning) := by
  rintro text rest ⟨start, pieces, rfl, all, spells⟩
  obtain ⟨piece, rfl, stands⟩ := pieces_local _ _ _ all
  exact ⟨'"' :: piece, rfl, fun other => ⟨piece ++ other, pieces, rfl, stands other, spells⟩⟩

end Strings

section Enclosures

variable {Label : Type} {close : Char} {entry : Label → Rule} {labels : List Label}
  {text rest : List Char}

theorem more_encloses (each : ∀ label, Local (entry label))
    (more : More close entry labels text rest) :
    ∃ inner, text = inner ++ close :: rest ∧
      ∀ other, More close entry labels (inner ++ close :: other) other := by
  induction more with
  | close spaces =>
      obtain ⟨blanks, all, rfl⟩ := spaces
      exact ⟨blanks, rfl, fun other => .close ⟨blanks, all, rfl⟩⟩
  | entry spaces moreSpaces first _ induction =>
      obtain ⟨inner, rfl, follows⟩ := induction
      obtain ⟨piece, rfl, stands⟩ := local_seq (spaces_cons_local ',')
        (local_seq spaces_local (each _)) _ _ ⟨_, spaces, _, moreSpaces, first⟩
      refine ⟨piece ++ inner, (List.append_assoc _ _ _).symm, fun other => ?_⟩
      rw [List.append_assoc]
      obtain ⟨_, spaces, _, moreSpaces, first⟩ := stands (inner ++ close :: other)
      exact .entry spaces moreSpaces first (follows other)

/-- An enclosure ends with its closing character, and anything may follow that. -/
theorem encloses (each : ∀ label, Local (entry label))
    (enclosed : Enclosed close entry labels text rest) :
    ∃ inner, text = inner ++ close :: rest ∧
      ∀ other, Enclosed close entry labels (inner ++ close :: other) other := by
  cases enclosed with
  | close spaces =>
      obtain ⟨blanks, all, rfl⟩ := spaces
      exact ⟨blanks, rfl, fun other => .close ⟨blanks, all, rfl⟩⟩
  | entry spaces first others =>
      obtain ⟨inner, rfl, follows⟩ := more_encloses each others
      obtain ⟨piece, rfl, stands⟩ := local_seq spaces_local (each _) _ _ ⟨_, spaces, first⟩
      refine ⟨piece ++ inner, (List.append_assoc _ _ _).symm, fun other => ?_⟩
      rw [List.append_assoc]
      obtain ⟨_, spaces, first⟩ := stands (inner ++ close :: other)
      exact .entry spaces first (follows other)

theorem enclosed_local (open' : Char) (each : ∀ label, Local (entry label)) {begin : List Char}
    (enclosed : Enclosed close entry labels begin rest) :
    ∃ piece, open' :: begin = piece ++ rest ∧
      ∀ other, ∃ start, piece ++ other = open' :: start ∧
        Enclosed close entry labels start other := by
  obtain ⟨inner, rfl, stands⟩ := encloses each enclosed
  refine ⟨open' :: (inner ++ [close]), by simp, fun other => ⟨inner ++ close :: other, by simp, ?_⟩⟩
  exact stands other

end Enclosures

section Values

theorem scalar_local (content : Content) : Local (Scalar content) := by
  intro text rest scalar
  cases scalar with
  | null rest => exact ⟨['n', 'u', 'l', 'l'], rfl, fun other => .null other⟩
  | true rest => exact ⟨['t', 'r', 'u', 'e'], rfl, fun other => .true other⟩
  | false rest => exact ⟨['f', 'a', 'l', 's', 'e'], rfl, fun other => .false other⟩
  | negative number =>
      obtain ⟨piece, rfl, stands⟩ := unsigned_local _ _ number
      exact ⟨'-' :: piece, rfl, fun other => .negative (stands other)⟩
  | number number =>
      obtain ⟨piece, rfl, stands⟩ := unsigned_local _ _ number
      exact ⟨piece, rfl, fun other => .number (stands other)⟩
  | quoted quoted =>
      obtain ⟨piece, rfl, stands⟩ := quoted_local _ _ _ quoted
      exact ⟨piece, rfl, fun other => .quoted (stands other)⟩

/-- A key, a colon and a value, each behind spaces. -/
theorem colon_local (key : Option String) {value : Rule} (valueLocal : Local value) :
    Local fun text rest => ∃ afterKey, Quoted key text afterKey ∧
      ∃ colon, Spaces afterKey (':' :: colon) ∧ ∃ start, Spaces colon start ∧ value start rest :=
  local_seq (quoted_local key)
    (local_seq (spaces_cons_local ':') (local_seq spaces_local valueLocal))

theorem member_local {value : Content → Rule} (each : ∀ content, Local (value content))
    (label : Option String × Content) : Local (Member value label) := by
  rintro text rest ⟨afterKey, colon, start, quoted, colonSpaces, spaces, standing⟩
  obtain ⟨piece, same, stands⟩ := colon_local label.1 (each label.2) _ _
    ⟨afterKey, quoted, colon, colonSpaces, start, spaces, standing⟩
  refine ⟨piece, same, fun other => ?_⟩
  obtain ⟨afterKey, quoted, colon, colonSpaces, start, spaces, standing⟩ := stands other
  exact ⟨afterKey, colon, start, quoted, colonSpaces, spaces, standing⟩

theorem keyed_local (key : String) {value : Rule} (valueLocal : Local value) :
    Local (Keyed key value) := by
  rintro text rest ⟨afterKey, colon, start, quoted, colonSpaces, spaces, standing⟩
  obtain ⟨piece, same, stands⟩ := colon_local (some key) valueLocal _ _
    ⟨afterKey, quoted, colon, colonSpaces, start, spaces, standing⟩
  refine ⟨piece, same, fun other => ?_⟩
  obtain ⟨afterKey, quoted, colon, colonSpaces, start, spaces, standing⟩ := stands other
  exact ⟨afterKey, colon, start, quoted, colonSpaces, spaces, standing⟩

theorem nested_value_local (depth : Nat) (content : Content) :
    Local (NestedValue depth content) := by
  induction depth generalizing content with
  | zero => exact scalar_local content
  | succ depth induction =>
      intro text rest standing
      rcases standing with scalar | ⟨isOther, nest⟩
      · obtain ⟨piece, same, stands⟩ := scalar_local content _ _ scalar
        exact ⟨piece, same, fun other => .inl (stands other)⟩
      · cases nest with
        | list items =>
            obtain ⟨piece, same, stands⟩ := enclosed_local '[' induction items
            refine ⟨piece, same, fun other => .inr ⟨isOther, ?_⟩⟩
            obtain ⟨start, begins, items⟩ := stands other
            rw [begins]
            exact .list items
        | object members =>
            obtain ⟨piece, same, stands⟩ := enclosed_local '\x7b' (member_local induction) members
            refine ⟨piece, same, fun other => .inr ⟨isOther, ?_⟩⟩
            obtain ⟨start, begins, members⟩ := stands other
            rw [begins]
            exact .object members

theorem value_local (content : Content) : Local (IsValue content) := by
  rintro text rest ⟨depth, standing⟩
  obtain ⟨piece, same, stands⟩ := nested_value_local depth content _ _ standing
  exact ⟨piece, same, fun other => ⟨depth, stands other⟩⟩

theorem flat_local (value : Json) : Local (Flat value) := by
  intro text rest flat
  cases flat with
  | null rest => exact ⟨['n', 'u', 'l', 'l'], rfl, fun other => .null other⟩
  | true rest => exact ⟨['t', 'r', 'u', 'e'], rfl, fun other => .true other⟩
  | false rest => exact ⟨['f', 'a', 'l', 's', 'e'], rfl, fun other => .false other⟩
  | @negative literal number rest alone =>
      exact ⟨'-' :: literal, rfl, fun other => .negative other alone⟩
  | @number literal number rest alone => exact ⟨literal, rfl, fun other => .number other alone⟩
  | quoted quoted =>
      obtain ⟨piece, rfl, stands⟩ := quoted_local _ _ _ quoted
      exact ⟨piece, rfl, fun other => .quoted (stands other)⟩

theorem spelling_local (depth : Nat) (value : Json) : Local (Spelling depth value) := by
  induction depth generalizing value with
  | zero => exact flat_local value
  | succ depth induction =>
      intro text rest spelling
      rcases spelling with flat | compound
      · obtain ⟨piece, same, stands⟩ := flat_local value _ _ flat
        exact ⟨piece, same, fun other => .inl (stands other)⟩
      · cases compound with
        | list enclosed =>
            obtain ⟨piece, same, stands⟩ := enclosed_local '[' induction enclosed
            refine ⟨piece, same, fun other => .inr ?_⟩
            obtain ⟨start, begins, enclosed⟩ := stands other
            rw [begins]
            exact .list enclosed
        | object order enclosed =>
            have each (member : String × Json) :
                Local (Keyed member.1 (Spelling depth member.2)) :=
              keyed_local member.1 (induction member.2)
            obtain ⟨piece, same, stands⟩ := enclosed_local '\x7b' each enclosed
            refine ⟨piece, same, fun other => .inr ?_⟩
            obtain ⟨start, begins, enclosed⟩ := stands other
            rw [begins]
            exact .object order enclosed

end Values

end FlagBoard.Json
