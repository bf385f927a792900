import FlagBoard.Json.Skip
import FlagBoard.Proofs.Json.Grammar
import Mathlib

/-!
Strings by their grammar. Passing over a string takes every spelling; reading it takes those that
spell a text, and gives that text.
-/

namespace FlagBoard.Json

section Digits

variable {unit : Nat} {text behind : List Char}

theorem hex_size (c : Char) (hex : (hexValue c).isSome) : Text.Utf8.charSize c = 1 := by
  have bound : c.toNat < 0x80 := by
    simp only [hexValue, Char.le_def, UInt32.le_iff_toNat_le] at hex
    split_ifs at hex with digit lower upper
    · exact lt_of_le_of_lt digit.2 (by decide)
    · exact lt_of_le_of_lt lower.2 (by decide)
    · exact lt_of_le_of_lt upper.2 (by decide)
    · cases hex
  exact if_pos bound

theorem four_digits_bytes (digits : FourDigits unit text behind) : hasFourBytes text = true := by
  obtain ⟨first, second, third, fourth, a, b, c, d, one, two, three, four, _, rfl⟩ := digits
  simp [hasFourBytes, Text.Utf8.size, hex_size first (by simp [one]),
    hex_size second (by simp [two]), hex_size third (by simp [three]),
    hex_size fourth (by simp [four])]

theorem size_of_hex (digits : List Char) (all : ∀ c ∈ digits, (hexValue c).isSome) :
    Text.Utf8.size digits = digits.length := by
  induction digits with
  | nil => rfl
  | cons c digits induction =>
      have later := induction fun other member => all other (by simp [member])
      rw [Text.Utf8.size] at later ⊢
      rw [List.foldr_cons, later, hex_size c (all c (by simp)), List.length_cons, Nat.add_comm]

theorem four_digits_of_hex (bytes : hasFourBytes text = true)
    (hex : ∀ c ∈ text.take 4, (hexValue c).isSome) :
    ∃ unit behind, FourDigits unit text behind := by
  have long : 4 ≤ (text.take 4).length := by
    rw [← size_of_hex _ hex]
    exact of_decide_eq_true bytes
  match text with
  | first :: second :: third :: fourth :: behind =>
      obtain ⟨a, one⟩ := Option.isSome_iff_exists.mp (hex first (by simp))
      obtain ⟨b, two⟩ := Option.isSome_iff_exists.mp (hex second (by simp))
      obtain ⟨c, three⟩ := Option.isSome_iff_exists.mp (hex third (by simp))
      obtain ⟨d, four⟩ := Option.isSome_iff_exists.mp (hex fourth (by simp))
      exact ⟨_, behind, first, second, third, fourth, a, b, c, d, one, two, three, four, rfl, rfl⟩
  | [_, _, _] | [_, _] | [_] | [] => simp at long

/-- What comes of four digits read in a string. -/
theorem read_four_digits (leading : Option Nat) (digits : FourDigits unit text behind) :
    readStringFrom (.digits 4 0 true leading) text =
      match joinUnits leading unit with
      | .error cause => .error (.here cause behind)
      | .ok (.inl joined) => prepend joined (readStringFrom .plain behind)
      | .ok (.inr high) => readStringFrom (.paired high) behind := by
  obtain ⟨first, second, third, fourth, a, b, c, d, one, two, three, four, rfl, rfl⟩ := digits
  rcases halves : joinUnits leading (((a * 16 + b) * 16 + c) * 16 + d) with cause | joined | high
  all_goals
    simp only [readStringFrom, one, two, three, four, halves, Nat.reduceLeDiff, if_false,
      Nat.reduceSub, Nat.zero_mul, Nat.zero_add, le_refl, if_true]

/-- Nothing but four digits is read where they should stand. -/
theorem four_digits_of_read (leading : Option Nat) (result : List Char × List Char)
    (read : readStringFrom (.digits 4 0 true leading) text = .ok result) :
    ∃ unit behind, FourDigits unit text behind := by
  match text with
  | first :: second :: third :: fourth :: behind =>
      cases one : hexValue first with
      | none => simp [readStringFrom, one] at read
      | some a =>
          cases two : hexValue second with
          | none => simp [readStringFrom, one, two] at read
          | some b =>
              cases three : hexValue third with
              | none => simp [readStringFrom, one, two, three] at read
              | some c =>
                  cases four : hexValue fourth with
                  | none => simp [readStringFrom, one, two, three, four] at read
                  | some d =>
                      exact ⟨_, behind, first, second, third, fourth, a, b, c, d, one, two,
                        three, four, rfl, rfl⟩
  | [first, second, third] =>
      cases one : hexValue first <;> cases two : hexValue second <;>
        cases three : hexValue third <;> simp [readStringFrom, one, two, three] at read
  | [first, second] =>
      cases one : hexValue first <;> cases two : hexValue second <;>
        simp [readStringFrom, one, two] at read
  | [first] => cases one : hexValue first <;> simp [readStringFrom, one] at read
  | [] => simp [readStringFrom] at read

end Digits

section Skipping

variable {text rest : List Char}

/-- Among plain characters a hexadecimal digit is one of them. -/
theorem skip_hex (c : Char) (digit : Nat) (hex : hexValue c = some digit) (rest : List Char) :
    skipString false (c :: rest) = skipString false rest := by
  have notQuote : c ≠ '"' := by
    rintro rfl
    cases hex
  have notBackslash : c ≠ '\\' := by
    rintro rfl
    cases hex
  have visible : ¬ c.toNat < 0x20 := by
    intro control
    have none : ∀ point < 0x20, hexValue (Char.ofNat point) = none := by decide
    have plain := none c.toNat control
    rw [Char.ofNat_toNat, hex] at plain
    cases plain
  rw [skipString, if_neg notQuote, if_neg notBackslash, if_neg visible]

theorem skip_unit (text : List Char) :
    skipString false ('\\' :: 'u' :: text) =
      if !hasFourBytes text then .error (.here .endInString [])
      else if (text.take 4).all fun digit => (hexValue digit).isSome then skipString false text
      else .error (.after .badEscape 4 text) := by
  rw [skipString, if_neg (by decide), if_pos rfl, skipString, if_pos rfl]

theorem skip_piece {piece : Piece} {behind : List Char} (first : IsPiece piece text behind) :
    skipString false text = skipString false behind := by
  cases first with
  | plain c rest notQuote notBackslash visible =>
      rw [skipString, if_neg notQuote, if_neg notBackslash, if_neg (Nat.not_lt.mpr visible)]
  | letter letter c rest stands =>
      have notDigits : letter ≠ 'u' := by
        rintro rfl
        cases stands
      simp [skipString, notDigits, stands]
  | @digits unit text rest digits =>
      have bytes := four_digits_bytes digits
      obtain ⟨first, second, third, fourth, a, b, c, d, one, two, three, four, _, rfl⟩ := digits
      have hex : ((first :: second :: third :: fourth :: behind).take 4).all
          (fun digit => (hexValue digit).isSome) = true := by
        simp [one, two, three, four]
      rw [skip_unit, bytes, if_neg (by decide), if_pos hex, skip_hex first a one,
        skip_hex second b two, skip_hex third c three, skip_hex fourth d four]

/-- A string that is passed over is closed at once or goes on with a piece. -/
theorem skip_string_step (skipped : skipString false text = .ok ((), rest)) :
    text = '"' :: rest ∨ ∃ piece behind, IsPiece piece text behind := by
  match text with
  | [] => cases skipped
  | c :: more =>
      by_cases quote : c = '"'
      · rw [skipString, if_pos quote] at skipped
        cases skipped
        exact .inl (by rw [quote])
      · right
        by_cases backslash : c = '\\'
        · subst backslash
          match more with
          | [] => simp [skipString] at skipped
          | letter :: others =>
              by_cases digits : letter = 'u'
              · subst digits
                rw [skip_unit] at skipped
                split_ifs at skipped with short hex
                have bytes : hasFourBytes others = true := by simpa using short
                obtain ⟨unit, behind, digits⟩ :=
                  four_digits_of_hex bytes (List.all_eq_true.mp hex)
                exact ⟨_, behind, .digits digits⟩
              · cases stands : letterEscape letter with
                | none => simp [skipString, digits, stands] at skipped
                | some escaped => exact ⟨_, others, .letter letter escaped others stands⟩
        · by_cases visible : 0x20 ≤ c.toNat
          · exact ⟨_, more, .plain c more quote backslash visible⟩
          · rw [skipString, if_neg quote, if_neg backslash, if_pos (Nat.not_le.mp visible)]
              at skipped
            cases skipped

/-- Every spelling of a string is passed over, and nothing else. -/
theorem skip_string_iff (text rest : List Char) :
    skipString false text = .ok ((), rest) ↔ ∃ pieces, Pieces pieces text rest := by
  constructor
  · induction length : text.length using Nat.strongRecOn generalizing text with
    | ind _ induction =>
        intro skipped
        rcases skip_string_step skipped with rfl | ⟨piece, behind, first⟩
        · exact ⟨[], .close rest⟩
        · rw [skip_piece first] at skipped
          obtain ⟨pieces, others⟩ :=
            induction _ (length ▸ piece_shorter first) behind rfl skipped
          exact ⟨piece :: pieces, .piece first others⟩
  · rintro ⟨pieces, all⟩
    induction all with
    | close rest => rw [skipString, if_pos rfl]
    | piece first _ induction => rw [skip_piece first, induction]

end Skipping

section Reading

variable {text rest : List Char}

theorem read_char {c : Char} {behind : List Char} (first : IsPiece (.char c) text behind) :
    readStringFrom .plain text = prepend c (readStringFrom .plain behind) := by
  cases first with
  | plain c rest notQuote notBackslash visible =>
      rw [readStringFrom, if_neg notQuote, if_neg notBackslash, if_neg (Nat.not_lt.mpr visible)]
  | letter letter c rest stands =>
      have notDigits : letter ≠ 'u' := by
        rintro rfl
        cases stands
      simp [readStringFrom, notDigits, stands]

/-- A unit is read by itself, or waits for the other half of its character. -/
theorem read_unit {unit : Nat} {behind : List Char} (first : IsPiece (.unit unit) text behind) :
    readStringFrom .plain text =
      match joinUnits none unit with
      | .error cause => .error (.here cause behind)
      | .ok (.inl joined) => prepend joined (readStringFrom .plain behind)
      | .ok (.inr high) => readStringFrom (.paired high) behind := by
  cases first with
  | digits digits =>
      rw [readStringFrom, if_neg (by decide), if_pos rfl, readStringFrom, if_pos rfl,
        if_pos (four_digits_bytes digits)]
      exact read_four_digits none digits

theorem read_paired {unit : Nat} {behind : List Char} (high : Nat)
    (first : IsPiece (.unit unit) text behind) :
    readStringFrom (.paired high) text =
      match joinUnits (some high) unit with
      | .error cause => .error (.here cause behind)
      | .ok (.inl joined) => prepend joined (readStringFrom .plain behind)
      | .ok (.inr high) => readStringFrom (.paired high) behind := by
  cases first with
  | digits digits =>
      rw [readStringFrom, if_pos rfl, readStringFrom, if_pos rfl,
        if_pos (four_digits_bytes digits)]
      exact read_four_digits (some high) digits

theorem unit_of_read_paired (high : Nat) (result : List Char × List Char)
    (read : readStringFrom (.paired high) text = .ok result) :
    ∃ unit behind, IsPiece (.unit unit) text behind := by
  match text with
  | [] => cases read
  | [c] =>
      by_cases backslash : c = '\\' <;> simp [readStringFrom, backslash] at read
  | c :: letter :: more =>
      by_cases backslash : c = '\\'
      · by_cases digits : letter = 'u'
        · subst backslash digits
          rw [readStringFrom, if_pos rfl, readStringFrom, if_pos rfl] at read
          split_ifs at read
          obtain ⟨unit, behind, digits⟩ := four_digits_of_read _ _ read
          exact ⟨unit, behind, .digits digits⟩
        · simp [readStringFrom, backslash, digits] at read
      · simp [readStringFrom, backslash] at read

theorem read_string_step (result : List Char × List Char)
    (read : readStringFrom .plain text = .ok result) :
    text = '"' :: result.2 ∨ ∃ piece behind, IsPiece piece text behind := by
  match text with
  | [] => cases read
  | c :: more =>
      by_cases quote : c = '"'
      · rw [readStringFrom, if_pos quote] at read
        cases read
        exact .inl (by rw [quote])
      · right
        by_cases backslash : c = '\\'
        · subst backslash
          match more with
          | [] => simp [readStringFrom] at read
          | letter :: others =>
              by_cases digits : letter = 'u'
              · subst digits
                rw [readStringFrom, if_neg quote, if_pos rfl, readStringFrom, if_pos rfl] at read
                split_ifs at read
                obtain ⟨unit, behind, digits⟩ := four_digits_of_read _ _ read
                exact ⟨_, behind, .digits digits⟩
              · cases stands : letterEscape letter with
                | none => simp [readStringFrom, digits, stands] at read
                | some escaped => exact ⟨_, others, .letter letter escaped others stands⟩
        · by_cases visible : 0x20 ≤ c.toNat
          · exact ⟨_, more, .plain c more quote backslash visible⟩
          · rw [readStringFrom, if_neg quote, if_neg backslash, if_pos (Nat.not_le.mp visible)]
              at read
            cases read

/-- Where a unit stands, the pieces begin with one. -/
theorem unit_first {unit : Nat} {behind : List Char} {pieces : List Piece}
    (first : IsPiece (.unit unit) text behind) (all : Pieces pieces text rest) :
    ∃ low others, pieces = .unit low :: others := by
  cases first with
  | digits digits =>
      cases all with
      | piece other others =>
          cases other with
          | plain c rest notQuote notBackslash visible => exact absurd rfl notBackslash
          | letter letter c rest stands => cases stands
          | digits more => exact ⟨_, _, rfl⟩

/-- A reader that goes on behind a character yields what the rest spells behind it. -/
theorem prepend_toOption (c : Char) (inner : Except Fault (List Char × List Char))
    (others : Option (List Char)) (rest : List Char)
    (read : inner.toOption = others.map fun chars => (chars, rest)) :
    (prepend c inner).toOption = (others.map (c :: ·)).map fun chars => (chars, rest) := by
  have grown : (prepend c inner).toOption =
      inner.toOption.map fun read => (c :: read.1, read.2) := by cases inner <;> rfl
  rw [grown, read]
  cases others <;> rfl

/-- What pieces spell is what is read from them, and nothing is read where they spell nothing. -/
theorem read_pieces (pieces : List Piece) (text rest : List Char)
    (all : Pieces pieces text rest) :
    (readStringFrom .plain text).toOption = (spelled pieces).map fun chars => (chars, rest) := by
  induction pieces using spelled.induct generalizing text with
  | case1 =>
      cases all with
      | close rest => rw [readStringFrom, if_pos rfl]; rfl
  | case2 c pieces induction =>
      cases all with
      | piece first others =>
          rw [read_char first, spelled]
          exact prepend_toOption c _ _ rest (induction _ others)
  | case3 bits pieces trailing =>
      cases all with
      | piece first others =>
          rw [read_unit first, joinUnits, if_pos trailing, spelled.eq_def]
          simp only [if_pos trailing]
          rfl
  | case4 bits alone leading low pieces trailing induction =>
      cases all with
      | piece first others =>
          cases others with
          | piece second others =>
              rw [read_unit first, joinUnits, if_neg alone, if_pos leading]
              change (readStringFrom (.paired bits) _).toOption = _
              rw [read_paired bits second, joinUnits, if_pos trailing, spelled.eq_def]
              simp only [if_neg alone, if_pos leading, if_pos trailing]
              exact prepend_toOption (joinHalves bits low) _ _ rest (induction _ others)
  | case5 bits alone leading low pieces notTrailing =>
      cases all with
      | piece first others =>
          cases others with
          | piece second others =>
              rw [read_unit first, joinUnits, if_neg alone, if_pos leading]
              change (readStringFrom (.paired bits) _).toOption = _
              rw [read_paired bits second, joinUnits, if_neg notTrailing, spelled.eq_def]
              simp only [if_neg alone, if_pos leading, if_neg notTrailing]
              rfl
  | case6 bits pieces alone leading unpaired =>
      cases all with
      | @piece _ _ _ behind _ first others =>
          rw [read_unit first, joinUnits, if_neg alone, if_pos leading, spelled.eq_def]
          simp only [if_neg alone, if_pos leading]
          cases read : readStringFrom (.paired bits) behind with
          | error fault => rfl
          | ok result =>
              obtain ⟨unit, next, second⟩ := unit_of_read_paired bits result read
              obtain ⟨low, more, rfl⟩ := unit_first second others
              exact absurd rfl (unpaired low more)
  | case7 bits pieces alone notLeading induction =>
      cases all with
      | piece first others =>
          rw [read_unit first, joinUnits, if_neg alone, if_neg notLeading, spelled.eq_def]
          simp only [if_neg alone, if_neg notLeading]
          exact prepend_toOption _ _ _ rest (induction _ others)

theorem of_prepend (c : Char) (inner : Except Fault (List Char × List Char))
    (result : List Char × List Char) (read : prepend c inner = .ok result) :
    ∃ others, inner = .ok others ∧ others.2 = result.2 := by
  cases inner with
  | error fault => cases read
  | ok others =>
      cases read
      exact ⟨others, rfl, rfl⟩

theorem pieces_of_read (text : List Char) (result : List Char × List Char)
    (read : readStringFrom .plain text = .ok result) :
    ∃ pieces, Pieces pieces text result.2 := by
  induction length : text.length using Nat.strongRecOn generalizing text result with
  | ind _ induction =>
      -- Behind a piece the same reader goes on, but for a half that waits for the other.
      have later (c : Char) (behind : List Char) (shorter : behind.length < text.length)
          (read : prepend c (readStringFrom .plain behind) = .ok result) :
          ∃ pieces, Pieces pieces behind result.2 := by
        obtain ⟨others, rest, same⟩ := of_prepend c _ result read
        rw [← same]
        exact induction _ (length ▸ shorter) behind others rest rfl
      rcases read_string_step result read with rfl | ⟨piece, behind, first⟩
      · exact ⟨[], .close _⟩
      · have shorter := piece_shorter first
        cases piece with
        | char c =>
            rw [read_char first] at read
            obtain ⟨pieces, others⟩ := later c behind shorter read
            exact ⟨_, .piece first others⟩
        | unit bits =>
            rw [read_unit first] at read
            cases joined : joinUnits none bits with
            | error cause => rw [joined] at read; cases read
            | ok units =>
                rw [joined] at read
                cases units with
                | inl c =>
                    obtain ⟨pieces, others⟩ := later c behind shorter read
                    exact ⟨_, .piece first others⟩
                | inr high =>
                    obtain ⟨low, next, second⟩ := unit_of_read_paired high result read
                    change readStringFrom (.paired high) behind = .ok result at read
                    rw [read_paired high second, joinUnits] at read
                    by_cases trailing : isTrailing low
                    · rw [if_pos trailing] at read
                      obtain ⟨pieces, others⟩ :=
                        later _ next ((piece_shorter second).trans shorter) read
                      exact ⟨_, .piece first (.piece second others)⟩
                    · rw [if_neg trailing] at read
                      cases read

end Reading

section Quotes

variable {meaning : Option String} {text rest : List Char}

theorem skip_quoted_iff (text rest : List Char) :
    skipString false text = .ok ((), rest) ↔ ∃ meaning, Quoted meaning ('"' :: text) rest := by
  rw [skip_string_iff]
  constructor
  · rintro ⟨pieces, all⟩
    exact ⟨_, text, pieces, rfl, all, rfl⟩
  · rintro ⟨_, start, pieces, begins, all, _⟩
    cases begins
    exact ⟨pieces, all⟩

/-- A string is read as the text that it spells, and not at all if it spells none. -/
theorem read_quoted (quoted : Quoted meaning ('"' :: text) rest) :
    (readString text).toOption = meaning.map fun string => (string, rest) := by
  obtain ⟨start, pieces, begins, all, rfl⟩ := quoted
  cases begins
  have read := read_pieces pieces text rest all
  rw [readString]
  cases found : readStringFrom .plain text with
  | error fault =>
      rw [found] at read
      cases spelling : spelled pieces with
      | none => rfl
      | some chars => rw [spelling] at read; cases read
  | ok result =>
      rw [found] at read
      cases spelling : spelled pieces with
      | none => rw [spelling] at read; cases read
      | some chars => rw [spelling] at read; cases read; rfl

theorem quoted_of_read (string : String) (read : readString text = .ok (string, rest)) :
    Quoted (some string) ('"' :: text) rest := by
  rw [readString, bind_eq_ok_iff] at read
  obtain ⟨⟨chars, behind⟩, inner, same⟩ := read
  cases same
  obtain ⟨pieces, all⟩ := pieces_of_read text (chars, rest) inner
  have spelling := read_pieces pieces text rest all
  rw [inner] at spelling
  cases found : spelled pieces with
  | none => rw [found] at spelling; cases spelling
  | some others =>
      rw [found] at spelling
      cases spelling
      exact ⟨text, pieces, rfl, all, by rw [found]; rfl⟩

end Quotes

end FlagBoard.Json
