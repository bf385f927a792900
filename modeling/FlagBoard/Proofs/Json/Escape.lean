import FlagBoard.Json.Printer
import FlagBoard.Json.Reader
import FlagBoard.Proofs.Json.Shape

/-!
Strings in a JSON text. Reading a written string gives the string back, whatever it holds, and no
written string holds a control character.
-/

namespace FlagBoard.Json

theorem hex_digit_facts (digit : Nat) (small : digit < 16) :
    hexValue (hexDigit digit) = some digit ∧ Text.Utf8.charSize (hexDigit digit) = 1 ∧
      0x20 ≤ (hexDigit digit).toNat := by
  have all : ∀ digit < 16, hexValue (hexDigit digit) = some digit ∧
      Text.Utf8.charSize (hexDigit digit) = 1 ∧ 0x20 ≤ (hexDigit digit).toNat := by decide
  exact all digit small

/-- The escape by four digits, as it is written for a control character. -/
theorem read_control_escape (c : Char) (control : c.toNat < 0x20) (rest : List Char) :
    readStringFrom .plain
      (['\\', 'u', '0', '0', hexDigit (c.toNat / 16), hexDigit (c.toNat % 16)] ++ rest) =
        prepend c (readStringFrom .plain rest) := by
  obtain ⟨high, highSize, _⟩ := hex_digit_facts (c.toNat / 16) (by omega)
  obtain ⟨low, lowSize, _⟩ := hex_digit_facts (c.toNat % 16) (by omega)
  have zero : hexValue '0' = some 0 := rfl
  have zeroSize : Text.Utf8.charSize '0' = 1 := rfl
  have fourBytes : hasFourBytes ('0' :: '0' :: hexDigit (c.toNat / 16) ::
      hexDigit (c.toNat % 16) :: rest) = true := by
    simp [hasFourBytes, Text.Utf8.size, highSize, lowSize, zeroSize]
  have whole : c.toNat / 16 * 16 + c.toNat % 16 = c.toNat := by omega
  have joined : joinUnits none c.toNat = .ok (.inl c) := by
    have notTrailing : isTrailing c.toNat = false := by simp [isTrailing]; omega
    have notLeading : isLeading c.toNat = false := by simp [isLeading]; omega
    simp [joinUnits, notTrailing, notLeading]
  simp [readStringFrom, fourBytes, zero, high, low, whole, joined]

/-- A character is written behind a backslash as the letter that stands for it, or by four digits,
or as it is. -/
theorem escape_char_cases (c : Char) :
    (∃ letter, escapeChar c = ['\\', letter] ∧ letterEscape letter = some c ∧ letter ≠ 'u' ∧
      0x20 ≤ letter.toNat) ∨
    (c.toNat < 0x20 ∧ escapeChar c =
      ['\\', 'u', '0', '0', hexDigit (c.toNat / 16), hexDigit (c.toNat % 16)]) ∨
    (c ≠ '"' ∧ c ≠ '\\' ∧ ¬ c.toNat < 0x20 ∧ escapeChar c = [c]) := by
  by_cases quote : c = '"'
  · subst quote
    exact .inl ⟨'"', rfl, rfl, by decide, by decide⟩
  by_cases backslash : c = '\\'
  · subst backslash
    exact .inl ⟨'\\', rfl, rfl, by decide, by decide⟩
  by_cases backspace : c = '\x08'
  · subst backspace
    exact .inl ⟨'b', rfl, rfl, by decide, by decide⟩
  by_cases feed : c = '\x0c'
  · subst feed
    exact .inl ⟨'f', rfl, rfl, by decide, by decide⟩
  by_cases newline : c = '\n'
  · subst newline
    exact .inl ⟨'n', rfl, rfl, by decide, by decide⟩
  by_cases return_ : c = '\r'
  · subst return_
    exact .inl ⟨'r', rfl, rfl, by decide, by decide⟩
  by_cases tab : c = '\t'
  · subst tab
    exact .inl ⟨'t', rfl, rfl, by decide, by decide⟩
  by_cases control : c.toNat < 0x20
  · refine .inr (.inl ⟨control, ?_⟩)
    simp only [escapeChar, quote, backslash, backspace, feed, newline, return_, tab, control,
      if_false, if_true]
  · refine .inr (.inr ⟨quote, backslash, control, ?_⟩)
    simp only [escapeChar, quote, backslash, backspace, feed, newline, return_, tab, control,
      if_false]

/-- A character is read back from the way it stands in a string. -/
theorem read_escaped_char (c : Char) (rest : List Char) :
    readStringFrom .plain (escapeChar c ++ rest) = prepend c (readStringFrom .plain rest) := by
  rcases escape_char_cases c with ⟨letter, written, stands, notDigits, _⟩ | ⟨control, written⟩ |
    ⟨notQuote, notBackslash, notControl, written⟩
  · simp [written, readStringFrom, notDigits, stands]
  · rw [written]
    exact read_control_escape c control rest
  · simp [written, readStringFrom, notQuote, notBackslash, notControl]

theorem read_escaped (text rest : List Char) :
    readStringFrom .plain (text.flatMap escapeChar ++ '"' :: rest) = .ok (text, rest) := by
  induction text with
  | nil => rfl
  | cons c text induction =>
      rw [List.flatMap_cons, List.append_assoc, read_escaped_char, induction]
      rfl

/-- A written string is read back as it was, from behind its first quote on. -/
theorem read_printed_string (text : String) (rest : List Char) :
    readString ((printString text).tail ++ rest) = .ok (text, rest) := by
  have read := read_escaped text.toList rest
  simp [readString, printString, read]

/-- A text without the control characters below U+0020, of which the line break is one. -/
def Visible (text : List Char) : Prop := ∀ c ∈ text, 0x20 ≤ c.toNat

instance (text : List Char) : Decidable (Visible text) := List.decidableBAll _ text

theorem visible_append (first second : List Char) :
    Visible (first ++ second) ↔ Visible first ∧ Visible second := by
  simp only [Visible, List.forall_mem_append]

theorem visible_cons (c : Char) (text : List Char) :
    Visible (c :: text) ↔ 0x20 ≤ c.toNat ∧ Visible text := by
  simp only [Visible, List.forall_mem_cons]

theorem newline_notMem_of_visible (text : List Char) (visible : Visible text) : '\n' ∉ text := by
  intro member
  exact absurd (visible '\n' member) (by decide)

theorem escape_char_visible (c : Char) : Visible (escapeChar c) := by
  rcases escape_char_cases c with ⟨letter, written, _, _, visible⟩ | ⟨control, written⟩ |
    ⟨_, _, notControl, written⟩
  · simp [written, Visible, visible]
  · obtain ⟨_, _, high⟩ := hex_digit_facts (c.toNat / 16) (by omega)
    obtain ⟨_, _, low⟩ := hex_digit_facts (c.toNat % 16) (by omega)
    simp [written, Visible, high, low]
  · simpa [written, Visible] using notControl

theorem print_string_visible (text : String) : Visible (printString text) := by
  have escaped : Visible (text.toList.flatMap escapeChar) := by
    intro c member
    obtain ⟨written, _, inside⟩ := List.mem_flatMap.mp member
    exact escape_char_visible written c inside
  simp only [printString, List.cons_append, visible_cons, visible_append]
  exact ⟨by decide, escaped, by decide, by decide⟩

end FlagBoard.Json
