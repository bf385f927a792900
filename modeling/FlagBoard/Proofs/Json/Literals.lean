import FlagBoard.Proofs.Json.Skipping
import Mathlib

/-!
Numbers that are read are numbers of the grammar, and each is read as the same number from the same
characters wherever they stand, unless the text goes on with it.
-/

namespace FlagBoard.Json

section Numbers

variable {text behind rest : List Char}

theorem head?_append_ne (c : Char) (first : text.head? ≠ some c) (second : rest.head? ≠ some c) :
    (text ++ rest).head? ≠ some c := by
  cases text with
  | nil => exact second
  | cons d text => exact first

theorem starts_digit_append (first : startsDigit text = false)
    (second : startsDigit rest = false) : startsDigit (text ++ rest) = false := by
  cases text with
  | nil => exact second
  | cons c text => exact first

theorem take_digits_longer {digits : List Nat} (taken : takeDigits text = (digits, behind))
    (ends : startsDigit rest = false) :
    takeDigits (text ++ rest) = (digits, behind ++ rest) := by
  rw [takeDigits, Prod.mk.injEq] at taken
  obtain ⟨rfl, rfl⟩ := taken
  have all : ∀ c ∈ text.takeWhile isDigit, isDigit c = true := fun _ => List.mem_takeWhile_imp
  have stops := starts_digit_append (starts_digit_dropWhile text) ends
  have whole : text ++ rest = text.takeWhile isDigit ++ (text.dropWhile isDigit ++ rest) := by
    rw [← List.append_assoc, List.takeWhile_append_dropWhile]
  rw [whole, take_digits_append _ _ all stops]

theorem read_whole_longer {whole : List Nat} (read : readWhole text = .ok (whole, behind))
    (ends : startsDigit rest = false) :
    readWhole (text ++ rest) = .ok (whole, behind ++ rest) := by
  obtain ⟨stops, number, rfl, rfl⟩ := (read_whole_iff _ _ _).mp read
  rw [List.append_assoc]
  exact (read_whole_iff _ _ _).mpr ⟨starts_digit_append stops ends, number, rfl, rfl⟩

theorem read_fraction_longer {fraction : Option (List Nat)}
    (read : readFraction text = .ok (fraction, behind)) (ends : continuesNumber rest = false) :
    readFraction (text ++ rest) = .ok (fraction, behind ++ rest) := by
  obtain ⟨noDigit, noPoint, _⟩ := (continues_number_iff rest).mp ends
  cases fraction with
  | none =>
      obtain ⟨rfl, plain⟩ := (read_fraction_none_iff _ _).mp read
      exact (read_fraction_none_iff _ _).mpr ⟨rfl, head?_append_ne '.' plain noPoint⟩
  | some digits =>
      unfold readFraction at read
      split at read
      case h_2 other => cases read
      case h_1 more =>
          obtain ⟨found, after, taken⟩ : ∃ found after, takeDigits more = (found, after) :=
            ⟨_, _, rfl⟩
          have longer := take_digits_longer taken noDigit
          rw [taken] at read
          cases found with
          | nil => cases after <;> cases read
          | cons digit found =>
              cases read
              rw [List.cons_append, readFraction, longer]

def takeSign : List Char → Bool × List Char
  | '+' :: more => (false, more)
  | '-' :: more => (true, more)
  | more => (false, more)

def readPower (signed : Bool × List Char) : Except Fault (Option Exponent × List Char) :=
  match takeDigits signed.2 with
  | ([], []) => .error (.here .endInValue [])
  | ([], d :: more) => .error (.next .badNumber (d :: more))
  | (digits, more) => .ok (some ⟨signed.1, digits, signed.2⟩, more)

theorem read_exponent_cons (c : Char) (signed : List Char) :
    readExponent (c :: signed) =
      if c = 'e' ∨ c = 'E' then readPower (takeSign signed) else .ok (none, c :: signed) := rfl

theorem take_sign_longer (some : text ≠ []) (rest : List Char) :
    takeSign (text ++ rest) = ((takeSign text).1, (takeSign text).2 ++ rest) := by
  cases text with
  | nil => exact absurd rfl some
  | cons c more =>
      by_cases plus : c = '+'
      · subst plus
        rfl
      · by_cases minus : c = '-'
        · subst minus
          rfl
        · simp [takeSign, plus, minus]

theorem read_power_longer {signed : Bool × List Char} {exponent : Option Exponent}
    (read : readPower signed = .ok (exponent, behind)) (ends : startsDigit rest = false) :
    readPower (signed.1, signed.2 ++ rest) =
      .ok (exponent.map fun exponent => { exponent with start := exponent.start ++ rest },
        behind ++ rest) := by
  obtain ⟨digits, after, taken⟩ : ∃ digits after, takeDigits signed.2 = (digits, after) :=
    ⟨_, _, rfl⟩
  have longer := take_digits_longer taken ends
  rw [readPower, taken] at read
  rw [readPower, longer]
  cases digits with
  | nil => cases after <;> cases read
  | cons digit digits =>
      cases read
      rfl

theorem read_exponent_longer {exponent : Option Exponent}
    (read : readExponent text = .ok (exponent, behind)) (ends : continuesNumber rest = false) :
    readExponent (text ++ rest) =
      .ok (exponent.map fun exponent => { exponent with start := exponent.start ++ rest },
        behind ++ rest) := by
  obtain ⟨noDigit, _, notLower, notUpper⟩ := (continues_number_iff rest).mp ends
  cases exponent with
  | none =>
      obtain ⟨rfl, plain⟩ := (read_exponent_none_iff _ _).mp read
      exact (read_exponent_none_iff _ _).mpr ⟨rfl, head?_append_ne 'e' plain.1 notLower,
        head?_append_ne 'E' plain.2 notUpper⟩
  | some exponent =>
      cases text with
      | nil => cases read
      | cons c signed =>
          by_cases mark : c = 'e' ∨ c = 'E'
          · rw [read_exponent_cons, if_pos mark] at read
            have some : signed ≠ [] := by
              intro none
              rw [none] at read
              cases read
            rw [List.cons_append, read_exponent_cons, if_pos mark, take_sign_longer some]
            exact read_power_longer read noDigit
          · rw [read_exponent_cons, if_neg mark] at read
            cases read

theorem finish_number_longer {parts : Number.Parts} {fault other : Fault} {after : List Char}
    {number : Number}
    (finished : (match Number.ofParts parts with
      | some number => Except.ok (number, after)
      | none => .error fault) = .ok (number, behind)) :
    (match Number.ofParts parts with
      | some number => Except.ok (number, after ++ rest)
      | none => .error other) = .ok (number, behind ++ rest) := by
  obtain ⟨parsed, same⟩ := (finish_number_iff _ _ _ _ _).mp finished
  exact (finish_number_iff _ _ _ _ _).mpr ⟨parsed, by rw [same]⟩

/-- A number is read from the same characters in a longer text that does not go on with it. -/
theorem read_number_longer {negative : Bool} {number : Number}
    (read : readNumber negative text = .ok (number, behind))
    (ends : continuesNumber rest = false) :
    readNumber negative (text ++ rest) = .ok (number, behind ++ rest) := by
  have noDigit := ((continues_number_iff rest).mp ends).1
  simp only [readNumber, bind_eq_ok_iff] at read
  obtain ⟨⟨whole, afterWhole⟩, wholeRead, ⟨fraction, afterFraction⟩, fractionRead,
    ⟨exponent, afterExponent⟩, exponentRead, finished⟩ := read
  simp only [readNumber, read_whole_longer wholeRead noDigit,
    read_fraction_longer fractionRead ends, read_exponent_longer exponentRead ends, ok_bind]
  cases exponent with
  | none => exact finish_number_longer finished
  | some exponent =>
      dsimp only [Option.map_some] at finished ⊢
      cases value : exponentValue 0 0 exponent.digits with
      | inl power =>
          rw [value] at finished
          exact finish_number_longer finished
      | inr count =>
          rw [value] at finished
          dsimp only at finished ⊢
          split_ifs at finished ⊢
          · exact finish_number_longer finished
          · exact finish_number_longer finished

theorem digits_of_take {digit : Nat} {digits : List Nat}
    (taken : takeDigits text = (digit :: digits, behind)) : Digits text behind :=
  ((skip_digits_iff text behind).mp (by rw [skipDigits, taken])).1

theorem whole_of_read {whole : List Nat} (read : readWhole text = .ok (whole, behind)) :
    Whole text behind := by
  obtain ⟨_, number, rfl, _⟩ := (read_whole_iff _ _ _).mp read
  rcases Nat.eq_zero_or_pos number with rfl | positive
  · exact .inl rfl
  · obtain ⟨c, digits, head, notZero⟩ := to_digits_head number positive
    refine .inr ⟨?_, _, Nat.toDigits_ne_nil, digit_of_mem_toDigits number, rfl⟩
    rw [head]
    exact fun same => notZero (Option.some.inj same)

theorem fraction_of_read {fraction : Option (List Nat)}
    (read : readFraction text = .ok (fraction, behind)) : Fraction text behind := by
  cases fraction with
  | none => exact .inl ((read_fraction_none_iff _ _).mp read).1
  | some digits =>
      unfold readFraction at read
      split at read
      case h_2 other => cases read
      case h_1 more =>
          obtain ⟨found, after, taken⟩ : ∃ found after, takeDigits more = (found, after) :=
            ⟨_, _, rfl⟩
          rw [taken] at read
          cases found with
          | nil => cases after <;> cases read
          | cons digit found =>
              cases read
              exact .inr ⟨more, rfl, digits_of_take taken⟩

theorem digits_of_power {signed : Bool × List Char} {exponent : Option Exponent}
    (read : readPower signed = .ok (exponent, behind)) : Digits signed.2 behind := by
  obtain ⟨digits, after, taken⟩ : ∃ digits after, takeDigits signed.2 = (digits, after) :=
    ⟨_, _, rfl⟩
  rw [readPower, taken] at read
  cases digits with
  | nil => cases after <;> cases read
  | cons digit digits =>
      cases read
      exact digits_of_take taken

theorem power_of_read {exponent : Option Exponent}
    (read : readExponent text = .ok (exponent, behind)) : Power text behind := by
  cases text with
  | nil =>
      cases read
      exact .inl rfl
  | cons c signed =>
      rw [read_exponent_cons] at read
      split_ifs at read with mark
      · refine .inr ⟨c, signed, (takeSign signed).2, mark, rfl, ?_, digits_of_power read⟩
        unfold takeSign
        split
        · exact .inr (.inl rfl)
        · exact .inr (.inr rfl)
        · exact .inl rfl
      · cases read
        exact .inl rfl

theorem unsigned_of_read {negative : Bool} {number : Number}
    (read : readNumber negative text = .ok (number, behind)) : Unsigned text behind := by
  simp only [readNumber, bind_eq_ok_iff] at read
  obtain ⟨⟨whole, afterWhole⟩, wholeRead, ⟨fraction, afterFraction⟩, fractionRead,
    ⟨exponent, after⟩, exponentRead, finished⟩ := read
  have same : after = behind := by
    cases exponent with
    | none => exact ((finish_number_iff _ _ _ _ _).mp finished).2
    | some exponent =>
        dsimp only at finished
        split at finished
        · exact ((finish_number_iff _ _ _ _ _).mp finished).2
        · split_ifs at finished
          · exact ((finish_number_iff _ _ _ _ _).mp finished).2
          · exact ((finish_number_iff _ _ _ _ _).mp finished).2
  rw [← same]
  exact ⟨afterWhole, afterFraction, whole_of_read wholeRead, fraction_of_read fractionRead,
    power_of_read exponentRead⟩

end Numbers

end FlagBoard.Json
