import FlagBoard.Json.Tree
import FlagBoard.Proofs.Json.Shape

/-!
Whole numbers in a JSON text. A number is read as a natural exactly where its decimal digits stand
there alone, without a sign, a needless zero, a fraction or an exponent, and are below 2 ^ 64.
-/

namespace FlagBoard.Json

def startsDigit : List Char → Bool
  | [] => false
  | c :: _ => isDigit c

/-- Whether a text would go on with a number that ends where the text begins. -/
def continuesNumber : List Char → Bool
  | [] => false
  | c :: _ => isDigit c || c == '.' || c == 'e' || c == 'E'

theorem digit_of_mem_toDigits (number : Nat) :
    ∀ c ∈ Nat.toDigits 10 number, isDigit c = true := by
  intro c member
  exact Nat.isDigit_of_mem_toDigits (by decide) (by decide) member

theorem digit_bounds (c : Char) (digit : isDigit c = true) : 48 ≤ c.toNat ∧ c.toNat ≤ 57 := by
  simp only [isDigit, Bool.and_eq_true, decide_eq_true_eq, Char.le_def,
    UInt32.le_iff_toNat_le] at digit
  exact digit

theorem digit_value_lt (c : Char) (digit : isDigit c = true) : digitValue c < 10 := by
  have bounds := digit_bounds c digit
  have zero : '0'.toNat = 48 := rfl
  simp only [digitValue, zero]
  omega

theorem digit_char_value (c : Char) (digit : isDigit c = true) : (digitValue c).digitChar = c := by
  have bounds := digit_bounds c digit
  have zero : '0'.toNat = 48 := rfl
  apply Char.toNat_inj.mp
  rw [Nat.toNat_digitChar_of_lt_ten (digit_value_lt c digit), digitValue, zero]
  omega

/-- Digits behind a number that is not zero are its further digits. -/
theorem to_digits_append (number : Nat) (positive : 0 < number) (digits : List Char)
    (all : ∀ c ∈ digits, isDigit c = true) :
    Nat.toDigits 10 number ++ digits = Nat.toDigits 10 (Nat.ofDigitChars 10 digits number) := by
  induction digits generalizing number with
  | nil => simp
  | cons c digits induction =>
      have digit := all c (by simp)
      have small := digit_value_lt c digit
      have next := Nat.toDigits_append_toDigits (by decide : 1 < 10) positive small
      rw [Nat.toDigits_of_lt_base small, digit_char_value c digit] at next
      have later := induction (10 * number + digitValue c) (by omega)
        (by intro other member; exact all other (by simp [member]))
      rw [← next, List.append_assoc] at later
      rw [Nat.ofDigitChars_cons]
      exact later

/-- Digits that do not begin with a zero are those of a number. -/
theorem to_digits_of_digits (c : Char) (digits : List Char) (notZero : c ≠ '0')
    (all : ∀ other ∈ c :: digits, isDigit other = true) :
    c :: digits = Nat.toDigits 10 (Nat.ofDigitChars 10 (c :: digits) 0) := by
  have digit := all c (by simp)
  have positive : 0 < digitValue c := by
    rw [Nat.pos_iff_ne_zero]
    intro zero
    have same := digit_char_value c digit
    rw [zero] at same
    exact notZero same.symm
  have tail := to_digits_append (digitValue c) positive digits
    (by intro other member; exact all other (by simp [member]))
  rw [Nat.toDigits_of_lt_base (digit_value_lt c digit), digit_char_value c digit] at tail
  rw [Nat.ofDigitChars_cons, Nat.mul_zero, Nat.zero_add]
  exact tail

/-- A number that is not zero does not begin with one. -/
theorem to_digits_head (number : Nat) (positive : 0 < number) :
    ∃ c digits, Nat.toDigits 10 number = c :: digits ∧ c ≠ '0' := by
  induction number using Nat.strongRecOn with
  | ind number induction =>
      by_cases small : number < 10
      · refine ⟨number.digitChar, [], Nat.toDigits_of_lt_base small, ?_⟩
        rw [Ne, Nat.digitChar_eq_zero]
        omega
      · obtain ⟨c, digits, head, notZero⟩ := induction (number / 10) (by omega) (by omega)
        rw [Nat.toDigits_of_base_le (by decide) (Nat.le_of_not_lt small), head]
        exact ⟨c, digits ++ [(number % 10).digitChar], rfl, notZero⟩

theorem take_digits_append (digits rest : List Char) (all : ∀ c ∈ digits, isDigit c = true)
    (ends : startsDigit rest = false) :
    takeDigits (digits ++ rest) = (digits.map digitValue, rest) := by
  have none : rest.takeWhile isDigit = [] ∧ rest.dropWhile isDigit = rest := by
    cases rest with
    | nil => exact ⟨rfl, rfl⟩
    | cons c rest =>
        have notDigit : isDigit c = false := ends
        simp [notDigit]
  rw [takeDigits, List.takeWhile_append_of_pos all, List.dropWhile_append_of_pos all, none.1,
    none.2, List.append_nil]

theorem starts_digit_dropWhile (text : List Char) :
    startsDigit (text.dropWhile isDigit) = false := by
  induction text with
  | nil => rfl
  | cons c rest induction =>
      cases digit : isDigit c with
      | true => rwa [List.dropWhile_cons_of_pos digit]
      | false => simp [digit, startsDigit]

/-- The whole part of a number is read from the digits of a natural. -/
theorem read_whole_iff (text : List Char) (whole : List Nat) (rest : List Char) :
    readWhole text = .ok (whole, rest) ↔
      startsDigit rest = false ∧ ∃ number, text = Nat.toDigits 10 number ++ rest ∧
        whole = (Nat.toDigits 10 number).map digitValue := by
  constructor
  · intro read
    match text with
    | [] => simp [readWhole] at read
    | c :: more =>
        by_cases zero : c = '0'
        · subst zero
          have zeroRead : whole = [0] ∧ more = rest ∧ startsDigit more = false := by
            cases more with
            | nil => simpa [readWhole, startsDigit, eq_comm] using read
            | cons d more =>
                cases digit : isDigit d <;> simp [readWhole, digit, startsDigit] at read ⊢
                exact ⟨read.1.symm, read.2⟩
          obtain ⟨rfl, rfl, ends⟩ := zeroRead
          exact ⟨ends, 0, rfl, rfl⟩
        · by_cases digit : isDigit c = true
          · simp only [readWhole, if_neg zero, if_pos digit, takeDigits, Except.ok.injEq,
              Prod.mk.injEq] at read
            obtain ⟨rfl, rfl⟩ := read
            have all : ∀ other ∈ c :: more.takeWhile isDigit, isDigit other = true := by
              intro other member
              rcases List.mem_cons.mp member with rfl | later
              · exact digit
              · exact List.all_eq_true.mp List.all_takeWhile other later
            have digits := to_digits_of_digits c (more.takeWhile isDigit) zero all
            refine ⟨?_, Nat.ofDigitChars 10 (c :: more.takeWhile isDigit) 0, ?_, ?_⟩
            · rw [List.dropWhile_cons_of_pos digit]
              exact starts_digit_dropWhile more
            · rw [← digits, List.dropWhile_cons_of_pos digit, List.cons_append,
                List.takeWhile_append_dropWhile]
            · rw [← digits, List.takeWhile_cons_of_pos digit]
          · simp [readWhole, zero, digit] at read
  · rintro ⟨ends, number, rfl, rfl⟩
    rcases Nat.eq_zero_or_pos number with rfl | positive
    · cases rest with
      | nil => rfl
      | cons c rest =>
          have notDigit : isDigit c = false := ends
          simp only [Nat.toDigits_zero, List.singleton_append, readWhole, if_true, notDigit,
            Bool.false_eq_true, if_false]
          rfl
    · have taken := take_digits_append _ rest (digit_of_mem_toDigits number) ends
      obtain ⟨c, digits, head, notZero⟩ := to_digits_head number positive
      have digit := digit_of_mem_toDigits number c (by simp [head])
      rw [head, List.cons_append] at taken ⊢
      simp only [readWhole, if_neg notZero, if_pos digit, taken]

theorem le_ofDigitChars (digits : List Char) (start : Nat) :
    start ≤ Nat.ofDigitChars 10 digits start := by
  induction digits generalizing start with
  | nil => simp
  | cons c digits induction =>
      rw [Nat.ofDigitChars_cons]
      exact Nat.le_trans (by omega) (induction _)

/-- Digits are taken whole as long as their number fits 64 bits. -/
theorem absorb_digits_iff (digits : List Char) (start number : Nat) (fits : start < 2 ^ 64) :
    Number.absorb start (digits.map digitValue) = (number, 0) ↔
      Nat.ofDigitChars 10 digits start = number ∧ number < 2 ^ 64 := by
  induction digits generalizing start with
  | nil =>
      simp only [List.map_nil, Number.absorb, Prod.mk.injEq, and_true, Nat.ofDigitChars_nil]
      constructor
      · rintro rfl
        exact ⟨rfl, fits⟩
      · exact And.left
  | cons c digits induction =>
      have value : start * 10 + digitValue c = 10 * start + (c.toNat - '0'.toNat) := by
        rw [digitValue, Nat.mul_comm]
      rw [List.map_cons, Number.absorb, value, Nat.ofDigitChars_cons]
      split_ifs with small
      · exact induction _ small
      · have grows := le_ofDigitChars digits (10 * start + (c.toNat - '0'.toNat))
        constructor
        · intro taken
          simp at taken
        · rintro ⟨rfl, bounded⟩
          omega

theorem of_parts_eq_natural_iff (parts : Number.Parts) (number : Nat) :
    Number.ofParts parts = some (.natural number) ↔
      parts.scientific = false ∧ parts.negative = false ∧
        Number.absorb 0 parts.whole = (number, 0) := by
  obtain ⟨taken, left, absorbed⟩ : ∃ taken left, Number.absorb 0 parts.whole = (taken, left) :=
    ⟨_, _, rfl⟩
  simp only [Number.ofParts, absorbed]
  cases scientific : parts.scientific
  · by_cases whole : left = 0
    · cases negative : parts.negative
      · simp [whole]
      · simp only [whole]
        split_ifs <;> simp_all
    · simp [whole, Option.bind_eq_some_iff]
  · simp [Option.bind_eq_some_iff]

theorem read_fraction_none_iff (text rest : List Char) :
    readFraction text = .ok (none, rest) ↔ text = rest ∧ text.head? ≠ some '.' := by
  unfold readFraction
  split
  case h_1 more =>
      split <;> simp_all
  case h_2 other =>
      simp only [Except.ok.injEq, Prod.mk.injEq, true_and, iff_self_and]
      rintro rfl
      cases text with
      | nil => simp
      | cons c more =>
          simp only [List.head?_cons, Ne, Option.some.injEq]
          rintro rfl
          exact other more rfl

theorem read_exponent_none_iff (text rest : List Char) :
    readExponent text = .ok (none, rest) ↔
      text = rest ∧ text.head? ≠ some 'e' ∧ text.head? ≠ some 'E' := by
  cases text with
  | nil => simp [readExponent]
  | cons c more =>
      simp only [readExponent]
      by_cases mark : c = 'e' ∨ c = 'E'
      · rw [if_pos mark]
        constructor
        · intro read
          split at read <;> simp_all
        · rintro ⟨_, notLower, notUpper⟩
          rcases mark with rfl | rfl <;> simp at notLower notUpper
      · rw [if_neg mark]
        simp_all [eq_comm]

theorem finish_number_iff (parts : Number.Parts) (fault : Fault) (after rest : List Char)
    (number : Number) :
    (match Number.ofParts parts with
      | some number => Except.ok (number, after)
      | none => .error fault) = .ok (number, rest) ↔
      Number.ofParts parts = some number ∧ after = rest := by
  cases Number.ofParts parts <;> simp

theorem continues_number_iff (text : List Char) :
    continuesNumber text = false ↔
      startsDigit text = false ∧ text.head? ≠ some '.' ∧
        text.head? ≠ some 'e' ∧ text.head? ≠ some 'E' := by
  cases text <;> simp [continuesNumber, startsDigit, and_assoc]

/-- A number is read as a natural exactly from its decimal digits, standing alone. -/
theorem read_number_natural_iff (negative : Bool) (text : List Char) (number : Nat)
    (rest : List Char) :
    readNumber negative text = .ok (.natural number, rest) ↔
      negative = false ∧ text = Nat.toDigits 10 number ++ rest ∧ number < 2 ^ 64 ∧
        continuesNumber rest = false := by
  constructor
  · intro read
    simp only [readNumber, bind_eq_ok_iff] at read
    obtain ⟨⟨whole, afterWhole⟩, wholeRead, ⟨fraction, afterFraction⟩, fractionRead,
      ⟨exponent, afterExponent⟩, exponentRead, finished⟩ := read
    cases exponent with
    | some exponent =>
        have plain (parts : Number.Parts) (marked : parts.scientific = true) :
            Number.ofParts parts ≠ some (.natural number) := by
          intro parsed
          have unmarked := ((of_parts_eq_natural_iff parts number).mp parsed).1
          rw [marked] at unmarked
          cases unmarked
        have marked : (fraction.isSome || (some exponent).isSome) = true := by simp
        dsimp only at finished
        split at finished
        · exact absurd ((finish_number_iff _ _ _ _ _).mp finished).1 (plain _ marked)
        · split_ifs at finished
          · exact absurd ((finish_number_iff _ _ _ _ _).mp finished).1 (plain _ marked)
          · exact absurd ((finish_number_iff _ _ _ _ _).mp finished).1 (plain _ marked)
    | none =>
        obtain ⟨parsed, rfl⟩ := (finish_number_iff _ _ _ _ _).mp finished
        obtain ⟨unmarked, positive, absorbed⟩ := (of_parts_eq_natural_iff _ _).mp parsed
        cases fraction with
        | some fraction => simp at unmarked
        | none =>
            obtain ⟨rfl, notPoint⟩ := (read_fraction_none_iff _ _).mp fractionRead
            obtain ⟨rfl, notLower, notUpper⟩ := (read_exponent_none_iff _ _).mp exponentRead
            obtain ⟨ends, digits, rfl, rfl⟩ := (read_whole_iff _ _ _).mp wholeRead
            rw [absorb_digits_iff _ _ _ (by decide), Nat.ofDigitChars_ten_toDigits] at absorbed
            obtain ⟨rfl, bounded⟩ := absorbed
            exact ⟨positive, rfl, bounded,
              (continues_number_iff _).mpr ⟨ends, notPoint, notLower, notUpper⟩⟩
  · rintro ⟨rfl, rfl, bounded, ends⟩
    obtain ⟨ends, notPoint, notLower, notUpper⟩ := (continues_number_iff _).mp ends
    have wholeRead := (read_whole_iff (Nat.toDigits 10 number ++ rest) _ rest).mpr
      ⟨ends, number, rfl, rfl⟩
    have fractionRead := (read_fraction_none_iff rest rest).mpr ⟨rfl, notPoint⟩
    have exponentRead := (read_exponent_none_iff rest rest).mpr ⟨rfl, notLower, notUpper⟩
    have absorbed := (absorb_digits_iff (Nat.toDigits 10 number) 0 number (by decide)).mpr
      ⟨Nat.ofDigitChars_ten_toDigits, bounded⟩
    simp only [readNumber, wholeRead, fractionRead, exponentRead, ok_bind]
    exact (finish_number_iff _ _ _ _ _).mpr
      ⟨(of_parts_eq_natural_iff _ _).mpr ⟨rfl, rfl, absorbed⟩, rfl⟩

/-- A value is read as a natural exactly from its decimal digits, standing alone. -/
theorem read_value_natural_iff (depth : Nat) (text : List Char) (number : Nat)
    (rest : List Char) :
    readValue depth text = .ok (.num (.natural number), rest) ↔
      skipSpace text = Nat.toDigits 10 number ++ rest ∧ number < 2 ^ 64 ∧
        continuesNumber rest = false := by
  constructor
  · intro read
    unfold readValue at read
    cases start : skipSpace text with
    | nil => simp [start] at read
    | cons c more =>
        simp only [start] at read
        split_ifs at read with null true false minus digit quote bracket brace
        · simp [bind_eq_ok_iff] at read
        · simp [bind_eq_ok_iff] at read
        · simp [bind_eq_ok_iff] at read
        · obtain ⟨⟨value, _⟩, parsed, same⟩ := (bind_eq_ok_iff _ _ _).mp read
          cases same
          exact absurd ((read_number_natural_iff _ _ _ _).mp parsed).1 (by decide)
        · obtain ⟨⟨value, _⟩, parsed, same⟩ := (bind_eq_ok_iff _ _ _).mp read
          cases same
          exact ((read_number_natural_iff _ _ _ _).mp parsed).2
        · simp [bind_eq_ok_iff] at read
        · cases depth <;> simp [bind_eq_ok_iff] at read
        · cases depth <;> simp [bind_eq_ok_iff] at read
  · rintro ⟨start, bounded, ends⟩
    obtain ⟨c, digits, head⟩ : ∃ c digits, Nat.toDigits 10 number = c :: digits :=
      List.exists_cons_of_ne_nil Nat.toDigits_ne_nil
    have digit := digit_of_mem_toDigits number c (by simp [head])
    have read := (read_number_natural_iff false _ number rest).mpr ⟨rfl, rfl, bounded, ends⟩
    rw [head, List.cons_append] at start read
    unfold readValue
    rw [start]
    have other (d : Char) (outside : isDigit d = false) : c ≠ d := by
      rintro rfl
      rw [digit] at outside
      cases outside
    simp only [if_neg (other 'n' rfl), if_neg (other 't' rfl), if_neg (other 'f' rfl),
      if_neg (other '-' rfl), if_pos digit, read, ok_bind]

end FlagBoard.Json
