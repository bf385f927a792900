import FlagBoard.Proofs.Json.Digits
import FlagBoard.Proofs.Text.Ends
import FlagBoard.Team.Vpn
import Mathlib

/-!
The number of a slot and the name of its file. An id has a number if a byte can hold what is spelled
behind its first underscore, and that number is all that goes into the name, so that a name is never
more than that of a file.
-/

namespace FlagBoard

/-- Decimal digits of a number that a byte can hold. Zeros may stand in front. -/
structure ByteDigits (digits : List Char) (number : Nat) : Prop where
  some : digits ≠ []
  decimal : ∀ c ∈ digits, c.isDigit = true
  value : Nat.ofDigitChars 10 digits 0 = number
  small : number ≤ 255

/-- The number of a slot, from its id: the digits behind the first underscore, with a plus sign
before them or not. -/
def Numbered (id : String) (number : Nat) : Prop :=
  ∃ before sign digits, id.toList = before ++ '_' :: (sign ++ digits) ∧ '_' ∉ before ∧
    (sign = [] ∨ sign = ['+']) ∧ ByteDigits digits number

def slotFile (number : Nat) : String := "conn_" ++ toString number ++ ".conf"

/-- A name that leads nowhere else: it has no separators of a path, and no two dots in a row. -/
structure Tame (name : String) : Prop where
  slash : '/' ∉ name.toList
  backslash : '\\' ∉ name.toList
  dots : ¬ ['.', '.'] <:+: name.toList

theorem after_underscore_iff (text rest : List Char) :
    afterUnderscore text = some rest ↔
      ∃ before, text = before ++ '_' :: rest ∧ '_' ∉ before := by
  unfold afterUnderscore
  constructor
  · intro found
    by_cases present : '_' ∈ text
    · obtain ⟨before, behind, rfl, absent⟩ := split_at_mark present
      rw [drop_to_mark absent] at found
      obtain rfl := Option.some.inj found
      exact ⟨before, rfl, absent⟩
    · rw [List.dropWhile_eq_nil_iff.mpr (passes_absent present)] at found
      cases found
  · rintro ⟨before, rfl, absent⟩
    rw [drop_to_mark absent]

theorem fold_digits (digits : List Char) (start : Nat) :
    digits.foldl (fun number c => number * 10 + Json.digitValue c) start =
      Nat.ofDigitChars 10 digits start := by
  induction digits generalizing start with
  | nil => rfl
  | cons c digits induction =>
      rw [List.foldl_cons, induction, Nat.ofDigitChars_cons, Nat.mul_comm]
      rfl

theorem byte_digits_iff (digits : List Char) (number : Nat) :
    (if digits.isEmpty || !digits.all Json.isDigit then none
      else
        let value := digits.foldl (fun number c => number * 10 + Json.digitValue c) 0
        if value ≤ 255 then some value else none) = some number ↔ ByteDigits digits number := by
  have decimal : digits.all Json.isDigit = true ↔ ∀ c ∈ digits, c.isDigit = true :=
    List.all_eq_true
  rw [fold_digits]
  constructor
  · intro read
    split at read
    · cases read
    next digit =>
      dsimp only at read
      split at read
      next small =>
        obtain rfl := Option.some.inj read
        simp only [Bool.or_eq_true, Bool.not_eq_true', not_or, Bool.not_eq_false,
          List.isEmpty_iff] at digit
        exact ⟨digit.1, decimal.mp digit.2, rfl, small⟩
      · cases read
  · rintro ⟨some, all, rfl, small⟩
    simp [some, decimal.mpr all, small]

theorem read_byte_iff (text : List Char) (number : Nat) :
    readByte text = some number ↔ ∃ sign digits, text = sign ++ digits ∧
      (sign = [] ∨ sign = ['+']) ∧ ByteDigits digits number := by
  unfold readByte
  split
  next rest =>
    rw [byte_digits_iff]
    constructor
    · intro spelled
      exact ⟨['+'], rest, rfl, .inr rfl, spelled⟩
    · rintro ⟨sign, digits, split, rfl | rfl, spelled⟩
      · obtain rfl : '+' :: rest = digits := split
        have plus := spelled.decimal '+' (by simp)
        cases plus
      · rwa [(List.cons.inj split).2]
  next plain =>
    rw [byte_digits_iff]
    constructor
    · intro spelled
      exact ⟨[], text, rfl, .inl rfl, spelled⟩
    · rintro ⟨sign, digits, rfl, rfl | rfl, spelled⟩
      · exact spelled
      · exact absurd rfl (plain digits)

/-- Which ids have a file, and which file that is. -/
theorem config_file_name_iff (id name : String) :
    configFileName id = some name ↔ ∃ number, Numbered id number ∧ name = slotFile number := by
  simp only [configFileName, Option.bind_eq_bind, Option.bind_eq_some_iff, Option.some_inj,
    after_underscore_iff, read_byte_iff]
  constructor
  · rintro ⟨text, ⟨before, split, absent⟩, number, ⟨sign, digits, rfl, signed, spelled⟩, rfl⟩
    exact ⟨number, ⟨before, sign, digits, split, absent, signed, spelled⟩, rfl⟩
  · rintro ⟨number, ⟨before, sign, digits, split, absent, signed, spelled⟩, rfl⟩
    exact ⟨_, ⟨before, split, absent⟩, number, ⟨sign, digits, rfl, signed, spelled⟩, rfl⟩

theorem slot_file_chars (number : Nat) :
    (slotFile number).toList = "conn_".toList ++ Nat.toDigits 10 number ++ ".conf".toList := by
  simp [slotFile]

theorem slot_file_injective {number other : Nat} (same : slotFile number = slotFile other) :
    number = other := by
  have digits := congrArg String.toList same
  rw [slot_file_chars, slot_file_chars, List.append_cancel_right_eq,
    List.append_cancel_left_eq] at digits
  have readBack : Function.LeftInverse (Nat.ofDigitChars 10 · 0) (Nat.toDigits 10) :=
    fun _ => Nat.ofDigitChars_ten_toDigits
  exact readBack.injective digits

/-- An id has one number at most. -/
theorem Numbered.unique {id : String} {number other : Nat} (first : Numbered id number)
    (second : Numbered id other) : number = other := by
  -- The digits need not be the same text twice, but the file is one.
  have named := (config_file_name_iff id _).mpr ⟨number, first, rfl⟩
  have again := (config_file_name_iff id _).mpr ⟨other, second, rfl⟩
  exact slot_file_injective (Option.some.inj (named.symm.trans again))

theorem tame_slot_file (number : Nat) : Tame (slotFile number) := by
  -- Digits are none of the marks, so the name has as many of each as stand around the number:
  -- one dot, which is too few for two in a row.
  have counted (c : Char) (marked : c.isDigit = false) :
      (slotFile number).toList.count c = "conn_.conf".toList.count c := by
    have absent : (Nat.toDigits 10 number).count c = 0 := by
      rw [List.count_eq_zero]
      intro member
      have digit : c.isDigit = true := Json.digit_of_mem_toDigits number c member
      rw [marked] at digit
      cases digit
    have ends : "conn_.conf".toList = "conn_".toList ++ ".conf".toList := by rfl
    rw [slot_file_chars, ends, List.count_append, List.count_append, List.count_append, absent,
      Nat.add_zero]
  constructor
  · rw [← List.count_eq_zero, counted '/' (by decide)]
    decide
  · rw [← List.count_eq_zero, counted '\\' (by decide)]
    decide
  · intro twice
    have least := twice.sublist.count_le '.'
    rw [counted '.' (by decide)] at least
    revert least
    decide

/-- The text behind the underscore of an id in plain form. -/
theorem after_underscore_plain (number : Nat) :
    afterUnderscore ("conn_" ++ toString number).toList = some (Nat.toDigits 10 number) := by
  rw [after_underscore_iff]
  exact ⟨"conn".toList, by simp, by decide⟩

/-- An id in plain form has its own number, if a byte can hold that, and no other. -/
theorem numbered_plain (number other : Nat) :
    Numbered ("conn_" ++ toString number) other ↔ other = number ∧ number ≤ 255 := by
  constructor
  · rintro ⟨before, sign, digits, split, absent, signed, spelled⟩
    have behind := (after_underscore_iff _ _).mpr ⟨before, split, absent⟩
    rw [after_underscore_plain, Option.some.injEq] at behind
    have bare : sign = [] := by
      rcases signed with rfl | rfl
      · rfl
      · have digit := Json.digit_of_mem_toDigits number '+' (by rw [behind]; simp)
        cases digit
    rw [bare, List.nil_append] at behind
    have value := spelled.value
    rw [← behind, Nat.ofDigitChars_ten_toDigits] at value
    rw [value]
    exact ⟨rfl, spelled.small⟩
  · rintro ⟨rfl, small⟩
    refine ⟨"conn".toList, [], Nat.toDigits 10 other, by simp, by decide, .inl rfl, ?_⟩
    exact ⟨Nat.toDigits_ne_nil, Json.digit_of_mem_toDigits other, Nat.ofDigitChars_ten_toDigits,
      small⟩

theorem config_file_name_plain (number : Nat) :
    configFileName ("conn_" ++ toString number) =
      if number ≤ 255 then some (slotFile number) else none := by
  split
  next small =>
    have numbered := (numbered_plain number number).mpr ⟨rfl, small⟩
    exact (config_file_name_iff _ _).mpr ⟨number, numbered, rfl⟩
  next large =>
    rw [Option.eq_none_iff_forall_ne_some]
    intro name found
    obtain ⟨other, numbered, _⟩ := (config_file_name_iff _ _).mp found
    exact large ((numbered_plain _ _).mp numbered).2

end FlagBoard
