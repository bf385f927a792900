import FlagBoard.Proofs.Json.Literals
import Mathlib

/-!
Numbers as they are written. Whatever is written for a number is a number of the grammar, perhaps
behind a minus. What it is read back as does not depend on the text behind it: it is one number,
mostly the one that was written, or none where the digits go past the greatest finite number.
-/

namespace FlagBoard.Json

section Reading

variable {text behind rest : List Char}

theorem take_digits_of_digits (digits : Digits text behind) (ends : startsDigit behind = false) :
    ∃ first others, takeDigits text = (first :: others, behind) := by
  obtain ⟨taken, some, all, rfl⟩ := digits
  obtain ⟨c, more, rfl⟩ := List.exists_cons_of_ne_nil some
  exact ⟨_, _, take_digits_append _ behind all ends⟩

theorem whole_reads (whole : Whole text behind) (ends : startsDigit behind = false) :
    ∃ digits, readWhole text = .ok (digits, behind) := by
  rcases whole with rfl | ⟨notZero, taken, some, all, rfl⟩
  · exact ⟨_, (read_whole_iff _ _ _).mpr ⟨ends, 0, rfl, rfl⟩⟩
  · obtain ⟨c, more, rfl⟩ := List.exists_cons_of_ne_nil some
    have first : c ≠ '0' := fun same => notZero (congrArg Option.some same)
    exact ⟨_, (read_whole_iff _ _ _).mpr
      ⟨ends, _, congrArg (· ++ behind) (to_digits_of_digits c more first all), rfl⟩⟩

theorem fraction_reads (fraction : Fraction text behind) (noDigit : startsDigit behind = false)
    (noPoint : behind.head? ≠ some '.') : ∃ digits, readFraction text = .ok (digits, behind) := by
  rcases fraction with rfl | ⟨start, rfl, digits⟩
  · exact ⟨none, (read_fraction_none_iff _ _).mpr ⟨rfl, noPoint⟩⟩
  · obtain ⟨first, others, taken⟩ := take_digits_of_digits digits noDigit
    exact ⟨_, by rw [readFraction, taken]⟩

/-- Digits begin with no sign, so the sign of an exponent is taken from in front of them. -/
theorem take_sign_of_digits {start : List Char}
    (sign : start = text ∨ start = '+' :: text ∨ start = '-' :: text)
    (digits : Digits text behind) : (takeSign start).2 = text := by
  rcases sign with rfl | rfl | rfl
  · have begins := digits_begin digits
    unfold takeSign
    split
    · cases begins
    · cases begins
    · rfl
  · rfl
  · rfl

theorem power_reads (power : Power text behind) (ends : continuesNumber behind = false) :
    ∃ exponent, readExponent text = .ok (exponent, behind) := by
  obtain ⟨noDigit, _, notLower, notUpper⟩ := (continues_number_iff behind).mp ends
  rcases power with rfl | ⟨mark, start, digits, letter, rfl, sign, all⟩
  · exact ⟨none, (read_exponent_none_iff _ _).mpr ⟨rfl, notLower, notUpper⟩⟩
  · obtain ⟨first, others, taken⟩ := take_digits_of_digits all noDigit
    rw [read_exponent_cons, if_pos letter, readPower, take_sign_of_digits sign all, taken]
    exact ⟨_, rfl⟩

/-- The number of the digits that were read; an exponent is its sign and its digits. -/
def Number.ofDigits (negative : Bool) (whole : List Nat) (fraction : Option (List Nat))
    (exponent : Option (Bool × List Nat)) : Option Number :=
  let finish (power : Int) : Option Number :=
    ofParts ⟨negative, whole, fraction.getD [], power, fraction.isSome || exponent.isSome⟩
  match exponent with
  | none => finish 0
  | some (below, digits) =>
      match exponentValue 0 0 digits with
      | .inl power => finish (if below then -(power : Int) else power)
      | .inr _ =>
          if below then finish (-(exponentLimit : Int))
          else if (whole ++ fraction.getD []).all (· == 0) then finish 0
          else none

theorem finish_number_toOption (parts : Number.Parts) (fault : Fault) (behind : List Char) :
    (match Number.ofParts parts with
      | some number => Except.ok (number, behind)
      | none => .error fault).toOption =
      (Number.ofParts parts).map fun number => (number, behind) := by
  cases Number.ofParts parts <;> rfl

theorem read_number_of_pieces (negative : Bool) {afterWhole afterFraction : List Char}
    {whole : List Nat} {fraction : Option (List Nat)} {exponent : Option Exponent}
    (wholeRead : readWhole text = .ok (whole, afterWhole))
    (fractionRead : readFraction afterWhole = .ok (fraction, afterFraction))
    (exponentRead : readExponent afterFraction = .ok (exponent, behind)) :
    (readNumber negative text).toOption =
      (Number.ofDigits negative whole fraction
        (exponent.map fun exponent => (exponent.negative, exponent.digits))).map
          fun number => (number, behind) := by
  simp only [readNumber, wholeRead, fractionRead, exponentRead, ok_bind, Number.ofDigits]
  cases exponent with
  | none => exact finish_number_toOption _ _ _
  | some exponent =>
      dsimp only [Option.map_some]
      cases exponentValue 0 0 exponent.digits with
      | inl power => exact finish_number_toOption _ _ _
      | inr count =>
          dsimp only
          split_ifs
          · exact finish_number_toOption _ _ _
          · exact finish_number_toOption _ _ _
          · rfl

/-- A number of the grammar is read as the same number, or as none, whatever stands behind it. -/
theorem read_literal {literal : List Char} (number : Unsigned literal []) (negative : Bool)
    (ends : continuesNumber rest = false) :
    (readNumber negative (literal ++ rest)).toOption =
      (readNumber negative literal).toOption.map fun read => (read.1, rest) := by
  obtain ⟨afterWhole, afterFraction, whole, fraction, power⟩ := number
  obtain ⟨noDigit, noPoint⟩ := power_begins power rfl
  have noDigitBefore : startsDigit afterWhole = false := by
    rcases fraction with rfl | ⟨digits, rfl, _⟩
    · exact noDigit
    · rfl
  obtain ⟨digits, wholeRead⟩ := whole_reads whole noDigitBefore
  obtain ⟨places, fractionRead⟩ := fraction_reads fraction noDigit noPoint
  obtain ⟨exponent, exponentRead⟩ := power_reads power rfl
  have alone := read_number_of_pieces negative wholeRead fractionRead exponentRead
  have longer := read_number_of_pieces negative
    (read_whole_longer wholeRead ((continues_number_iff rest).mp ends).1)
    (read_fraction_longer fractionRead ends) (read_exponent_longer exponentRead ends)
  rw [longer, alone, Option.map_map, Option.map_map]
  rfl

end Reading

section Writing

theorem digits_alone {digits : List Char} (some : digits ≠ [])
    (all : ∀ c ∈ digits, isDigit c = true) : Digits digits [] :=
  ⟨digits, some, all, (List.append_nil _).symm⟩

theorem zero_alone : Digits ['0'] [] := by
  refine digits_alone (by simp) ?_
  intro c member
  rw [List.mem_singleton.mp member]
  rfl

theorem natural_unsigned (number : Nat) : Unsigned (Nat.toDigits 10 number) [] :=
  ⟨[], [], whole_of_read ((read_whole_iff _ _ _).mpr ⟨rfl, number, (List.append_nil _).symm, rfl⟩),
    .inl rfl, .inl rfl⟩

/-- The digits of a number in its shortest form, without zeros at the end: they do not begin with a
zero, and there are none only for the number that stands for itself as a zero. -/
structure Significant (digits : List Char) (first : Int) : Prop where
  all : ∀ c ∈ digits, isDigit c = true
  head : digits.head? ≠ some '0'
  first : digits = [] → first = 0

namespace Binary64

variable {digits : List Char} {first : Int}

theorem plain_unsigned (significant : Significant digits first) :
    Unsigned (plain digits first) [] := by
  have zeros (count : Nat) : ∀ c ∈ List.replicate count '0', isDigit c = true := by
    intro c member
    rw [List.eq_of_mem_replicate member]
    rfl
  unfold plain
  split
  case isTrue below =>
      have some : digits ≠ [] := by
        intro none
        rw [significant.first none] at below
        exact absurd below (by decide)
      refine ⟨'.' :: (List.replicate (first.natAbs - 1) '0' ++ digits), [], .inl rfl,
        .inr ⟨_, rfl, digits_alone (by simp [some]) ?_⟩, .inl rfl⟩
      intro c member
      rcases List.mem_append.mp member with zero | digit
      · exact zeros _ c zero
      · exact significant.all c digit
  case isFalse =>
      dsimp only
      generalize size : first.toNat + 1 = whole
      generalize filled : digits ++ List.replicate (whole - digits.length) '0' = padded
      have padding : ∀ c ∈ padded, isDigit c = true := by
        intro c member
        rw [← filled] at member
        rcases List.mem_append.mp member with digit | zero
        · exact significant.all c digit
        · exact zeros _ c zero
      have fraction : Fraction ('.' :: if (padded.drop whole).isEmpty then ['0']
          else padded.drop whole) [] := by
        refine .inr ⟨_, rfl, ?_⟩
        split
        case isTrue => exact zero_alone
        case isFalse some =>
            exact digits_alone (by simpa using some) fun c member =>
              padding c (List.mem_of_mem_drop member)
      rw [List.append_assoc]
      refine ⟨_, [], ?_, fraction, .inl rfl⟩
      cases digits with
      | nil =>
          rw [significant.first rfl] at size
          subst size filled
          exact .inl rfl
      | cons c more =>
          subst size filled
          refine .inr ⟨significant.head, _, ?_, fun other member =>
            padding other (List.mem_of_mem_take member), rfl⟩
          simp

/-- Digits with zeros in front of them are digits. -/
theorem pad_zeros_digits {digits : List Char} (length : Nat) (some : digits ≠ [])
    (all : ∀ c ∈ digits, isDigit c = true) : Digits (padZeros length digits) [] := by
  refine digits_alone (by simp [padZeros, some]) ?_
  intro c member
  rcases List.mem_append.mp member with zero | digit
  · rw [List.eq_of_mem_replicate zero]
    rfl
  · exact all c digit

theorem scientific_unsigned (significant : Significant digits first) (some : digits ≠ []) :
    Unsigned (scientific digits first) [] := by
  obtain ⟨c, more, rfl⟩ := List.exists_cons_of_ne_nil some
  have power : Power ('e' :: (if first < 0 then '-' else '+') ::
      padZeros format.exponentDigits (Nat.toDigits 10 first.natAbs)) [] := by
    have digits := pad_zeros_digits format.exponentDigits Nat.toDigits_ne_nil
      (digit_of_mem_toDigits first.natAbs)
    refine .inr ⟨'e', _, _, .inl rfl, rfl, ?_, digits⟩
    split
    · exact .inr (.inr rfl)
    · exact .inr (.inl rfl)
  have whole (behind : List Char) : Whole (c :: behind) behind :=
    .inr ⟨significant.head, [c], by simp, by simpa using significant.all c (by simp), rfl⟩
  have text : scientific (c :: more) first =
      c :: ((if more.isEmpty then [] else '.' :: more) ++ 'e' :: (if first < 0 then '-' else '+') ::
        padZeros format.exponentDigits (Nat.toDigits 10 first.natAbs)) := by
    simp [scientific]
  rw [text]
  refine ⟨_, _, whole _, ?_, power⟩
  cases more with
  | nil => exact .inl rfl
  | cons d more =>
      exact .inr ⟨_, rfl, d :: more, by simp, fun other member =>
        significant.all other (List.mem_cons_of_mem c member), rfl⟩

/-- Only the number that stands for itself has no digits but zeros. -/
theorem shortest_of_zero (number : Binary64) (some : number.mantissa ≠ 0)
    (zero : number.shortest.digits = 0) : number.shortest = ⟨0, 0⟩ := by
  unfold shortest at zero ⊢
  dsimp only at zero ⊢
  cases found : (List.range 17).findSome? fun (more : Nat) =>
      (neighbours number (firstPlace number.ratio - (more : Int))).head? with
  | none => rfl
  | some decimal =>
      rw [found, Option.getD_some] at zero
      obtain ⟨_, _, head⟩ := List.exists_of_findSome?_eq_some found
      have back := (List.mem_filter.mp (List.mem_of_mem_head? head)).2
      -- A zero is rounded to zero, which is another number.
      have above (power : Int) : (Ratio.scale ⟨0, 1⟩ 10 power).above = 0 := by
        unfold Ratio.scale
        split
        · rfl
        · exact Nat.zero_mul _
      rw [zero, round, if_pos (above _)] at back
      exact absurd (congrArg Binary64.mantissa (Option.some.inj (of_decide_eq_true back))).symm some

theorem shortest_significant (number : Binary64) (some : number.mantissa ≠ 0) :
    let all := Nat.toDigits 10 number.shortest.digits
    Significant (all.rdropWhile (· == '0')) (number.shortest.power + (all.length : Int) - 1) := by
  intro all
  have kept := List.rdropWhile_prefix (· == '0') all
  have digits : ∀ c ∈ all, isDigit c = true := digit_of_mem_toDigits _
  rcases Nat.eq_zero_or_pos number.shortest.digits with zero | positive
  · have same : all = ['0'] := by simp [all, zero]
    have nothing : ['0'].rdropWhile (· == '0') = [] := rfl
    rw [same, nothing, shortest_of_zero number some zero]
    exact ⟨by simp, by simp, fun _ => rfl⟩
  · obtain ⟨c, more, head, notZero⟩ := to_digits_head _ positive
    have begins : all = c :: more := head
    rw [begins] at kept digits ⊢
    have left : (c :: more).rdropWhile (· == '0') ≠ [] := by
      rw [Ne, List.rdropWhile_eq_nil_iff]
      intro zeros
      exact notZero (eq_of_beq (zeros c (by simp)))
    refine ⟨fun d member => digits d (kept.subset member), ?_, fun none => absurd none left⟩
    obtain ⟨d, others, same⟩ := List.exists_cons_of_ne_nil left
    rw [same] at kept ⊢
    rw [(List.cons_prefix_cons.mp kept).1]
    simpa using notZero

theorem text_unsigned (number : Binary64) :
    ∃ literal, Unsigned literal [] ∧
      number.text.toList = (if number.negative then ['-'] else []) ++ literal := by
  unfold text
  dsimp only
  split
  case isTrue =>
      exact ⟨['0', '.', '0'], ⟨_, [], .inl rfl, .inr ⟨_, rfl, zero_alone⟩, .inl rfl⟩,
        String.toList_ofList⟩
  case isFalse mark =>
      have some : number.mantissa ≠ 0 := by simpa [isZero] using mark
      have significant := shortest_significant number some
      refine ⟨_, ?_, String.toList_ofList⟩
      split
      case isTrue => exact plain_unsigned significant
      case isFalse far =>
          refine scientific_unsigned significant ?_
          intro none
          rw [significant.first none] at far
          exact far (by decide)

end Binary64

theorem number_text_unsigned (number : Number) :
    ∃ literal, Unsigned literal [] ∧
      (number.text.toList = literal ∨ number.text.toList = '-' :: literal) := by
  cases number with
  | natural size => exact ⟨_, natural_unsigned size, .inl (by simp [Number.text])⟩
  | negative size => exact ⟨_, natural_unsigned size, .inr (by simp [Number.text])⟩
  | floating size =>
      obtain ⟨literal, unsigned, text⟩ := Binary64.text_unsigned size
      refine ⟨literal, unsigned, ?_⟩
      rw [Number.text, text]
      cases size.negative
      · exact .inl rfl
      · exact .inr rfl

end Writing

end FlagBoard.Json
