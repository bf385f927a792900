import FlagBoard.Proofs.Json.Rereading
import FlagBoard.Proofs.Json.Rounding
import Mathlib

/-!
How great a number may be. The digits that fit 64 bits are rounded and scaled by a power of ten,
which is rounded too, so the product may lie a little to either side of what the text says. A text
that says 2 ^ 1024 - 3 * 2 ^ 971 at most is read, and one that says 2 ^ 1024 + 2 ^ 972 or more is
not; the numbers between the two lie next to the greatest finite one.
-/

namespace FlagBoard.Json

namespace Number

open Binary64

section Digits

/-- A number with further digits behind it. -/
def joined (number : Nat) (digits : List Nat) : Nat :=
  digits.foldl (fun number digit => number * 10 + digit) number

theorem joined_append (number : Nat) (first second : List Nat) :
    joined number (first ++ second) = joined (joined number first) second :=
  List.foldl_append

variable {number taken left : Nat} {digits : List Nat}

theorem joined_bounds (decimal : ∀ digit ∈ digits, digit < 10) :
    number * 10 ^ digits.length ≤ joined number digits ∧
      joined number digits < (number + 1) * 10 ^ digits.length := by
  induction digits generalizing number with
  | nil => simp [joined]
  | cons digit digits induction =>
      have small := decimal digit (by simp)
      obtain ⟨low, high⟩ := @induction (number * 10 + digit)
        (by intro other member; exact decimal other (by simp [member]))
      have first : number * 10 ^ (digits.length + 1) = number * 10 * 10 ^ digits.length := by ring
      have last : (number + 1) * 10 ^ (digits.length + 1) =
          (number * 10 + 10) * 10 ^ digits.length := by ring
      rw [List.length_cons, first, last]
      constructor
      · exact (Nat.mul_le_mul_right _ (by omega)).trans low
      · exact high.trans_le (Nat.mul_le_mul_right _ (by omega))

/-- The same for a number with a decimal point somewhere. -/
theorem joined_scaled (decimal : ∀ digit ∈ digits, digit < 10) (power : Int) :
    (number : ℚ) * 10 ^ (power + digits.length) ≤ joined number digits * 10 ^ power ∧
      (joined number digits : ℚ) * 10 ^ power < (number + 1) * 10 ^ (power + digits.length) := by
  obtain ⟨low, high⟩ := @joined_bounds number digits decimal
  have positive : (0 : ℚ) < 10 ^ power := by positivity
  rw [add_comm, zpow_add₀ (by norm_num), zpow_natCast, ← mul_assoc, ← mul_assoc]
  constructor
  · gcongr
    exact_mod_cast low
  · gcongr
    exact_mod_cast high

/-- Digits are taken from the front. Some are left only where there are 60 bits and more. -/
theorem absorb_splits (decimal : ∀ digit ∈ digits, digit < 10) (fits : number < 2 ^ 64)
    (absorbed : absorb number digits = (taken, left)) :
    taken < 2 ^ 64 ∧ (left = 0 ∨ 2 ^ 60 ≤ taken) ∧ ∃ used rest, digits = used ++ rest ∧
      rest.length = left ∧ taken = joined number used := by
  induction digits generalizing number with
  | nil =>
      cases absorbed
      exact ⟨fits, .inl rfl, [], [], rfl, rfl, rfl⟩
  | cons digit digits induction =>
      have small := decimal digit (by simp)
      rw [absorb] at absorbed
      split_ifs at absorbed with more
      · obtain ⟨bounded, full, used, rest, rfl, behind, same⟩ := induction
          (by intro other member; exact decimal other (by simp [member])) more absorbed
        exact ⟨bounded, full, digit :: used, rest, rfl, behind, same⟩
      · cases absorbed
        exact ⟨fits, .inr (by omega), [], digit :: digits, rfl, rfl, rfl⟩

end Digits

section Parts

variable {parts : Parts}

/-- What the parts stand for. -/
def Parts.size (parts : Parts) : ℚ :=
  joined 0 (parts.whole ++ parts.fraction) * 10 ^ (parts.exponent - parts.fraction.length)

/-- The digits that are taken, and the power of ten that they are scaled by. -/
def Parts.gathered (parts : Parts) : Nat × Int :=
  let (taken, left) := absorb 0 parts.whole
  let (digits, dropped) := absorb taken parts.fraction
  (digits, (left : Int) - ((parts.fraction.length - dropped : Nat) : Int) + parts.exponent)

theorem close_of_between {taken first second unit : ℚ} (full : 2 ^ 60 ≤ taken) (positive : 0 < unit)
    (left : taken * unit ≤ first ∧ first < (taken + 1) * unit)
    (right : taken * unit ≤ second ∧ second < (taken + 1) * unit) :
    |first - second| ≤ second / 2 ^ 60 := by
  have apart : |first - second| ≤ unit := by
    rw [abs_le]
    constructor
    · linarith
    · linarith
  have large : unit ≤ second / 2 ^ 60 := by
    rw [le_div_iff₀ (by norm_num), mul_comm]
    exact (mul_le_mul_of_nonneg_right full positive.le).trans right.1
  exact apart.trans large

/-- Digits that are left behind 60 bits matter less than a 2 ^ 60th. -/
theorem cut_close {number : Nat} {rest : List Nat} (decimal : ∀ digit ∈ rest, digit < 10)
    (full : rest.length = 0 ∨ 2 ^ 60 ≤ number) (power : Int) :
    |(number : ℚ) * 10 ^ (power + rest.length) - joined number rest * 10 ^ power| ≤
      joined number rest * 10 ^ power / 2 ^ 60 := by
  rcases full with none | full
  · have nothing : rest = [] := List.eq_nil_of_length_eq_zero none
    have same : joined number [] = number := rfl
    rw [nothing, same, List.length_nil, Nat.cast_zero, add_zero, sub_self, abs_zero]
    positivity
  · have positive : (0 : ℚ) < 10 ^ (power + rest.length) := by positivity
    have more : (number : ℚ) < number + 1 := lt_add_one _
    exact close_of_between (by exact_mod_cast full) positive ⟨le_refl _, by gcongr⟩
      (joined_scaled decimal power)

/-- The digits that are taken stand for nearly as much as all the digits. -/
theorem gathered_close (decimal : ∀ digit ∈ parts.whole ++ parts.fraction, digit < 10) :
    parts.gathered.1 < 2 ^ 64 ∧
      |parts.gathered.1 * (10 : ℚ) ^ parts.gathered.2 - parts.size| ≤ parts.size / 2 ^ 60 := by
  obtain ⟨negative, whole, fraction, exponent, scientific⟩ := parts
  dsimp only at decimal
  obtain ⟨taken, left, wholeTaken⟩ : ∃ taken left, absorb 0 whole = (taken, left) := ⟨_, _, rfl⟩
  obtain ⟨digits, dropped, fractionTaken⟩ : ∃ digits dropped,
      absorb taken fraction = (digits, dropped) := ⟨_, _, rfl⟩
  obtain ⟨fits, full, used, rest, rfl, rfl, joinedWhole⟩ := absorb_splits
    (fun digit member => decimal digit (List.mem_append_left _ member)) (by decide) wholeTaken
  obtain ⟨bounded, more, places, others, rfl, rfl, joinedPlaces⟩ := absorb_splits
    (fun digit member => decimal digit (List.mem_append_right _ member)) fits fractionTaken
  have point : (places ++ others).length - others.length = places.length := by
    rw [List.length_append, Nat.add_sub_cancel]
  simp only [Parts.gathered, wholeTaken, fractionTaken, point, Parts.size, List.append_assoc]
  rw [joined_append, ← joinedWhole]
  refine ⟨bounded, ?_⟩
  rcases full with none | full
  · have close := cut_close (fun digit member => decimal digit (by simp [member])) more
      (exponent - ((places ++ others).length : Int))
    have power : exponent - ((places ++ others).length : Int) + others.length =
        (rest.length : Int) - places.length + exponent := by
      rw [none, List.length_append]
      push_cast
      ring
    have nothing : rest = [] := List.eq_nil_of_length_eq_zero none
    rw [power, nothing] at close
    rw [nothing, List.nil_append, joined_append, ← joinedPlaces]
    exact close
  · -- Some whole digits are left, yet digits of the fraction may fit.
    have first := @joined_scaled taken places (fun digit member => decimal digit (by simp [member]))
      ((rest.length : Int) - places.length + exponent)
    have second := @joined_scaled taken (rest ++ (places ++ others))
      (fun digit member => decimal digit (by simp_all))
      (exponent - ((places ++ others).length : Int))
    have firstPower : (rest.length : Int) - places.length + exponent + places.length =
        rest.length + exponent := by ring
    have secondPower : exponent - ((places ++ others).length : Int) +
        ((rest ++ (places ++ others)).length : Int) = rest.length + exponent := by
      simp only [List.length_append]
      push_cast
      ring
    rw [firstPower] at first
    rw [secondPower] at second
    rw [joinedPlaces]
    exact close_of_between (by exact_mod_cast full) (by positivity) first second

theorem ten_close {power : Nat} (small : power ≤ 308) :
    ∃ ten, Binary64.ofNat (Nat.pow 10 power) = some ten ∧
      |ten.size - 10 ^ power| ≤ 10 ^ power / 2 ^ 53 := by
  have bounded : ((10 ^ power : Nat) : ℚ) < brink := by
    have greatest : (10 : Nat) ^ 308 + 2 ^ 970 < 2 ^ 1024 := by decide +kernel
    have less : (10 : ℚ) ^ 308 + 2 ^ 970 < 2 ^ 1024 := by exact_mod_cast greatest
    have order : (10 : ℚ) ^ power ≤ 10 ^ 308 := pow_le_pow_right₀ (by norm_num) small
    rw [Nat.cast_pow, Nat.cast_ofNat, brink, zpow_ofNat, zpow_ofNat, lt_sub_iff_add_lt]
    exact (add_le_add_left order _).trans_lt less
  have close := ofNat_finite (Nat.pow_pos (by decide : 0 < 10)) bounded
  simp only [Nat.cast_pow, Nat.cast_ofNat] at close
  exact close

end Parts

section Scaling

variable {start : Binary64} {power : Int}

theorem ten_le (far : 308 < power) : 2 ^ (1025 : Int) ≤ (10 : ℚ) ^ power := by
  have greater : (2 : Nat) ^ 1025 ≤ 10 ^ 309 := by decide +kernel
  have order : (2 : ℚ) ^ 1025 ≤ 10 ^ 309 := by exact_mod_cast greater
  calc (2 : ℚ) ^ (1025 : Int) = 2 ^ 1025 := zpow_ofNat _ _
    _ ≤ 10 ^ 309 := order
    _ = 10 ^ (309 : Int) := (zpow_ofNat _ _).symm
    _ ≤ 10 ^ power := zpow_le_zpow_right₀ (by norm_num) (by omega)

theorem size_times_ten_le (far : 308 < power) (least : 1 / 2 ≤ start.size) :
    2 ^ (1024 : Int) ≤ start.size * 10 ^ power := by
  have next : (2 : ℚ) ^ (1025 : Int) = 2 ^ (1024 : Int) * 2 := zpow_add_one₀ (by norm_num) 1024
  have large := ten_le far
  rw [next] at large
  calc (2 : ℚ) ^ (1024 : Int) = 1 / 2 * (2 ^ (1024 : Int) * 2) := by ring
    _ ≤ start.size * 10 ^ power := by gcongr

/-- Dividing by a power of ten never fails. -/
theorem ten_divides (small : power.natAbs ≤ 308) (most : start.size ≤ 2 ^ 100) :
    ∃ ten, Binary64.ofNat (Nat.pow 10 power.natAbs) = some ten ∧
      ∃ quotient, start.div ten = some quotient ∧ quotient.size ≤ 4 * start.size + 1 := by
  obtain ⟨ten, same, close⟩ := ten_close small
  have half : 1 / 2 ≤ ten.size := by
    have one : (1 : ℚ) ≤ 10 ^ power.natAbs := one_le_pow₀ (by norm_num)
    have near := (abs_le.mp close).1
    norm_num at near
    linarith
  have twice : start.size / ten.size ≤ 2 * start.size := by
    rw [div_le_iff₀ (by linarith)]
    nlinarith [start.size_nonneg]
  have finite : start.size / ten.size < brink := by
    have order : (2 : ℚ) ^ 101 ≤ 2 ^ (1023 : Int) := by
      rw [← zpow_natCast]
      exact zpow_le_zpow_right₀ (by norm_num) (by norm_num)
    have double : (2 : ℚ) ^ 101 = 2 * 2 ^ 100 := by norm_num
    calc start.size / ten.size ≤ 2 * 2 ^ 100 := by linarith
      _ = 2 ^ 101 := double.symm
      _ ≤ 2 ^ (1023 : Int) := order
      _ < brink := lt_brink
  obtain ⟨quotient, divided, size⟩ := div_finite (by linarith) finite
  exact ⟨ten, same, quotient, divided, by linarith⟩

theorem scale_finite (least : 1 / 2 ≤ start.size) (most : start.size ≤ 2 ^ 65)
    (small : start.size * 10 ^ power * (1 + 1 / 2 ^ 53) < brink) :
    ∃ scaled, scale start power = some scaled := by
  unfold scale
  dsimp only
  split_ifs with zero far above once twice
  · exact ⟨start, rfl⟩
  · have large := size_times_ten_le far least
    have less : start.size * 10 ^ power ≤ start.size * 10 ^ power * (1 + 1 / 2 ^ 53) :=
      le_mul_of_one_le_right (mul_nonneg start.size_nonneg (by positivity)) (by norm_num)
    exact absurd ((brink_lt.trans_le large).trans_le less) small.not_gt
  · obtain ⟨ten, same, close⟩ := @ten_close power.toNat (by omega)
    have whole : (10 : ℚ) ^ power = 10 ^ power.toNat := by
      rw [← zpow_natCast, Int.toNat_of_nonneg above]
    have product : start.size * ten.size < brink := by
      rw [whole] at small
      have near := (abs_le.mp close).2
      have bound : start.size * ten.size ≤ start.size * (10 ^ power.toNat * (1 + 1 / 2 ^ 53)) :=
        mul_le_mul_of_nonneg_left (by linarith) start.size_nonneg
      linarith
    rw [same]
    exact mul_finite product
  · obtain ⟨ten, same, quotient, divided, _⟩ := @ten_divides start power (by omega)
      (most.trans (by norm_num))
    rw [same]
    exact ⟨quotient, divided⟩
  · obtain ⟨ten, same, first, divided, size⟩ := @ten_divides start (-308) (by decide)
      (most.trans (by norm_num))
    obtain ⟨rest, also, second, again, _⟩ := @ten_divides first (power + 308) (by omega)
      (size.trans (by linarith))
    have left : power.natAbs - 308 = (power + 308).natAbs := by omega
    have whole : (-308 : Int).natAbs = 308 := rfl
    rw [whole] at same
    rw [same, left, also]
    simp only [Option.bind_eq_bind, Option.bind_some, divided]
    exact ⟨second, again⟩
  · exact ⟨_, rfl⟩

theorem scale_overflow (most : start.size ≤ 2 ^ 65)
    (large : brink < start.size * 10 ^ power * (1 - 1 / 2 ^ 53)) : scale start power = none := by
  have order : (2 : ℚ) ^ 65 ≤ brink := by
    refine le_trans ?_ lt_brink.le
    rw [← zpow_natCast]
    exact zpow_le_zpow_right₀ (by norm_num) (by norm_num)
  have part : start.size * 10 ^ power * (1 - 1 / 2 ^ 53) ≤ start.size * 10 ^ power :=
    mul_le_of_le_one_right (mul_nonneg start.size_nonneg (by positivity)) (by norm_num)
  have above : 0 ≤ power := by
    by_contra below
    have less : start.size * 10 ^ power ≤ start.size :=
      mul_le_of_le_one_right start.size_nonneg (zpow_le_one_of_nonpos₀ (by norm_num) (by omega))
    linarith
  have some : ¬ start.isZero = true := by
    intro zero
    have nothing : start.size = 0 := by
      rw [size, eq_of_beq zero, Nat.cast_zero, zero_mul]
    rw [nothing, zero_mul, zero_mul] at large
    have positive : (0 : ℚ) ≤ 2 ^ 65 := by norm_num
    linarith
  unfold scale
  dsimp only
  rw [if_neg some, if_pos above]
  split_ifs with far
  · rfl
  · obtain ⟨ten, same, close⟩ := @ten_close power.toNat (by omega)
    have whole : (10 : ℚ) ^ power = 10 ^ power.toNat := by
      rw [← zpow_natCast, Int.toNat_of_nonneg above]
    have product : brink < start.size * ten.size := by
      rw [whole] at large
      have near := (abs_le.mp close).1
      have bound : start.size * (10 ^ power.toNat * (1 - 1 / 2 ^ 53)) ≤ start.size * ten.size :=
        mul_le_mul_of_nonneg_left (by linarith) start.size_nonneg
      linarith
    rw [same]
    exact mul_overflow product

end Scaling

section Finite

variable {parts : Parts}

theorem of_parts_scaled (marked : (parts.scientific || (absorb 0 parts.whole).2 ≠ 0) = true) :
    ofParts parts = (Binary64.ofNat parts.gathered.1).bind fun start =>
      (scale start parts.gathered.2).bind fun size =>
        some (.floating (if parts.negative then size.negate else size)) := by
  unfold ofParts
  dsimp only
  rw [if_pos marked]
  rfl

theorem start_close {digits : Nat} (positive : 0 < digits) (bounded : digits < 2 ^ 64) :
    ∃ start, Binary64.ofNat digits = some start ∧ |start.size - digits| ≤ digits / 2 ^ 53 ∧
      1 / 2 ≤ start.size ∧ start.size ≤ 2 ^ 65 := by
  have one : (1 : ℚ) ≤ digits := by exact_mod_cast positive
  have most : (digits : ℚ) ≤ 2 ^ 64 := by exact_mod_cast bounded.le
  have order : (2 : ℚ) ^ 64 < brink := by
    refine lt_of_le_of_lt ?_ lt_brink
    rw [← zpow_natCast]
    exact zpow_le_zpow_right₀ (by norm_num) (by norm_num)
  obtain ⟨start, same, close⟩ := ofNat_finite positive (most.trans_lt order)
  obtain ⟨low, high⟩ := abs_le.mp close
  have part : (digits : ℚ) / 2 ^ 53 ≤ digits / 2 := by gcongr; norm_num
  have double : (2 : ℚ) ^ 65 = 2 * 2 ^ 64 := by norm_num
  exact ⟨start, same, close, by linarith, by linarith⟩

theorem scaled_near {first second : ℚ} (near : |first - second| ≤ second / 2 ^ 53) (power : Int) :
    |first * 10 ^ power - second * 10 ^ power| ≤ second * 10 ^ power / 2 ^ 53 := by
  have positive : (0 : ℚ) < 10 ^ power := by positivity
  rw [← sub_mul, abs_mul, abs_of_pos positive, mul_div_right_comm]
  gcongr

theorem absorb_zero_lt (decimal : ∀ digit ∈ parts.whole, digit < 10) :
    (absorb 0 parts.whole).1 < 2 ^ 64 :=
  (absorb_splits decimal (by decide) rfl).1

/-- The distances of the two ends from the greatest number are more than all rounding. -/
theorem scaled_margin {start taken value : ℚ} (first : |start - taken| ≤ taken / 2 ^ 53)
    (second : |taken - value| ≤ value / 2 ^ 60) :
    (value ≤ 2 ^ (1024 : Int) - 3 * 2 ^ (971 : Int) → start * (1 + 1 / 2 ^ 53) < brink) ∧
      (2 ^ (1024 : Int) + 2 ^ (972 : Int) ≤ value → brink < start * (1 - 1 / 2 ^ 53)) := by
  have two : (2 : ℚ) ≠ 0 := by norm_num
  have unit : (0 : ℚ) < 2 ^ (970 : Int) := by positivity
  have top : (2 : ℚ) ^ (1024 : Int) = 2 ^ (54 : Int) * 2 ^ (970 : Int) := zpow_add₀ two 54 970
  have once : (2 : ℚ) ^ (971 : Int) = 2 ^ (1 : Int) * 2 ^ (970 : Int) := zpow_add₀ two 1 970
  have twice : (2 : ℚ) ^ (972 : Int) = 2 ^ (2 : Int) * 2 ^ (970 : Int) := zpow_add₀ two 2 970
  obtain ⟨firstLow, firstHigh⟩ := abs_le.mp first
  obtain ⟨secondLow, secondHigh⟩ := abs_le.mp second
  rw [brink, top, once, twice]
  generalize (2 : ℚ) ^ (970 : Int) = step at unit ⊢
  norm_num at firstLow firstHigh secondLow secondHigh ⊢
  constructor
  · intro small
    linarith
  · intro large
    linarith

/-- Numbers of the grammar that are not too great are numbers. -/
theorem of_parts_finite (decimal : ∀ digit ∈ parts.whole ++ parts.fraction, digit < 10)
    (small : parts.size ≤ 2 ^ (1024 : Int) - 3 * 2 ^ (971 : Int)) :
    ∃ number, ofParts parts = some number := by
  by_cases marked : (parts.scientific || (absorb 0 parts.whole).2 ≠ 0) = true
  · rw [of_parts_scaled marked]
    obtain ⟨bounded, close⟩ := gathered_close decimal
    rcases Nat.eq_zero_or_pos parts.gathered.1 with zero | positive
    · rw [zero]
      exact ⟨_, rfl⟩
    · obtain ⟨start, same, near, least, most⟩ := start_close positive bounded
      have scaled := (scaled_margin (scaled_near near _) close).1 small
      obtain ⟨size, finite⟩ := scale_finite least most scaled
      rw [same, Option.bind_some, finite]
      exact ⟨_, rfl⟩
  · have bounded := absorb_zero_lt fun digit member => decimal digit (List.mem_append_left _ member)
    unfold ofParts
    dsimp only
    rw [if_neg marked]
    split_ifs with negative few
    · exact ⟨_, rfl⟩
    · rcases Nat.eq_zero_or_pos (absorb 0 parts.whole).1 with zero | positive
      · rw [zero]
        exact ⟨_, rfl⟩
      · obtain ⟨start, same, _⟩ := start_close positive bounded
        rw [same]
        exact ⟨_, rfl⟩
    · exact ⟨_, rfl⟩

theorem of_parts_overflow (decimal : ∀ digit ∈ parts.whole ++ parts.fraction, digit < 10)
    (plain : parts.scientific = false → parts.fraction = [] ∧ parts.exponent = 0)
    (large : 2 ^ (1024 : Int) + 2 ^ (972 : Int) ≤ parts.size) : ofParts parts = none := by
  have great : 2 ^ 64 < parts.size := by
    have positive : (0 : ℚ) < 2 ^ (972 : Int) := by positivity
    have order : (2 : ℚ) ^ 64 ≤ 2 ^ (1024 : Int) := by
      rw [← zpow_natCast]
      exact zpow_le_zpow_right₀ (by norm_num) (by norm_num)
    exact order.trans_lt ((lt_add_of_pos_right _ positive).trans_le large)
  have marked : (parts.scientific || (absorb 0 parts.whole).2 ≠ 0) = true := by
    by_contra unmarked
    simp only [Bool.or_eq_true, decide_eq_true_eq, not_or, not_not, Bool.not_eq_true] at unmarked
    obtain ⟨noFraction, noExponent⟩ := plain unmarked.1
    obtain ⟨fits, _, used, rest, split, none, same⟩ := absorb_splits
      (fun digit member => decimal digit (List.mem_append_left _ member)) (by decide)
      (rfl : absorb 0 parts.whole = _)
    have whole : used = parts.whole := by
      rw [split, List.eq_nil_of_length_eq_zero (none.trans unmarked.2), List.append_nil]
    have few : parts.size < 2 ^ 64 := by
      unfold Parts.size
      rw [noFraction, noExponent, List.append_nil, ← whole, ← same]
      simp only [List.length_nil, Nat.cast_zero, sub_zero, zpow_zero, mul_one]
      exact_mod_cast fits
    exact absurd great few.not_gt
  obtain ⟨bounded, close⟩ := gathered_close decimal
  have positive : 0 < parts.gathered.1 := by
    rw [Nat.pos_iff_ne_zero]
    intro zero
    have less : parts.size / 2 ^ 60 < parts.size :=
      div_lt_self ((by norm_num : (0 : ℚ) < 2 ^ 64).trans great) (by norm_num)
    have near := (abs_le.mp close).1
    rw [zero, Nat.cast_zero, zero_mul] at near
    linarith only [less, near]
  obtain ⟨start, same, near, least, most⟩ := start_close positive bounded
  have scaled := (scaled_margin (scaled_near near _) close).2 large
  rw [of_parts_scaled marked, same, Option.bind_some, scale_overflow most scaled]
  rfl

end Finite

end Number

open Number

section Amounts

/-- An exponent, as far as exponents are counted, and its power of ten. -/
inductive Scales : List Char → Int → Prop
  | none : Scales [] 0
  | above {letter : Char} {sign digits : List Char} (mark : letter = 'e' ∨ letter = 'E')
      (plus : sign = [] ∨ sign = ['+']) (all : Digits digits [])
      (few : Nat.ofDigitChars 10 digits 0 ≤ exponentLimit) :
      Scales (letter :: (sign ++ digits)) (Nat.ofDigitChars 10 digits 0)
  | below {letter : Char} {digits : List Char} (mark : letter = 'e' ∨ letter = 'E')
      (all : Digits digits []) (few : Nat.ofDigitChars 10 digits 0 ≤ exponentLimit) :
      Scales (letter :: '-' :: digits) (-(Nat.ofDigitChars 10 digits 0 : Int))

/-- A number of the grammar, and how much it is without its sign. -/
inductive Amount : List Char → ℚ → Prop
  | whole (number : Nat) {exponent : List Char} {power : Int} (scales : Scales exponent power) :
      Amount (Nat.toDigits 10 number ++ exponent) (number * 10 ^ power)
  | fraction (number : Nat) {digits exponent : List Char} {power : Int} (all : Digits digits [])
      (scales : Scales exponent power) :
      Amount (Nat.toDigits 10 number ++ '.' :: (digits ++ exponent))
        (Nat.ofDigitChars 10 digits number * 10 ^ (power - digits.length))

variable {literal exponent : List Char} {power : Int} {amount : ℚ}

theorem joined_values (digits : List Char) (number : Nat) :
    joined number (digits.map digitValue) = Nat.ofDigitChars 10 digits number := by
  induction digits generalizing number with
  | nil => rfl
  | cons c digits induction =>
      rw [Nat.ofDigitChars_cons, ← induction, Nat.mul_comm]
      rfl

theorem exponent_value_few (digits : List Char) (number count : Nat)
    (few : Nat.ofDigitChars 10 digits number ≤ exponentLimit) :
    exponentValue number count (digits.map digitValue) =
      .inl (Nat.ofDigitChars 10 digits number) := by
  induction digits generalizing number count with
  | nil => rfl
  | cons c digits induction =>
      have value : number * 10 + digitValue c = 10 * number + (c.toNat - '0'.toNat) := by
        rw [digitValue, Nat.mul_comm]
      rw [Nat.ofDigitChars_cons] at few ⊢
      have small := (le_ofDigitChars digits _).trans few
      rw [List.map_cons, exponentValue, value, if_neg small.not_gt]
      exact induction _ _ few

theorem take_sign_plain {text behind : List Char} (digits : Digits text behind) :
    takeSign text = (false, text) := by
  have begins := digits_begin digits
  unfold takeSign
  split
  · cases begins
  · cases begins
  · rfl

theorem read_power_of_digits {digits : List Char} (all : Digits digits []) (negative : Bool) :
    readPower (negative, digits) = .ok (some ⟨negative, digits.map digitValue, digits⟩, []) := by
  obtain ⟨taken, some, decimal, same⟩ := all
  rw [List.append_nil] at same
  subst same
  obtain ⟨c, more, rfl⟩ := List.exists_cons_of_ne_nil some
  have read := take_digits_append (c :: more) [] decimal rfl
  rw [List.append_nil] at read
  rw [readPower, read]
  rfl

/-- An exponent is read as its power of ten. -/
theorem scales_read (scales : Scales exponent power) : ∃ found : Option Exponent,
    readExponent exponent = .ok (found, []) ∧ (found = none → power = 0) ∧
      ∀ negative whole fraction,
        Number.ofDigits negative whole fraction
          (found.map fun exponent => (exponent.negative, exponent.digits)) =
        Number.ofParts ⟨negative, whole, fraction.getD [], power,
          fraction.isSome || found.isSome⟩ := by
  cases scales with
  | none => exact ⟨none, rfl, fun _ => rfl, fun _ _ _ => rfl⟩
  | @above letter sign digits mark plus all few =>
      have signed : takeSign (sign ++ digits) = (false, digits) := by
        rcases plus with rfl | rfl
        · exact take_sign_plain all
        · rfl
      have value := exponent_value_few digits 0 0 few
      refine ⟨some ⟨false, digits.map digitValue, digits⟩, ?_, (by intro none; cases none), ?_⟩
      · rw [read_exponent_cons, if_pos mark, signed, read_power_of_digits all]
      · intro negative whole fraction
        simp only [Option.map_some, Number.ofDigits, value]
        rfl
  | @below letter digits mark all few =>
      have value := exponent_value_few digits 0 0 few
      refine ⟨some ⟨true, digits.map digitValue, digits⟩, ?_, (by intro none; cases none), ?_⟩
      · rw [read_exponent_cons, if_pos mark]
        exact read_power_of_digits all true
      · intro negative whole fraction
        simp only [Option.map_some, Number.ofDigits, value]
        rfl

theorem scales_begin (scales : Scales exponent power) :
    startsDigit exponent = false ∧ exponent.head? ≠ some '.' := by
  cases scales with
  | none => exact ⟨rfl, by decide⟩
  | above mark plus all few => rcases mark with rfl | rfl <;> exact ⟨rfl, by simp⟩
  | below mark all few => rcases mark with rfl | rfl <;> exact ⟨rfl, by simp⟩

theorem read_fraction_of_digits {digits rest : List Char} (some : digits ≠ [])
    (decimal : ∀ c ∈ digits, isDigit c = true) (ends : startsDigit rest = false) :
    readFraction ('.' :: (digits ++ rest)) = .ok (Option.some (digits.map digitValue), rest) := by
  obtain ⟨c, more, rfl⟩ := List.exists_cons_of_ne_nil some
  rw [readFraction, take_digits_append _ _ decimal ends]
  rfl

/-- A text that is read as given parts, whatever its sign. -/
structure HasParts (literal : List Char) (parts : Parts) : Prop where
  decimal : ∀ digit ∈ parts.whole ++ parts.fraction, digit < 10
  plain : parts.scientific = false → parts.fraction = [] ∧ parts.exponent = 0
  read : ∀ negative, (readNumber negative literal).toOption =
    (ofParts { parts with negative }).map fun number => (number, [])

theorem values_decimal {digits : List Char} (all : ∀ c ∈ digits, isDigit c = true) :
    ∀ digit ∈ digits.map digitValue, digit < 10 := by
  intro digit member
  obtain ⟨c, among, rfl⟩ := List.mem_map.mp member
  exact digit_value_lt c (all c among)

theorem whole_parts (number : Nat) (scales : Scales exponent power) : ∃ scientific,
    HasParts (Nat.toDigits 10 number ++ exponent)
      ⟨false, (Nat.toDigits 10 number).map digitValue, [], power, scientific⟩ := by
  obtain ⟨noDigit, noPoint⟩ := scales_begin scales
  obtain ⟨found, read, unscaled, finish⟩ := scales_read scales
  refine ⟨found.isSome, ?_, ?_, ?_⟩
  · rw [List.append_nil]
    exact values_decimal (digit_of_mem_toDigits number)
  · intro plain
    have none := Option.isSome_eq_false_iff.mp plain
    exact ⟨rfl, unscaled (Option.isNone_iff_eq_none.mp none)⟩
  · intro negative
    rw [read_number_of_pieces negative ((read_whole_iff _ _ _).mpr ⟨noDigit, number, rfl, rfl⟩)
      ((read_fraction_none_iff _ _).mpr ⟨rfl, noPoint⟩) read, finish]
    rfl

theorem fraction_parts (number : Nat) {digits : List Char} (some : digits ≠ [])
    (all : ∀ c ∈ digits, isDigit c = true) (scales : Scales exponent power) :
    HasParts (Nat.toDigits 10 number ++ '.' :: (digits ++ exponent))
      ⟨false, (Nat.toDigits 10 number).map digitValue, digits.map digitValue, power, true⟩ := by
  obtain ⟨found, read, _, finish⟩ := scales_read scales
  have fraction := read_fraction_of_digits some all (scales_begin scales).1
  refine ⟨?_, ?_, ?_⟩
  · intro digit member
    rcases List.mem_append.mp member with whole | behind
    · exact values_decimal (digit_of_mem_toDigits number) digit whole
    · exact values_decimal all digit behind
  · intro plain
    cases plain
  · intro negative
    rw [read_number_of_pieces negative ((read_whole_iff _ _ _).mpr ⟨rfl, number, rfl, rfl⟩)
      fraction read, finish]
    rfl

/-- A number of the grammar is read as parts that stand for as much. -/
theorem parts_of_amount (stands : Amount literal amount) :
    ∃ parts : Parts, parts.size = amount ∧ HasParts literal parts := by
  cases stands with
  | @whole number _ power scales =>
      obtain ⟨scientific, parts⟩ := whole_parts number scales
      refine ⟨_, ?_, parts⟩
      rw [Parts.size, List.append_nil, joined_values, Nat.ofDigitChars_ten_toDigits]
      simp
  | @fraction number digits _ power all scales =>
      obtain ⟨taken, some, decimal, same⟩ := all
      rw [List.append_nil] at same
      subst same
      refine ⟨_, ?_, fraction_parts number some decimal scales⟩
      rw [Parts.size, ← List.map_append, joined_values, Nat.ofDigitChars_append,
        Nat.ofDigitChars_ten_toDigits, List.length_map]

/-- A number that is not too great is read, with either sign. -/
theorem amount_reads (stands : Amount literal amount)
    (small : amount ≤ 2 ^ (1024 : Int) - 3 * 2 ^ (971 : Int)) (negative : Bool) :
    ∃ number, readNumber negative literal = .ok (number, []) := by
  obtain ⟨parts, rfl, reads⟩ := parts_of_amount stands
  obtain ⟨number, finite⟩ := @of_parts_finite { parts with negative } reads.decimal small
  refine ⟨number, ok_of_toOption _ _ ?_⟩
  rw [reads.read, finite]
  rfl

/-- A number that is far too great is not read. -/
theorem amount_refused (stands : Amount literal amount)
    (large : 2 ^ (1024 : Int) + 2 ^ (972 : Int) ≤ amount) (negative : Bool) :
    (readNumber negative literal).toOption = none := by
  obtain ⟨parts, rfl, reads⟩ := parts_of_amount stands
  rw [reads.read, @of_parts_overflow { parts with negative } reads.decimal reads.plain large]
  rfl

theorem flat_of_amount (stands : Amount literal amount)
    (small : amount ≤ 2 ^ (1024 : Int) - 3 * 2 ^ (971 : Int)) (rest : List Char) :
    (∃ number, Flat (.num number) (literal ++ rest) rest) ∧
      ∃ number, Flat (.num number) ('-' :: (literal ++ rest)) rest := by
  obtain ⟨above, read⟩ := amount_reads stands small false
  obtain ⟨below, negated⟩ := amount_reads stands small true
  exact ⟨⟨above, .number rest read⟩, below, .negative rest negated⟩

end Amounts

end FlagBoard.Json
