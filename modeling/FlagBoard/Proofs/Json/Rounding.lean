import FlagBoard.Json.Binary64
import Mathlib

/-!
How far rounding goes. A fraction is rounded to a number next to it, half of the last bit away at
most, unless it is about as great as the first power of two that is no number of 64 bits.
-/

namespace FlagBoard.Json.Binary64

def Ratio.value (ratio : Ratio) : ℚ := ratio.above / ratio.below

def size (number : Binary64) : ℚ := number.mantissa * 2 ^ number.exponent

section Ratios

variable {ratio : Ratio}

theorem scale_below (proper : 0 < ratio.below) {base : Nat} (positive : 0 < base) (power : Int) :
    0 < (ratio.scale base power).below := by
  rw [Ratio.scale]
  split
  · exact Nat.mul_pos proper (Nat.pow_pos positive)
  · exact proper

theorem scale_value {base : Nat} (positive : 0 < base) (power : Int) :
    (ratio.scale base power).value = ratio.value * (base : ℚ) ^ power := by
  have nonzero : (base : ℚ) ≠ 0 := by positivity
  rw [Ratio.scale]
  split
  next below =>
    have same : power = -(power.natAbs : Int) := by omega
    conv_rhs => rw [same, zpow_neg, zpow_natCast]
    simp only [Ratio.value, Nat.pow_eq, Nat.cast_mul, Nat.cast_pow]
    rw [div_mul_eq_div_div, div_eq_mul_inv]
  next above =>
    have same : power = (power.natAbs : Int) := by omega
    conv_rhs => rw [same, zpow_natCast]
    simp [Ratio.value, Nat.pow_eq]
    ring

/-- The nearest whole number is half a unit away at most. -/
theorem nearest_close (proper : 0 < ratio.below) : |(ratio.nearest : ℚ) - ratio.value| ≤ 1 / 2 := by
  have whole := Nat.div_add_mod ratio.above ratio.below
  have rest := Nat.mod_lt ratio.above proper
  have bounds : 2 * (ratio.below * ratio.nearest) ≤ 2 * ratio.above + ratio.below ∧
      2 * ratio.above ≤ 2 * (ratio.below * ratio.nearest) + ratio.below := by
    rw [Ratio.nearest]
    split_ifs <;> (try rw [Nat.mul_add, Nat.mul_one]) <;> omega
  have positive : (0 : ℚ) < ratio.below := by exact_mod_cast proper
  have above : 2 * ((ratio.below : ℚ) * ratio.nearest) ≤ 2 * ratio.above + ratio.below := by
    exact_mod_cast bounds.1
  have below : 2 * (ratio.above : ℚ) ≤ 2 * (ratio.below * ratio.nearest) + ratio.below := by
    exact_mod_cast bounds.2
  have value : ratio.value * ratio.below = ratio.above := by
    rw [Ratio.value]
    field_simp
  rw [abs_le]
  constructor
  · by_contra far
    nlinarith
  · by_contra far
    nlinarith

theorem value_log_bounds (proper : 0 < ratio.below) (positive : 0 < ratio.above) :
    (2 : ℚ) ^ ((ratio.above.log2 : Int) - ratio.below.log2 - 1) ≤ ratio.value ∧
      ratio.value < 2 ^ ((ratio.above.log2 : Int) - ratio.below.log2 + 1) := by
  have two : (2 : ℚ) ≠ 0 := by norm_num
  have divisor : (0 : ℚ) < ratio.below := by exact_mod_cast proper
  have aboveLow : (2 : ℚ) ^ ratio.above.log2 ≤ ratio.above := by
    exact_mod_cast Nat.log2_self_le positive.ne'
  have aboveHigh : (ratio.above : ℚ) < 2 ^ (ratio.above.log2 + 1) := by
    exact_mod_cast Nat.lt_log2_self
  have belowLow : (2 : ℚ) ^ ratio.below.log2 ≤ ratio.below := by
    exact_mod_cast Nat.log2_self_le proper.ne'
  have belowHigh : (ratio.below : ℚ) < 2 ^ (ratio.below.log2 + 1) := by
    exact_mod_cast Nat.lt_log2_self
  have least : (ratio.above.log2 : Int) - ratio.below.log2 - 1 =
      ratio.above.log2 - ((ratio.below.log2 + 1 : Nat) : Int) := by
    push_cast
    ring
  have most : (ratio.above.log2 : Int) - ratio.below.log2 + 1 =
      ((ratio.above.log2 + 1 : Nat) : Int) - ratio.below.log2 := by
    push_cast
    ring
  rw [least, most, zpow_sub₀ two, zpow_sub₀ two, zpow_natCast, zpow_natCast, zpow_natCast,
    zpow_natCast, Ratio.value]
  constructor
  · gcongr
  · gcongr

/-- Comparing a scaled fraction with a whole number compares the fraction with its multiple. -/
theorem scaled_lt_iff (proper : 0 < ratio.below) (power : Int) (bound : Nat) :
    (ratio.scale 2 (-power)).above < (ratio.scale 2 (-power)).below * bound ↔
      ratio.value < bound * 2 ^ power := by
  have scaled := @scale_value ratio 2 (by decide) (-power)
  have below : (0 : ℚ) < (ratio.scale 2 (-power)).below := by
    exact_mod_cast scale_below proper (by decide) (-power)
  rw [← @Nat.cast_lt ℚ, Nat.cast_mul, ← div_lt_iff₀' below]
  change (ratio.scale 2 (-power)).value < _ ↔ _
  rw [scaled, Nat.cast_ofNat, zpow_neg, ← div_eq_mul_inv, div_lt_iff₀ (by positivity)]

/-- The last bit of a number near a fraction, unless it is the least bit of all. -/
theorem last_bit_bounds (proper : 0 < ratio.below) (positive : 0 < ratio.above) :
    ratio.value < 2 ^ (lastBit ratio + 53) ∧
      (lastBit ratio = -1074 ∨ (2 : ℚ) ^ (lastBit ratio + 52) ≤ ratio.value) := by
  obtain ⟨low, high⟩ := value_log_bounds proper positive
  have larger {least most : Int} (order : least ≤ most) : (2 : ℚ) ^ least ≤ 2 ^ most :=
    zpow_le_zpow_right₀ (by norm_num) order
  unfold lastBit
  dsimp only
  simp only [scaled_lt_iff proper]
  generalize span : (ratio.above.log2 : Int) - (ratio.below.log2 : Int) - 52 = guess
  have bit : ((0x10000000000000 : Nat) : ℚ) * 2 ^ guess = 2 ^ (guess + 52) := by
    rw [zpow_add₀ (by norm_num), mul_comm]
    norm_num
  rw [bit]
  split_ifs with less
  case pos =>
      constructor
      · exact less.trans_le (larger (by omega))
      · rcases le_total (-1074) (guess - 1) with above | under
        · exact .inr ((larger (by omega)).trans low)
        · exact .inl (max_eq_right under)
  case neg =>
      constructor
      · exact high.trans_le (larger (by omega))
      · rcases le_total (-1074) guess with above | under
        · exact .inr ((larger (by omega)).trans (not_lt.mp less))
        · exact .inl (max_eq_right under)

/-- What a fraction is rounded to where there is no greatest number. -/
def rounded (ratio : Ratio) : ℚ :=
  (ratio.scale 2 (-lastBit ratio)).nearest * 2 ^ lastBit ratio

theorem rounded_nothing (nothing : ratio.above = 0) : rounded ratio = 0 := by
  have above : (ratio.scale 2 (-lastBit ratio)).above = 0 := by
    unfold Ratio.scale
    split
    · exact nothing
    · rw [nothing, Nat.zero_mul]
  have nearest : (ratio.scale 2 (-lastBit ratio)).nearest = 0 := by
    rw [Ratio.nearest, above]
    simp
  rw [rounded, nearest, Nat.cast_zero, zero_mul]

theorem bits_close (proper : 0 < ratio.below) :
    |((ratio.scale 2 (-lastBit ratio)).nearest : ℚ) - ratio.value / 2 ^ lastBit ratio| ≤ 1 / 2 := by
  have close := nearest_close (scale_below proper (by decide : 0 < 2) (-lastBit ratio))
  rwa [scale_value (by decide), Nat.cast_ofNat, zpow_neg, ← div_eq_mul_inv] at close

/-- The mantissa has 53 bits at most, or is one more than all that have. -/
theorem bits_le (proper : 0 < ratio.below) (positive : 0 < ratio.above) :
    (ratio.scale 2 (-lastBit ratio)).nearest ≤ 0x20000000000000 := by
  have close := (abs_le.mp (bits_close proper)).2
  have less : ratio.value / 2 ^ lastBit ratio < 0x20000000000000 := by
    have bound := (last_bit_bounds proper positive).1
    rw [zpow_add₀ (by norm_num)] at bound
    rw [div_lt_iff₀ (by positivity), mul_comm]
    norm_num at bound ⊢
    exact bound
  have bits : ((ratio.scale 2 (-lastBit ratio)).nearest : ℚ) < (0x20000000000000 + 1 : Nat) := by
    push_cast
    linarith
  exact Nat.lt_succ_iff.mp (by exact_mod_cast bits)

theorem bits_full (proper : 0 < ratio.below) (positive : 0 < ratio.above)
    (normal : lastBit ratio ≠ -1074) :
    0x10000000000000 ≤ (ratio.scale 2 (-lastBit ratio)).nearest := by
  have close := (abs_le.mp (bits_close proper)).1
  have more : 0x10000000000000 ≤ ratio.value / 2 ^ lastBit ratio := by
    have bound := (last_bit_bounds proper positive).2.resolve_left normal
    rw [zpow_add₀ (by norm_num)] at bound
    rw [le_div_iff₀ (by positivity), mul_comm]
    norm_num at bound ⊢
    exact bound
  have bits : ((0x10000000000000 : Nat) : ℚ) < (ratio.scale 2 (-lastBit ratio)).nearest + 1 := by
    push_cast
    linarith
  exact Nat.lt_succ_iff.mp (by exact_mod_cast bits)

theorem rounded_full (proper : 0 < ratio.below) (positive : 0 < ratio.above)
    (normal : lastBit ratio ≠ -1074) : (2 : ℚ) ^ (52 + lastBit ratio) ≤ rounded ratio := by
  have full := bits_full proper positive normal
  have half : ((0x10000000000000 : Nat) : ℚ) = 2 ^ (52 : Int) := by norm_num
  rw [zpow_add₀ (by norm_num), rounded, ← half]
  gcongr

theorem size_of_round {negative : Bool} {number : Binary64}
    (some : round negative ratio = some number) : number.size = rounded ratio := by
  unfold round at some
  dsimp only at some
  split_ifs at some with nothing zero carried
  · cases some
    rw [rounded_nothing nothing, size, Nat.cast_zero, zero_mul]
  · cases some
    rw [rounded, zero, size, Nat.cast_zero, zero_mul, zero_mul]
  · cases some
    rw [rounded, carried, size, zpow_add₀ (by norm_num)]
    norm_num
    ring
  · cases some
    rfl

/-- There is no result exactly where it would be 2 ^ 1024 or more. -/
theorem round_eq_none_iff (proper : 0 < ratio.below) (negative : Bool) :
    round negative ratio = none ↔ 2 ^ (1024 : Int) ≤ rounded ratio := by
  have two : (1 : ℚ) < 2 := by norm_num
  have nonzero : (2 : ℚ) ≠ 0 := by norm_num
  have top : (0 : ℚ) < 2 ^ (1024 : Int) := by positivity
  have whole : ((0x20000000000000 : Nat) : ℚ) = 2 ^ (53 : Int) := by norm_num
  unfold round
  dsimp only
  split_ifs with nothing zero carried far farther
  · simp only [rounded_nothing nothing, not_le.mpr top]
  · simp only [rounded, zero, Nat.cast_zero, zero_mul, not_le.mpr top]
  · rw [rounded, carried, whole, ← zpow_add₀ nonzero, zpow_le_zpow_iff_right₀ two]
    simp only [true_iff]
    omega
  · rw [rounded, carried, whole, ← zpow_add₀ nonzero, zpow_le_zpow_iff_right₀ two]
    simp only [false_iff]
    omega
  · have full := rounded_full proper (Nat.pos_of_ne_zero nothing) (by omega)
    simp only [true_iff]
    exact (zpow_le_zpow_right₀ two.le (by omega)).trans full
  · have least := bits_le proper (Nat.pos_of_ne_zero nothing)
    have small : ((ratio.scale 2 (-lastBit ratio)).nearest : ℚ) < 2 ^ (53 : Int) := by
      rw [← whole]
      exact_mod_cast lt_of_le_of_ne least carried
    simp only [false_iff, not_le]
    calc rounded ratio < 2 ^ (53 : Int) * 2 ^ lastBit ratio :=
          mul_lt_mul_of_pos_right small (by positivity)
      _ = 2 ^ (53 + lastBit ratio) := (zpow_add₀ nonzero _ _).symm
      _ ≤ 2 ^ (1024 : Int) := zpow_le_zpow_right₀ two.le (by omega)

theorem value_nonneg (ratio : Ratio) : 0 ≤ ratio.value := by
  unfold Ratio.value
  positivity

/-- Rounding goes half of the last bit far at most. -/
theorem rounded_near (proper : 0 < ratio.below) :
    |rounded ratio - ratio.value| ≤ 2 ^ lastBit ratio / 2 := by
  have positive : (0 : ℚ) < 2 ^ lastBit ratio := by positivity
  have close := mul_le_mul_of_nonneg_right (bits_close proper) positive.le
  rw [← abs_of_pos positive, ← abs_mul, abs_of_pos positive, sub_mul,
    div_mul_cancel₀ _ positive.ne'] at close
  rw [rounded]
  linarith

theorem last_bit_le (normal : (2 : ℚ) ^ (lastBit ratio + 52) ≤ ratio.value) :
    (2 : ℚ) ^ lastBit ratio / 2 ≤ ratio.value / 2 ^ 53 := by
  rw [zpow_add₀ (by norm_num)] at normal
  rw [div_le_div_iff₀ (by norm_num) (by norm_num)]
  norm_num at normal ⊢
  linarith

/-- From one on, a fraction is rounded by a 2 ^ 53rd of it at most. -/
theorem rounded_close (proper : 0 < ratio.below) (large : 1 ≤ ratio.value) :
    |rounded ratio - ratio.value| ≤ ratio.value / 2 ^ 53 := by
  have positive : 0 < ratio.above := by
    rw [Nat.pos_iff_ne_zero]
    intro nothing
    rw [Ratio.value, nothing, Nat.cast_zero, zero_div] at large
    norm_num at large
  obtain ⟨less, normal⟩ := last_bit_bounds proper positive
  have above : lastBit ratio ≠ -1074 := by
    intro least
    rw [least] at less
    have tiny : (2 : ℚ) ^ (-1074 + 53 : Int) ≤ 2 ^ (0 : Int) :=
      zpow_le_zpow_right₀ (by norm_num) (by norm_num)
    rw [zpow_zero] at tiny
    linarith
  exact (rounded_near proper).trans (last_bit_le (normal.resolve_left above))

theorem rounded_le (proper : 0 < ratio.below) : rounded ratio ≤ 2 * ratio.value + 1 := by
  have value := value_nonneg ratio
  rcases Nat.eq_zero_or_pos ratio.above with nothing | positive
  · rw [rounded_nothing nothing]
    linarith
  · have near := (abs_le.mp (rounded_near proper)).2
    rcases (last_bit_bounds proper positive).2 with least | normal
    · have tiny : (2 : ℚ) ^ lastBit ratio ≤ 2 ^ (0 : Int) := by
        rw [least]
        exact zpow_le_zpow_right₀ (by norm_num) (by norm_num)
      rw [zpow_zero] at tiny
      linarith
    · have last := last_bit_le normal
      have part : ratio.value / 2 ^ 53 ≤ ratio.value := div_le_self value (by norm_num)
      linarith

/-- Half a bit past the greatest finite number. -/
def brink : ℚ := 2 ^ (1024 : Int) - 2 ^ (970 : Int)

theorem brink_lt : brink < 2 ^ (1024 : Int) :=
  sub_lt_self _ (by positivity)

theorem lt_brink : 2 ^ (1023 : Int) < brink := by
  have unit : (0 : ℚ) < 2 ^ (970 : Int) := by positivity
  have top : (1024 : Int) = 54 + 970 := by norm_num
  have next : (1023 : Int) = 53 + 970 := by norm_num
  rw [brink, top, next, zpow_add₀ (by norm_num), zpow_add₀ (by norm_num)]
  generalize (2 : ℚ) ^ (970 : Int) = step at unit ⊢
  norm_num
  linarith

/-- A fraction has a number where it is less than halfway from the greatest one to the next. -/
theorem round_finite (proper : 0 < ratio.below) (negative : Bool) (small : ratio.value < brink) :
    ∃ number, round negative ratio = some number ∧ number.size = rounded ratio := by
  have bounded : rounded ratio < 2 ^ (1024 : Int) := by
    rcases Nat.eq_zero_or_pos ratio.above with nothing | positive
    · rw [rounded_nothing nothing]
      positivity
    · have last : lastBit ratio ≤ 971 := by
        by_contra far
        have normal := (last_bit_bounds proper positive).2.resolve_left (by omega)
        have top : (2 : ℚ) ^ (1024 : Int) ≤ 2 ^ (lastBit ratio + 52) :=
          zpow_le_zpow_right₀ (by norm_num) (by omega)
        linarith [brink_lt]
      have half : (2 : ℚ) ^ lastBit ratio / 2 ≤ 2 ^ (970 : Int) := by
        have step : (2 : ℚ) ^ (971 : Int) = 2 ^ (970 : Int) * 2 := zpow_add_one₀ (by norm_num) 970
        rw [div_le_iff₀ (by norm_num), ← step]
        exact zpow_le_zpow_right₀ (by norm_num) last
      have near := (abs_le.mp (rounded_near proper)).2
      rw [brink] at small
      linarith
  have finite : round negative ratio ≠ none := by
    rw [Ne, round_eq_none_iff proper, not_le]
    exact bounded
  obtain ⟨number, same⟩ := Option.ne_none_iff_exists'.mp finite
  exact ⟨number, same, size_of_round same⟩

/-- Past halfway the mantissa is rounded up to one that has too many bits. -/
theorem bits_beyond (proper : 0 < ratio.below) (top : lastBit ratio = 971)
    (large : brink < ratio.value) :
    0x20000000000000 ≤ (ratio.scale 2 (-lastBit ratio)).nearest := by
  have two : (2 : ℚ) ≠ 0 := by norm_num
  have close := (abs_le.mp (bits_close proper)).1
  have scaled : 0x20000000000000 - 1 / 2 < ratio.value / 2 ^ lastBit ratio := by
    have whole : (2 : ℚ) ^ (1024 : Int) = 2 ^ (53 : Int) * 2 ^ (971 : Int) := zpow_add₀ two 53 971
    have step : (2 : ℚ) ^ (971 : Int) = 2 ^ (970 : Int) * 2 := zpow_add_one₀ two 970
    rw [brink, whole, step] at large
    rw [lt_div_iff₀ (by positivity), top, step]
    generalize (2 : ℚ) ^ (970 : Int) = unit at large ⊢
    norm_num at large ⊢
    linarith
  have bits : ((0x20000000000000 : Nat) : ℚ) < (ratio.scale 2 (-lastBit ratio)).nearest + 1 := by
    push_cast
    linarith
  exact Nat.lt_succ_iff.mp (by exact_mod_cast bits)

theorem round_overflow (proper : 0 < ratio.below) (negative : Bool)
    (large : brink < ratio.value) : round negative ratio = none := by
  have positive : 0 < ratio.above := by
    rw [Nat.pos_iff_ne_zero]
    intro nothing
    have some : (0 : ℚ) < 2 ^ (1023 : Int) := by positivity
    rw [Ratio.value, nothing, Nat.cast_zero, zero_div] at large
    exact absurd (some.trans lt_brink) large.not_gt
  have last : 971 ≤ lastBit ratio := by
    by_contra low
    have less := (last_bit_bounds proper positive).1
    have next : (2 : ℚ) ^ (lastBit ratio + 53) ≤ 2 ^ (1023 : Int) :=
      zpow_le_zpow_right₀ (by norm_num) (by omega)
    linarith [lt_brink]
  rw [round_eq_none_iff proper]
  rcases eq_or_lt_of_le last with top | beyond
  · have full := bits_beyond proper top.symm large
    have whole : ((0x20000000000000 : Nat) : ℚ) = 2 ^ (53 : Int) := by norm_num
    calc (2 : ℚ) ^ (1024 : Int) = 2 ^ (53 : Int) * 2 ^ (971 : Int) :=
          zpow_add₀ (by norm_num) 53 971
      _ = 2 ^ (53 : Int) * 2 ^ lastBit ratio := by rw [← top]
      _ ≤ rounded ratio := by
        rw [rounded, ← whole]
        gcongr
  · have full := rounded_full proper positive (by omega)
    exact (zpow_le_zpow_right₀ (by norm_num) (by omega)).trans full

end Ratios

section Operations

variable {left right : Binary64}

theorem ratio_below (number : Binary64) : 0 < number.ratio.below :=
  scale_below Nat.one_pos (by decide) number.exponent

theorem ratio_value (number : Binary64) : number.ratio.value = number.size := by
  rw [ratio, scale_value (by decide), size, Ratio.value, Nat.cast_one, div_one, Nat.cast_ofNat]

theorem size_nonneg (number : Binary64) : 0 ≤ number.size := by
  unfold size
  positivity

theorem ofNat_finite {n : Nat} (positive : 0 < n) (small : (n : ℚ) < brink) :
    ∃ number, ofNat n = some number ∧ |number.size - n| ≤ n / 2 ^ 53 := by
  have value : Ratio.value ⟨n, 1⟩ = n := by
    rw [Ratio.value, Nat.cast_one, div_one]
  have large : 1 ≤ Ratio.value ⟨n, 1⟩ := by
    rw [value]
    exact_mod_cast positive
  have close := rounded_close Nat.one_pos large
  rw [value] at close
  obtain ⟨number, same, size⟩ := round_finite Nat.one_pos false (value.trans_lt small)
  refine ⟨number, same, ?_⟩
  rwa [size]

theorem product_value : Ratio.value ⟨left.ratio.above * right.ratio.above,
    left.ratio.below * right.ratio.below⟩ = left.size * right.size := by
  rw [← ratio_value, ← ratio_value, Ratio.value, Nat.cast_mul, Nat.cast_mul, mul_div_mul_comm]
  rfl

theorem mul_finite (small : left.size * right.size < brink) : ∃ number,
    left.mul right = some number := by
  have proper := Nat.mul_pos left.ratio_below right.ratio_below
  obtain ⟨number, same, _⟩ := round_finite proper false (product_value.trans_lt small)
  exact ⟨number, same⟩

theorem mul_overflow (large : brink < left.size * right.size) : left.mul right = none :=
  round_overflow (Nat.mul_pos left.ratio_below right.ratio_below) false
    (large.trans_eq product_value.symm)

theorem quotient_value : Ratio.value ⟨left.ratio.above * right.ratio.below,
    left.ratio.below * right.ratio.above⟩ = left.size / right.size := by
  rw [← ratio_value, ← ratio_value, Ratio.value, Ratio.value, Ratio.value, Nat.cast_mul,
    Nat.cast_mul, div_div_div_eq]

theorem div_finite (positive : 0 < right.size) (small : left.size / right.size < brink) :
    ∃ number, left.div right = some number ∧ number.size ≤ 2 * (left.size / right.size) + 1 := by
  have above : 0 < right.ratio.above := by
    rw [Nat.pos_iff_ne_zero]
    intro nothing
    rw [← ratio_value, Ratio.value, nothing, Nat.cast_zero, zero_div] at positive
    exact lt_irrefl _ positive
  have proper := Nat.mul_pos left.ratio_below above
  obtain ⟨number, same, size⟩ := round_finite proper false (quotient_value.trans_lt small)
  refine ⟨number, same, ?_⟩
  rw [size, ← quotient_value]
  exact rounded_le proper

end Operations

end FlagBoard.Json.Binary64
