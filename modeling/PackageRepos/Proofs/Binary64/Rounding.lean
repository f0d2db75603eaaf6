import Mathlib.Data.Nat.Log
import Mathlib.Tactic.FieldSimp
import PackageRepos.Proofs.Binary64.Nearest

/-!
# Rounding

The conversions from ratios and decimals round to the nearest number, and so does the product with
a natural number. The integer part of a number is that of its value.
-/

namespace PackageRepos
namespace Binary64

/-! ## Ratios -/

theorem powerTop_div_powerBottom (base : ℕ) (exponent : ℤ) :
    (powerTop base exponent / powerBottom base exponent : ℚ) = base ^ exponent := by
  obtain ⟨count, rfl | rfl⟩ := exponent.eq_nat_or_neg
  · simp [powerTop, powerBottom]
  · simp [powerTop, powerBottom]

theorem powerTop_pos {base : ℕ} (positive : 0 < base) (exponent : ℤ) : 0 < powerTop base exponent :=
  Nat.pow_pos positive

theorem powerBottom_pos {base : ℕ} (positive : 0 < base) (exponent : ℤ) :
    0 < powerBottom base exponent :=
  Nat.pow_pos positive

section Ratio

variable {numerator denominator : ℕ}

theorem shifted_div (numerator denominator : ℕ) (exponent : ℤ) :
    ((shifted numerator denominator exponent).1 / (shifted numerator denominator exponent).2 : ℚ) =
      numerator / denominator / 2 ^ exponent := by
  have top_pos := powerTop_pos two_pos exponent
  have bottom_pos := powerBottom_pos two_pos exponent
  have power := powerTop_div_powerBottom 2 exponent
  rw [Nat.cast_two] at power
  rw [← power, shifted]
  push_cast
  field_simp

theorem shifted_pos (numerator : ℕ) (positive : 0 < denominator) (exponent : ℤ) :
    0 < (shifted numerator denominator exponent).2 :=
  Nat.mul_pos positive (powerTop_pos two_pos exponent)

/-- The larger of two scaled numbers tells where the ratio is. -/
theorem shifted_le_iff (positive : 0 < denominator) (exponent : ℤ) :
    (shifted numerator denominator exponent).2 ≤ (shifted numerator denominator exponent).1 ↔
      (2 : ℚ) ^ exponent ≤ numerator / denominator := by
  have scaled_pos : (0 : ℚ) < (shifted numerator denominator exponent).2 := by
    exact_mod_cast shifted_pos numerator positive exponent
  rw [← one_le_div₀ (by positivity : (0 : ℚ) < 2 ^ exponent), ← shifted_div, one_le_div₀ scaled_pos,
    Nat.cast_le]

/-- The binary lengths of two numbers tell where their ratio is, up to a factor of two. -/
theorem ratio_log2_spec (numerator_pos : 0 < numerator) (denominator_pos : 0 < denominator) :
    (2 : ℚ) ^ ((numerator.log2 : ℤ) - denominator.log2 - 1) ≤ numerator / denominator ∧
      (numerator / denominator : ℚ) < 2 ^ ((numerator.log2 : ℤ) - denominator.log2 + 1) := by
  have denominator_rat : (0 : ℚ) < denominator := by exact_mod_cast denominator_pos
  have numerator_least : (2 : ℚ) ^ numerator.log2 ≤ numerator := by
    exact_mod_cast Nat.log2_self_le numerator_pos.ne'
  have numerator_most : (numerator : ℚ) < 2 ^ (numerator.log2 + 1) := by
    exact_mod_cast Nat.lt_log2_self
  have denominator_least : (2 : ℚ) ^ denominator.log2 ≤ denominator := by
    exact_mod_cast Nat.log2_self_le denominator_pos.ne'
  have denominator_most : (denominator : ℚ) < 2 ^ (denominator.log2 + 1) := by
    exact_mod_cast Nat.lt_log2_self
  rw [le_div_iff₀ denominator_rat, div_lt_iff₀ denominator_rat]
  constructor
  · calc (2 : ℚ) ^ ((numerator.log2 : ℤ) - denominator.log2 - 1) * denominator
        ≤ 2 ^ ((numerator.log2 : ℤ) - denominator.log2 - 1) * 2 ^ (denominator.log2 + 1) := by
          gcongr
      _ = 2 ^ numerator.log2 := by
        rw [← zpow_natCast, ← zpow_natCast, ← zpow_add₀ two_ne_zero]
        push_cast
        ring_nf
      _ ≤ numerator := numerator_least
  · calc (numerator : ℚ) < 2 ^ (numerator.log2 + 1) := numerator_most
      _ = 2 ^ ((numerator.log2 : ℤ) - denominator.log2 + 1) * 2 ^ denominator.log2 := by
        rw [← zpow_natCast, ← zpow_natCast, ← zpow_add₀ two_ne_zero]
        push_cast
        ring_nf
      _ ≤ 2 ^ ((numerator.log2 : ℤ) - denominator.log2 + 1) * denominator := by gcongr

/-- The ratio is between the power of two and the next one. -/
theorem binade_spec (numerator_pos : 0 < numerator) (denominator_pos : 0 < denominator) :
    (2 : ℚ) ^ binade numerator denominator ≤ numerator / denominator ∧
      (numerator / denominator : ℚ) < 2 ^ (binade numerator denominator + 1) := by
  obtain ⟨above, below⟩ := ratio_log2_spec numerator_pos denominator_pos
  have binade_eq : binade numerator denominator =
      if (2 : ℚ) ^ ((numerator.log2 : ℤ) - denominator.log2) ≤ numerator / denominator then
        (numerator.log2 : ℤ) - denominator.log2
      else (numerator.log2 : ℤ) - denominator.log2 - 1 := by
    simp only [← shifted_le_iff denominator_pos]
    rfl
  rw [binade_eq]
  split
  · rename_i reached
    exact ⟨reached, below⟩
  · rename_i missed
    rw [sub_add_cancel]
    exact ⟨above, lt_of_not_ge missed⟩

theorem div_le_half_iff (positive : 0 < denominator) :
    (numerator / denominator : ℚ) ≤ 1 / 2 ↔ 2 * numerator ≤ denominator := by
  have positive_rat : (0 : ℚ) < denominator := by exact_mod_cast positive
  rw [div_le_div_iff₀ positive_rat two_pos, ← Nat.cast_le (α := ℚ)]
  push_cast
  rw [one_mul, mul_comm]

theorem half_le_div_iff (positive : 0 < denominator) :
    (1 / 2 : ℚ) ≤ numerator / denominator ↔ denominator ≤ 2 * numerator := by
  have positive_rat : (0 : ℚ) < denominator := by exact_mod_cast positive
  rw [div_le_div_iff₀ two_pos positive_rat, ← Nat.cast_le (α := ℚ)]
  push_cast
  rw [one_mul, mul_comm]

/-- A ratio is its quotient and the ratio of the remainder. -/
theorem ratio_eq_quotient_add (numerator : ℕ) (positive : 0 < denominator) :
    (numerator / denominator : ℚ) =
      (numerator / denominator : ℕ) + (numerator % denominator : ℕ) / denominator := by
  have positive_rat : (0 : ℚ) < denominator := by exact_mod_cast positive
  have divided : (denominator * (numerator / denominator : ℕ) + (numerator % denominator : ℕ) : ℚ) =
      numerator := by
    exact_mod_cast Nat.div_add_mod numerator denominator
  rw [div_eq_iff positive_rat.ne', add_mul, div_mul_cancel₀ _ positive_rat.ne', ← divided, mul_comm]

/-- The integer is within one half of the ratio, and even if it is no nearer. -/
theorem roundHalfEven_spec (numerator : ℕ) (positive : 0 < denominator) :
    |(numerator / denominator : ℚ) - roundHalfEven numerator denominator| ≤ 1 / 2 ∧
      (|(numerator / denominator : ℚ) - roundHalfEven numerator denominator| = 1 / 2 →
        Even (roundHalfEven numerator denominator)) := by
  rw [ratio_eq_quotient_add numerator positive, roundHalfEven]
  have remainder_lt := Nat.mod_lt numerator positive
  generalize numerator / denominator = quotient
  generalize numerator % denominator = remainder at remainder_lt ⊢
  have half_le : (remainder / denominator : ℚ) ≤ 1 / 2 ↔ _ := div_le_half_iff positive
  have le_half : (1 / 2 : ℚ) ≤ remainder / denominator ↔ _ := half_le_div_iff positive
  have fraction_nonneg : (0 : ℚ) ≤ remainder / denominator := by positivity
  have fraction_lt : (remainder / denominator : ℚ) < 1 := by
    rw [div_lt_one (by exact_mod_cast positive)]
    exact_mod_cast remainder_lt
  generalize (remainder / denominator : ℚ) = fraction
    at half_le le_half fraction_nonneg fraction_lt ⊢
  split
  · rename_i down
    rw [add_sub_cancel_left, abs_of_nonneg fraction_nonneg]
    refine ⟨half_le.mpr (by omega), fun tie => ?_⟩
    have at_least := le_half.mp tie.ge
    exact Nat.even_iff.mpr (by omega)
  · rename_i up
    push_cast
    rw [add_sub_add_left_eq_sub, abs_of_nonpos (by linarith)]
    have reached : denominator ≤ 2 * remainder := by omega
    refine ⟨by linarith [le_half.mpr reached], fun tie => ?_⟩
    have at_most := half_le.mp (by linarith)
    exact Nat.even_iff.mpr (by omega)

end Ratio

/-! ## Finite numbers -/

/-- The factor for a sign. -/
def signOf (negative : Bool) : ℚ := if negative then -1 else 1

theorem abs_signOf (negative : Bool) : |signOf negative| = 1 := by
  cases negative <;> norm_num [signOf]

/-- The value of a finite number. -/
def toRat : Binary64 → ℚ
  | finite negative mantissa exponent => signOf negative * (mantissa * 2 ^ exponent)
  | _ => 0

/-- The number is finite, and its value is the exact one rounded to the format. -/
structure Rounds (exact : ℚ) (number : Binary64) : Prop where
  finite : ∃ negative mantissa exponent, number = .finite negative mantissa exponent
  rounding : IsRounding exact number.toRat

theorem IsRounding.signed {exact rounded : ℚ} (rounding : IsRounding exact rounded)
    (negative : Bool) : IsRounding (signOf negative * exact) (signOf negative * rounded) := by
  cases negative with
  | false => simpa [signOf] using rounding
  | true => simpa [signOf] using rounding.neg

theorem rounds_zero (negative : Bool) : Rounds 0 (.finite negative 0 0) where
  finite := ⟨negative, 0, 0, rfl⟩
  rounding := by simpa [toRat] using IsRounding.of_isHeld isHeld_zero

section Ratio

variable {numerator denominator : ℕ} (numerator_pos : 0 < numerator)
  (denominator_pos : 0 < denominator)
include numerator_pos denominator_pos

/-- The ratio is below the numbers that have too large a unit for it. -/
theorem lt_of_unitExponent :
    (numerator / denominator : ℚ) < 2 ^ (unitExponent numerator denominator + 53) := by
  refine (binade_spec numerator_pos denominator_pos).2.trans_le ?_
  refine zpow_le_zpow_right₀ one_le_two ?_
  unfold unitExponent
  omega

theorem unitExponent_fine :
    unitExponent numerator denominator = -1074 ∨
      (2 : ℚ) ^ (unitExponent numerator denominator + 52) ≤ numerator / denominator := by
  unfold unitExponent
  rcases le_total (binade numerator denominator - 52) (-1074) with low | high
  · exact .inl (max_eq_right low)
  · right
    rw [max_eq_left high, sub_add_cancel]
    exact (binade_spec numerator_pos denominator_pos).1

theorem unitExponent_le (small : (numerator / denominator : ℚ) < 2 ^ (1023 : ℤ)) :
    unitExponent numerator denominator ≤ 970 := by
  have below : binade numerator denominator < 1023 :=
    (zpow_lt_zpow_iff_right₀ one_lt_two).mp
      ((binade_spec numerator_pos denominator_pos).1.trans_lt small)
  unfold unitExponent
  omega

end Ratio

/-- What is below the largest mantissa rounds to one that fits, or to the next power of two. -/
theorem mantissa_le_of_near {value : ℚ} {mantissa : ℕ} (below : value < 2 ^ 53)
    (near : |value - mantissa| ≤ 1 / 2) : mantissa ≤ 2 ^ 53 := by
  have mantissa_lt : (mantissa : ℚ) < (2 ^ 53 + 1 : ℕ) := by
    push_cast
    linarith [neg_le_of_abs_le near]
  exact Nat.le_of_lt_succ (by exact_mod_cast mantissa_lt)

theorem log2_le_of_le {mantissa : ℕ} (most : mantissa ≤ 2 ^ 53) : mantissa.log2 ≤ 53 := by
  calc mantissa.log2 ≤ Nat.log2 (2 ^ 53) := by
        rw [Nat.log2_eq_log_two, Nat.log2_eq_log_two]
        exact Nat.log_mono_right most
    _ = 53 := Nat.log2_two_pow

/-- A ratio that is small enough is rounded to a finite number. -/
theorem ofRatio_rounds {numerator denominator : ℕ} (positive : 0 < denominator)
    (small : (numerator / denominator : ℚ) < 2 ^ (1023 : ℤ)) (negative : Bool) :
    Rounds (signOf negative * (numerator / denominator))
      (ofRatio negative numerator denominator) := by
  rcases Nat.eq_zero_or_pos numerator with rfl | numerator_pos
  · simpa [ofRatio] using rounds_zero negative
  have ratio_eq := shifted_div numerator denominator (unitExponent numerator denominator)
  have below := lt_of_unitExponent numerator_pos positive
  have fine := unitExponent_fine numerator_pos positive
  have most := unitExponent_le numerator_pos positive small
  have least : -1074 ≤ unitExponent numerator denominator := le_max_right _ _
  obtain ⟨near, tie⟩ := roundHalfEven_spec
    (shifted numerator denominator (unitExponent numerator denominator)).1
    (shifted_pos numerator positive (unitExponent numerator denominator))
  rw [ratio_eq] at near tie
  rw [ofRatio, if_neg numerator_pos.ne']
  simp only
  generalize unitExponent numerator denominator = exponent at *
  generalize roundHalfEven _ _ = mantissa at *
  have scaled_lt : (numerator / denominator / 2 ^ exponent : ℚ) < 2 ^ 53 := by
    rw [div_lt_iff₀ (by positivity)]
    refine below.trans_eq ?_
    rw [zpow_add₀ two_ne_zero, mul_comm]
    norm_num
  have mantissa_le := mantissa_le_of_near scaled_lt near
  have rounding : IsRounding (numerator / denominator) ((mantissa : ℤ) * 2 ^ exponent) := by
    refine .of_grid ?_ least most fine near ?_
    · rw [Nat.abs_cast]
      exact_mod_cast mantissa_le
    · exact fun middle => (Int.even_coe_nat mantissa).mpr (tie middle)
  rw [Int.cast_natCast] at rounding
  have bounded : ¬1024 ≤ (mantissa.log2 : ℤ) + exponent := by
    have log_le := log2_le_of_le mantissa_le
    omega
  rw [if_neg bounded]
  split
  · rename_i full
    have carried : toRat (.finite negative (Nat.pow 2 52) (exponent + 1)) =
        signOf negative * (mantissa * 2 ^ exponent) := by
      rw [full, toRat, zpow_add_one₀ two_ne_zero, Nat.pow_eq, Nat.pow_eq]
      push_cast
      ring
    refine ⟨⟨_, _, _, rfl⟩, ?_⟩
    rw [carried]
    exact rounding.signed negative
  · exact ⟨⟨_, _, _, rfl⟩, rounding.signed negative⟩

/-- A number so small that zero is the nearest one. -/
theorem IsRounding.zero_of_small {exact : ℚ} (positive : 0 ≤ exact)
    (small : exact < 2 ^ (-1075 : ℤ)) : IsRounding exact 0 := by
  have scaled : |exact / 2 ^ (-1074 : ℤ) - (0 : ℤ)| < 1 / 2 := by
    rw [Int.cast_zero, sub_zero, abs_of_nonneg (by positivity), div_lt_iff₀ (by positivity)]
    refine small.trans_eq ?_
    rw [show (-1074 : ℤ) = -1075 + 1 by norm_num, zpow_add_one₀ two_ne_zero]
    ring
  have rounding : IsRounding exact ((0 : ℤ) * 2 ^ (-1074 : ℤ)) :=
    .of_grid (by norm_num) (by norm_num) (by norm_num) (.inl rfl) scaled.le
      fun middle => absurd middle scaled.ne
  simpa using rounding

theorem two_zpow_le_ten_zpow {count : ℤ} (positive : 0 ≤ count) :
    (2 : ℚ) ^ (33 * count) ≤ 10 ^ (10 * count) := by
  rw [zpow_mul, zpow_mul]
  exact zpow_le_zpow_left₀ positive (by positivity) (by norm_num)

/-- Digits with a power of ten far below them make a small number. -/
theorem decimal_lt_of_tiny {digits : ℕ} {power : ℤ} (tiny : power + digits.log2 / 3 < -340) :
    (digits * 10 ^ power : ℚ) < 2 ^ (-1075 : ℤ) := by
  have digits_lt : digits < 10 ^ (digits.log2 / 3 + 1) := by
    calc digits < 2 ^ (digits.log2 + 1) := Nat.lt_log2_self
      _ ≤ 2 ^ (3 * (digits.log2 / 3 + 1)) := Nat.pow_le_pow_right two_pos (by omega)
      _ = 8 ^ (digits.log2 / 3 + 1) := by rw [pow_mul]; norm_num
      _ ≤ 10 ^ (digits.log2 / 3 + 1) := Nat.pow_le_pow_left (by norm_num) _
  calc (digits * 10 ^ power : ℚ) < (10 ^ (digits.log2 / 3 + 1) : ℕ) * 10 ^ power := by
        gcongr
    _ = 10 ^ ((digits.log2 / 3 + 1 : ℕ) + power) := by
      rw [zpow_add₀ (by norm_num), zpow_natCast]
      push_cast
      rfl
    _ ≤ 10 ^ (-340 : ℤ) := by
      refine zpow_le_zpow_right₀ (by norm_num) ?_
      push_cast
      omega
    _ ≤ 2 ^ (-(33 * 34) : ℤ) := by
      rw [show (-340 : ℤ) = -(10 * 34) by norm_num, zpow_neg, zpow_neg]
      exact inv_anti₀ (by positivity) (two_zpow_le_ten_zpow (by norm_num))
    _ ≤ 2 ^ (-1075 : ℤ) := zpow_le_zpow_right₀ one_le_two (by norm_num)

/-- Digits with a power of ten far above them make a large number. -/
theorem le_decimal_of_large {digits : ℕ} {power : ℤ} (some_digit : digits ≠ 0)
    (large : 310 < power) : (2 : ℚ) ^ (1023 : ℤ) ≤ digits * 10 ^ power := by
  have digits_pos : (1 : ℚ) ≤ digits := by exact_mod_cast Nat.one_le_iff_ne_zero.mpr some_digit
  calc (2 : ℚ) ^ (1023 : ℤ) ≤ 10 ^ (310 : ℤ) := by
        rw [show (1023 : ℤ) = 33 * 31 by norm_num, show (310 : ℤ) = 10 * 31 by norm_num]
        exact two_zpow_le_ten_zpow (by norm_num)
    _ ≤ 10 ^ power := zpow_le_zpow_right₀ (by norm_num) large.le
    _ ≤ digits * 10 ^ power := le_mul_of_one_le_left (by positivity) digits_pos

/-- The sizes that are decided without a ratio are decided rightly. -/
theorem ofDecimal_rounds {digits : ℕ} {power : ℤ}
    (small : (digits * 10 ^ power : ℚ) < 2 ^ (1023 : ℤ)) (negative : Bool) :
    Rounds (signOf negative * (digits * 10 ^ power)) (ofDecimal negative digits power) := by
  unfold ofDecimal
  split
  · rename_i none
    simpa [none] using rounds_zero negative
  · rename_i some_digit
    split
    · rename_i large
      exact absurd small (le_decimal_of_large some_digit large).not_gt
    · split
      · rename_i tiny
        have rounding := IsRounding.zero_of_small (by positivity) (decimal_lt_of_tiny tiny)
        exact ⟨⟨_, _, _, rfl⟩, by simpa [toRat] using rounding.signed negative⟩
      · have ratio_eq : ((digits * powerTop 10 power : ℕ) / powerBottom 10 power : ℚ) =
            digits * 10 ^ power := by
          rw [Nat.cast_mul, mul_div_assoc, powerTop_div_powerBottom]
          rfl
        rw [← ratio_eq] at small ⊢
        exact ofRatio_rounds (powerBottom_pos (by norm_num) power) small negative

/-- The product with a natural number is rounded once. -/
theorem scale_rounds {number : Binary64} {factor : ℕ}
    (finite : ∃ negative mantissa exponent, number = .finite negative mantissa exponent)
    (small : |number.toRat * factor| < 2 ^ (1023 : ℤ)) :
    Rounds (number.toRat * factor) (number.scale factor) := by
  obtain ⟨negative, mantissa, exponent, rfl⟩ := finite
  have ratio_eq : ((mantissa * factor * powerTop 2 exponent : ℕ) / powerBottom 2 exponent : ℚ) =
      mantissa * 2 ^ exponent * factor := by
    rw [Nat.cast_mul, mul_div_assoc, powerTop_div_powerBottom]
    push_cast
    ring
  have product_eq : toRat (.finite negative mantissa exponent) * factor =
      signOf negative *
        ((mantissa * factor * powerTop 2 exponent : ℕ) / powerBottom 2 exponent : ℚ) := by
    rw [ratio_eq, toRat]
    ring
  have positive : (0 : ℚ) ≤
      (mantissa * factor * powerTop 2 exponent : ℕ) / powerBottom 2 exponent :=
    div_nonneg (Nat.cast_nonneg _) (Nat.cast_nonneg _)
  rw [product_eq] at small ⊢
  rw [abs_mul, abs_signOf, one_mul, abs_of_nonneg positive] at small
  exact ofRatio_rounds (powerBottom_pos two_pos exponent) small negative

/-! ## Integer parts -/

/-- The integer part of a rational number. -/
def towardZero (value : ℚ) : ℤ := if value < 0 then ⌈value⌉ else ⌊value⌋

theorem towardZero_of_nonneg {value : ℚ} (positive : 0 ≤ value) : towardZero value = ⌊value⌋ :=
  if_neg positive.not_gt

theorem towardZero_neg {value : ℚ} (positive : 0 ≤ value) : towardZero (-value) = -⌊value⌋ := by
  rcases positive.eq_or_lt with rfl | strict
  · simp [towardZero]
  · rw [towardZero, if_pos (neg_lt_zero.mpr strict), Int.ceil_neg]

theorem truncate_eq (number : Binary64) : number.truncate = towardZero number.toRat := by
  cases number with
  | infinite | undefined => simp [truncate, toRat, towardZero]
  | finite negative mantissa exponent =>
    have magnitude_eq : ((mantissa * powerTop 2 exponent / powerBottom 2 exponent : ℕ) : ℤ) =
        ⌊(mantissa * 2 ^ exponent : ℚ)⌋ := by
      have ratio_eq := powerTop_div_powerBottom 2 exponent
      rw [Nat.cast_two] at ratio_eq
      rw [← ratio_eq, ← mul_div_assoc, ← Nat.cast_mul, Rat.floor_natCast_div_natCast,
        Int.natCast_div]
    have positive : (0 : ℚ) ≤ mantissa * 2 ^ exponent := by positivity
    cases negative with
    | false => simp [truncate, toRat, signOf, magnitude_eq, towardZero_of_nonneg positive]
    | true => simp [truncate, toRat, signOf, magnitude_eq, towardZero_neg positive]

namespace Rounds

variable {exact : ℚ} {number : Binary64} (rounds : Rounds exact number)
include rounds

theorem isInfinite_eq_false : number.isInfinite = false := by
  obtain ⟨negative, mantissa, exponent, rfl⟩ := rounds.finite
  rfl

theorem isNegative_eq_false (positive : 0 ≤ exact) : number.isNegative = false := by
  have value_nonneg := rounds.rounding.ge_of_isHeld isHeld_zero positive
  obtain ⟨negative, mantissa, exponent, rfl⟩ := rounds.finite
  cases negative with
  | false => rfl
  | true =>
    have none : mantissa = 0 := by
      by_contra some
      have mantissa_pos : (0 : ℚ) < mantissa := by exact_mod_cast Nat.pos_of_ne_zero some
      have value_neg : toRat (.finite true mantissa exponent) < 0 := by
        rw [toRat, signOf, if_pos rfl, neg_one_mul, neg_lt_zero]
        positivity
      exact absurd value_nonneg value_neg.not_ge
    simp [isNegative, none]

end Rounds

end Binary64
end PackageRepos
