import Mathlib.Algebra.Order.Field.Power
import Mathlib.Data.Rat.Floor
import Mathlib.Tactic.Linarith
import Mathlib.Tactic.LinearCombination
import Mathlib.Tactic.NormNum
import Mathlib.Tactic.Positivity
import Mathlib.Tactic.Ring
import PackageRepos.Binary64

/-!
# The nearest number

What it is for a rational number to be rounded to 53 significant bits, said without an algorithm:
the result is held by the format, none held is nearer, and of two that are equally near it is the
even one. There is one such number, and the nearest multiple of a unit is it, if the unit fits.
-/

namespace PackageRepos
namespace Binary64

/-! ## The specification -/

/-- The finite numbers of the format. -/
def IsHeld (value : ℚ) : Prop :=
  ∃ mantissa exponent : ℤ, |mantissa| < 2 ^ 53 ∧ -1074 ≤ exponent ∧ exponent ≤ 971 ∧
    value = mantissa * 2 ^ exponent

/-- The second number is the first one rounded to the format. -/
structure IsRounding (exact rounded : ℚ) : Prop where
  held : IsHeld rounded
  nearest : ∀ other, IsHeld other → |exact - rounded| ≤ |exact - other|
  /-- Of two numbers that are equally near, the chosen one is an even multiple of their distance. -/
  even : ∀ other, IsHeld other → other ≠ rounded → |exact - other| = |exact - rounded| →
    ∃ half : ℤ, rounded = 2 * half * (other - rounded)

theorem IsHeld.neg {value : ℚ} (held : IsHeld value) : IsHeld (-value) := by
  obtain ⟨mantissa, exponent, bounded, least, most, rfl⟩ := held
  exact ⟨-mantissa, exponent, by rwa [abs_neg], least, most, by push_cast; ring⟩

theorem isHeld_two_zpow {exponent : ℤ} (least : -1074 ≤ exponent) (most : exponent ≤ 971) :
    IsHeld (2 ^ exponent) :=
  ⟨1, exponent, by norm_num, least, most, by simp⟩

theorem isHeld_zero : IsHeld 0 := ⟨0, 0, by norm_num, by norm_num, by norm_num, by simp⟩

namespace IsRounding

variable {exact rounded bound : ℚ}

theorem of_isHeld (held : IsHeld exact) : IsRounding exact exact where
  held := held
  nearest other _ := by simp
  even other _ distinct near := by
    rw [sub_self, abs_zero, abs_eq_zero, sub_eq_zero] at near
    exact absurd near.symm distinct

theorem neg (rounding : IsRounding exact rounded) : IsRounding (-exact) (-rounded) := by
  have mirrored : ∀ value : ℚ, |-exact - value| = |exact - -value| := fun value => by
    rw [← abs_neg]
    ring_nf
  refine ⟨rounding.held.neg, fun other held => ?_, fun other held distinct near => ?_⟩
  · simpa only [mirrored, neg_neg] using rounding.nearest _ held.neg
  · simp only [mirrored, neg_neg] at near
    have mirrored_distinct : -other ≠ rounded := fun same => distinct (by rw [← same, neg_neg])
    obtain ⟨half, half_eq⟩ := rounding.even _ held.neg mirrored_distinct near
    exact ⟨half, by linear_combination -half_eq⟩

/-- There is one way to round. -/
theorem unique {other : ℚ} (rounding : IsRounding exact rounded)
    (other_rounding : IsRounding exact other) : rounded = other := by
  by_contra distinct
  have near : |exact - rounded| = |exact - other| :=
    le_antisymm (rounding.nearest _ other_rounding.held) (other_rounding.nearest _ rounding.held)
  obtain ⟨half, half_eq⟩ := rounding.even _ other_rounding.held (Ne.symm distinct) near.symm
  obtain ⟨other_half, other_eq⟩ := other_rounding.even _ rounding.held distinct near
  have gap : other - rounded ≠ 0 := sub_ne_zero.mpr (Ne.symm distinct)
  have odd : (2 * (half + other_half) + 1 : ℚ) = 0 := by
    refine (mul_eq_zero.mp ?_).resolve_right gap
    linear_combination other_eq - half_eq
  have odd_int : 2 * (half + other_half) + 1 = 0 := by exact_mod_cast odd
  omega

theorem le_of_isHeld (rounding : IsRounding exact rounded) (held : IsHeld bound)
    (below : exact ≤ bound) : rounded ≤ bound := by
  by_contra beyond
  have nearest := rounding.nearest bound held
  rw [abs_sub_comm exact rounded, abs_of_nonneg (by linarith),
    abs_of_nonpos (by linarith)] at nearest
  linarith

theorem ge_of_isHeld (rounding : IsRounding exact rounded) (held : IsHeld bound)
    (above : bound ≤ exact) : bound ≤ rounded := by
  linarith [rounding.neg.le_of_isHeld held.neg (neg_le_neg above)]

theorem abs_le_of_isHeld (rounding : IsRounding exact rounded) (held : IsHeld bound)
    (within : |exact| ≤ bound) : |rounded| ≤ bound := by
  obtain ⟨least, most⟩ := abs_le.mp within
  exact abs_le.mpr ⟨rounding.ge_of_isHeld held.neg least, rounding.le_of_isHeld held most⟩

end IsRounding

/-! ## Multiples of a unit -/

section Grid

variable {exact : ℚ} {mantissa exponent : ℤ}

theorem isHeld_grid (bounded : |mantissa| ≤ 2 ^ 53) (least : -1074 ≤ exponent)
    (most : exponent ≤ 970) : IsHeld (mantissa * 2 ^ exponent) := by
  rcases bounded.lt_or_eq with strict | full
  · exact ⟨mantissa, exponent, strict, least, by omega, rfl⟩
  · have raised : ∃ sign : ℤ, |sign| = 1 ∧ mantissa = sign * 2 ^ 53 := by
      rcases (abs_eq (by positivity)).mp full with rfl | rfl
      · exact ⟨1, by norm_num, by norm_num⟩
      · exact ⟨-1, by norm_num, by norm_num⟩
    obtain ⟨sign, unit, rfl⟩ := raised
    refine ⟨sign * 2 ^ 52, exponent + 1, ?_, by omega, by omega, ?_⟩
    · rw [abs_mul, unit]
      norm_num
    · rw [zpow_add_one₀ two_ne_zero]
      push_cast
      ring

/-- A number of the format is a multiple of the unit, or smaller than the numbers that have the
unit in their last place. -/
theorem IsHeld.grid_or_small {value : ℚ} (held : IsHeld value) (exponent : ℤ) :
    (∃ count : ℤ, value = count * 2 ^ exponent) ∨
      (exponent ≠ -1074 ∧ value < 2 ^ (exponent + 52)) := by
  obtain ⟨count, power, bounded, least, most, rfl⟩ := held
  rcases le_or_gt exponent power with coarse | fine
  · left
    obtain ⟨shift, rfl⟩ := Int.le.dest coarse
    refine ⟨count * 2 ^ shift, ?_⟩
    rw [zpow_add₀ two_ne_zero, zpow_natCast]
    push_cast
    ring
  · right
    refine ⟨by omega, ?_⟩
    have count_lt : (count : ℚ) < 2 ^ 53 := by
      exact_mod_cast (le_abs_self count).trans_lt bounded
    calc (count : ℚ) * 2 ^ power < 2 ^ 53 * 2 ^ power := by gcongr
      _ = 2 ^ (power + 53) := by rw [zpow_add₀ two_ne_zero]; norm_num [mul_comm]
      _ ≤ 2 ^ (exponent + 52) := by
        refine zpow_le_zpow_right₀ one_le_two ?_
        omega

/-- An integer within one half is the nearest one, and only its neighbours can be equally near. -/
theorem nearest_integer {value : ℚ} {integer other : ℤ} (near : |value - integer| ≤ 1 / 2)
    (distinct : other ≠ integer) :
    |value - integer| ≤ |value - other| ∧
      (|value - other| = |value - integer| →
        |value - integer| = 1 / 2 ∧ (other = integer + 1 ∨ other = integer - 1)) := by
  have apart : (1 : ℚ) ≤ |(other : ℚ) - integer| := by
    exact_mod_cast Int.one_le_abs (sub_ne_zero.mpr distinct)
  have triangle : |(other : ℚ) - integer| ≤ |value - other| + |value - integer| := by
    rw [abs_sub_comm value other]
    exact abs_sub_le _ _ _
  refine ⟨by linarith, fun equal => ⟨by linarith, ?_⟩⟩
  have adjacent : |(other : ℚ) - integer| = 1 := by linarith
  have adjacent_int : |other - integer| = 1 := by exact_mod_cast adjacent
  rcases (abs_eq zero_le_one).mp adjacent_int with above | below
  · exact .inl (by omega)
  · exact .inr (by omega)

/-- A multiple of a unit is the rounding if it is the nearest one, the even one of two, and the unit
is not too large for the number. -/
theorem IsRounding.of_grid (bounded : |mantissa| ≤ 2 ^ 53) (least : -1074 ≤ exponent)
    (most : exponent ≤ 970) (fine : exponent = -1074 ∨ 2 ^ (exponent + 52) ≤ exact)
    (near : |exact / 2 ^ exponent - mantissa| ≤ 1 / 2)
    (tie : |exact / 2 ^ exponent - mantissa| = 1 / 2 → Even mantissa) :
    IsRounding exact (mantissa * 2 ^ exponent) := by
  have unit_pos : (0 : ℚ) < 2 ^ exponent := by positivity
  have distance : ∀ count : ℤ,
      |exact - count * 2 ^ exponent| = |exact / 2 ^ exponent - count| * 2 ^ exponent := by
    intro count
    rw [← abs_of_pos unit_pos, ← abs_mul, abs_of_pos unit_pos, sub_mul,
      div_mul_cancel₀ _ unit_pos.ne']
  have grid_nearest : ∀ count : ℤ,
      |exact - mantissa * 2 ^ exponent| ≤ |exact - count * 2 ^ exponent| := by
    intro count
    rw [distance, distance]
    rcases eq_or_ne count mantissa with rfl | distinct
    · exact le_rfl
    · exact mul_le_mul_of_nonneg_right (nearest_integer near distinct).1 unit_pos.le
  have small_farther : ∀ other : ℚ, exponent ≠ -1074 → other < 2 ^ (exponent + 52) →
      |exact - mantissa * 2 ^ exponent| < |exact - other| := by
    intro other normal small
    have large : 2 ^ (exponent + 52) ≤ exact := fine.resolve_left normal
    have edge : ((2 ^ 52 : ℤ) : ℚ) * 2 ^ exponent = 2 ^ (exponent + 52) := by
      rw [zpow_add₀ two_ne_zero]
      norm_num [mul_comm]
    calc |exact - mantissa * 2 ^ exponent| ≤ |exact - (2 ^ 52 : ℤ) * 2 ^ exponent| :=
          grid_nearest (2 ^ 52)
      _ = exact - 2 ^ (exponent + 52) := by rw [edge, abs_of_nonneg (sub_nonneg.mpr large)]
      _ < exact - other := sub_lt_sub_left small exact
      _ ≤ |exact - other| := le_abs_self _
  refine ⟨isHeld_grid bounded least most, fun other held => ?_, fun other held distinct equal => ?_⟩
  · obtain ⟨count, rfl⟩ | ⟨normal, small⟩ := held.grid_or_small exponent
    · exact grid_nearest count
    · exact (small_farther other normal small).le
  · obtain ⟨count, rfl⟩ | ⟨normal, small⟩ := held.grid_or_small exponent
    · have other_count : count ≠ mantissa := by
        rintro rfl
        exact distinct rfl
      rw [distance, distance] at equal
      obtain ⟨half_way, neighbour⟩ :=
        (nearest_integer near other_count).2 (mul_right_cancel₀ unit_pos.ne' equal)
      obtain ⟨half, rfl⟩ := tie half_way
      rcases neighbour with rfl | rfl
      · exact ⟨half, by push_cast; ring⟩
      · exact ⟨-half, by push_cast; ring⟩
    · exact absurd equal (small_farther other normal small).ne'

end Grid

end Binary64
end PackageRepos
