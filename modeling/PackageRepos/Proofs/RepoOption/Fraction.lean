import PackageRepos.Proofs.Binary64.Rounding
import PackageRepos.Proofs.RepoOption.Conversion

/-!
# Quantities with a point or an exponent

Such a number is rounded to a floating-point number, which is multiplied by its unit and rounded
again, and what is before the point of the product counts. Where neither rounding changes anything,
this is the integer part of the exact product.
-/

namespace PackageRepos

namespace Numeral

/-- The number that the digits of an exponent stand for. -/
def shiftOf : Option (Bool × Text) → ℤ
  | some (negative, digits) => signed negative (natOfDigits digits)
  | none => 0

/-- The exact value of a numeral: its digits before the point, those after it as a decimal fraction,
all multiplied by a power of ten. -/
def toRat (numeral : Numeral) : ℚ :=
  let fraction := numeral.fraction.getD []
  Binary64.signOf numeral.negative *
    (natOfDigits numeral.whole + natOfDigits fraction / 10 ^ fraction.length) *
    10 ^ shiftOf numeral.exponent

theorem natOfDigits_append (left right : Text) :
    natOfDigits (left ++ right) = natOfDigits left * 10 ^ right.length + natOfDigits right := by
  rw [natOfDigits, Nat.ofDigitChars_append, Nat.ofDigitChars_eq_ofDigitChars_zero, mul_comm]
  rfl

/-- The exact value in all digits and a power of ten. -/
theorem toRat_eq (numeral : Numeral) :
    numeral.toRat =
      Binary64.signOf numeral.negative * (numeral.significand * 10 ^ numeral.power) := by
  have power_eq : numeral.power =
      shiftOf numeral.exponent - (numeral.fraction.getD []).length := by
    obtain ⟨negative, whole, fraction, exponent⟩ := numeral
    cases exponent <;> rfl
  rw [toRat, significand, natOfDigits_append, power_eq, zpow_sub₀ (by norm_num), zpow_natCast]
  push_cast
  field_simp

theorem rounds_toBinary64 {numeral : Numeral} (small : |numeral.toRat| < 2 ^ (1023 : ℤ)) :
    Binary64.Rounds numeral.toRat numeral.toBinary64 := by
  have positive : (0 : ℚ) ≤ numeral.significand * 10 ^ numeral.power :=
    mul_nonneg (Nat.cast_nonneg _) (by positivity)
  rw [toRat_eq] at small ⊢
  rw [abs_mul, Binary64.abs_signOf, one_mul, abs_of_nonneg positive] at small
  exact Binary64.ofDecimal_rounds small numeral.negative

end Numeral

namespace Quantity

open Binary64

variable {quantity : Quantity}

/-- The values of a quantity, with what is between them. -/
def Spans : Quantity → ℚ → Prop
  | interval, value => -2 ^ 63 ≤ value ∧ value ≤ 2 ^ 63 - 1
  | bandwidth, value => 0 ≤ value ∧ value ≤ 2 ^ 64 - 1

/-- The text is blanks, a numeral with a point or an exponent, and an optional unit. It stands for
the exact value of the numeral and the multiplier of the unit. -/
inductive WritesFraction (quantity : Quantity) : ℚ → ℕ → Text → Prop
  | parts {numeral : Numeral} {blanks spelled rest : Text} {multiplier : ℕ}
      (blank : ∀ char ∈ blanks, Text.isAsciiBlank char = true) (spells : numeral.Spells spelled)
      (fractional : numeral.isInteger = false) (unit : quantity.IsUnit rest multiplier) :
      quantity.WritesFraction numeral.toRat multiplier (blanks ++ (spelled ++ rest))

theorem IsUnit.le {rest : Text} {multiplier : ℕ} (unit : quantity.IsUnit rest multiplier) :
    1 ≤ multiplier ∧ multiplier ≤ 2 ^ 30 := by
  cases unit with
  | omitted => decide
  | letter known =>
    unfold unit? at known
    split at known <;> simp at known <;> omega

theorem Spans.abs_le_two_zpow {value : ℚ} (spans : quantity.Spans value) :
    |value| ≤ 2 ^ (64 : ℤ) := by
  cases quantity <;>
  · refine abs_le.mpr ⟨?_, ?_⟩
    · linarith [spans.1]
    · linarith [spans.2]

/-- The integer part of a value between those of a quantity is one of them. -/
theorem Spans.hasRoomFor {value : ℚ} (spans : quantity.Spans value) :
    quantity.HasRoomFor (towardZero value) := by
  rcases le_or_gt 0 value with positive | negative
  · rw [towardZero_of_nonneg positive]
    have floor_nonneg := Int.floor_nonneg.mpr positive
    cases quantity with
    | interval =>
      have most : ⌊value⌋ ≤ 2 ^ 63 - 1 := by
        exact_mod_cast (Int.floor_le value).trans spans.2
      exact ⟨by omega, most⟩
    | bandwidth =>
      have most : ⌊value⌋ ≤ 2 ^ 64 - 1 := by
        exact_mod_cast (Int.floor_le value).trans spans.2
      exact ⟨floor_nonneg, most⟩
  · rw [towardZero, if_pos negative]
    have ceil_nonpos : ⌈value⌉ ≤ 0 := Int.ceil_le.mpr (by exact_mod_cast negative.le)
    cases quantity with
    | interval =>
      have least : -2 ^ 63 ≤ ⌈value⌉ := by
        exact_mod_cast spans.1.trans (Int.le_ceil value)
      exact ⟨least, by omega⟩
    | bandwidth => exact absurd spans.1 negative.not_ge

theorem WritesFraction.exists_leads {text : Text} {exact : ℚ} {multiplier : ℕ}
    (writes : quantity.WritesFraction exact multiplier text) :
    ∃ (numeral : Numeral) (rest : Text), numeral.Leads text rest ∧ numeral.isInteger = false ∧
      quantity.IsUnit rest multiplier ∧ numeral.toRat = exact := by
  cases writes with
  | parts blank spells fractional unit =>
    exact ⟨_, _, ⟨⟨_, _, rfl, blank, spells⟩, unit.not_goesOn⟩, fractional, unit, rfl⟩

/-- The number and its product with the unit are both rounded, and the product is below zero only if
the exact one is. -/
theorem rounds_product {numeral : Numeral} {multiplier : ℕ} (least : 1 ≤ multiplier)
    (most : multiplier ≤ 2 ^ 30) (spans : quantity.Spans (numeral.toRat * multiplier)) :
    Rounds numeral.toRat numeral.toBinary64 ∧
      Rounds (numeral.toBinary64.toRat * multiplier) (numeral.toBinary64.scale multiplier) ∧
        (quantity = bandwidth → 0 ≤ numeral.toBinary64.toRat * multiplier) := by
  have least_rat : (1 : ℚ) ≤ multiplier := by exact_mod_cast least
  have most_rat : (multiplier : ℚ) ≤ 2 ^ 30 := by exact_mod_cast most
  have exact_le : |numeral.toRat| ≤ 2 ^ (64 : ℤ) := by
    calc |numeral.toRat| ≤ |numeral.toRat| * multiplier :=
          le_mul_of_one_le_right (abs_nonneg _) least_rat
      _ = |numeral.toRat * multiplier| := by rw [abs_mul, Nat.abs_cast]
      _ ≤ 2 ^ (64 : ℤ) := spans.abs_le_two_zpow
  have rounds : Rounds numeral.toRat numeral.toBinary64 :=
    Numeral.rounds_toBinary64 (exact_le.trans_lt (zpow_lt_zpow_right₀ one_lt_two (by norm_num)))
  have magnitude_le : |numeral.toBinary64.toRat| ≤ 2 ^ (64 : ℤ) :=
    rounds.rounding.abs_le_of_isHeld (isHeld_two_zpow (by norm_num) (by norm_num)) exact_le
  have product_lt : |numeral.toBinary64.toRat * multiplier| < 2 ^ (1023 : ℤ) := by
    calc |numeral.toBinary64.toRat * multiplier|
        = |numeral.toBinary64.toRat| * multiplier := by rw [abs_mul, Nat.abs_cast]
      _ ≤ 2 ^ (64 : ℤ) * 2 ^ 30 := by gcongr
      _ = 2 ^ (94 : ℤ) := by norm_num
      _ < 2 ^ (1023 : ℤ) := zpow_lt_zpow_right₀ one_lt_two (by norm_num)
  refine ⟨rounds, scale_rounds rounds.finite product_lt, ?_⟩
  rintro rfl
  have exact_nonneg : 0 ≤ numeral.toRat := nonneg_of_mul_nonneg_left spans.1 (by linarith)
  exact mul_nonneg (rounds.rounding.ge_of_isHeld isHeld_zero exact_nonneg) (Nat.cast_nonneg _)

/-- What is written with a point or an exponent amounts to the integer part of the product that
remains after rounding twice. -/
theorem denotes_iff_of_fraction {numeral : Numeral} {text rest : Text} {multiplier : ℕ}
    (leads : numeral.Leads text rest) (fractional : numeral.isInteger = false)
    (unit : quantity.IsUnit rest multiplier)
    (spans : quantity.Spans (numeral.toRat * multiplier)) (value : ℤ) :
    quantity.Denotes text value ↔
      value = towardZero (numeral.toBinary64.scale multiplier).toRat ∧
        quantity.HasRoomFor value := by
  obtain ⟨rounds, scaled, positive⟩ := rounds_product unit.le.1 unit.le.2 spans
  rw [denotes_iff_of_leads leads unit, ← truncate_eq]
  refine and_congr_left' ⟨fun amounts => ?_, ?_⟩
  · cases amounts with
    | exact integer => simp [fractional] at integer
    | cut => rfl
  · rintro rfl
    have signed : quantity = bandwidth →
        (numeral.toBinary64.scale multiplier).isNegative = false := fun same =>
      scaled.isNegative_eq_false (positive same)
    exact .cut fractional rounds.isInfinite_eq_false scaled.isInfinite_eq_false signed

/-- A number with a point or an exponent is rounded to a floating-point number, multiplied by its
unit and rounded again, and then cut to an integer. It is refused as invalid if that is out of
range, although the exact product is not. -/
theorem ofValue_of_writesFraction {text : Text} {exact : ℚ} {multiplier : ℕ}
    (writes : quantity.WritesFraction exact multiplier text)
    (spans : quantity.Spans (exact * multiplier)) :
    ∃ magnitude product : ℚ, IsRounding exact magnitude ∧
      IsRounding (magnitude * multiplier) product ∧
      (quantity.HasRoomFor (towardZero product) →
        quantity.ofValue (.text text) = .ok (towardZero product)) ∧
      (¬quantity.HasRoomFor (towardZero product) → IsInvalid (quantity.ofValue (.text text))) ∧
      (IsHeld exact → IsHeld (exact * multiplier) →
        quantity.ofValue (.text text) = .ok (towardZero (exact * multiplier))) := by
  obtain ⟨numeral, rest, leads, fractional, unit, rfl⟩ := writes.exists_leads
  have short : ¬IsOverlong text := by
    rintro ⟨other_rest, other, other_leads, integer, -⟩
    obtain ⟨rfl, rfl⟩ := leads.unique other_leads
    simp [fractional] at integer
  obtain ⟨rounds, scaled, -⟩ := rounds_product unit.le.1 unit.le.2 spans
  have denotes_iff := denotes_iff_of_fraction leads fractional unit spans
  have counts := fun room => ofValue_of_denotes short ((denotes_iff _).mpr ⟨rfl, room⟩)
  refine ⟨_, _, rounds.rounding, scaled.rounding, counts, fun full => ?_,
    fun held product_held => ?_⟩
  · refine isInvalid_of_not_denotes short (nonempty_of_leads leads) fun value denotes => full ?_
    obtain ⟨rfl, room⟩ := (denotes_iff value).mp denotes
    exact room
  · have magnitude_eq := rounds.rounding.unique (.of_isHeld held)
    have product_exact : IsRounding (numeral.toBinary64.toRat * multiplier)
        (numeral.toRat * multiplier) := by
      rw [magnitude_eq]
      exact .of_isHeld product_held
    rw [scaled.rounding.unique product_exact] at counts
    exact counts spans.hasRoomFor

/-- Minus one and a half minutes are exact. -/
theorem ninety_seconds_are_exact :
    interval.ofValue (.text (Text.of "-1.5M")) = .ok (-90) := by
  have one : Numeral.natOfDigits ['1'] = 1 := rfl
  have five : Numeral.natOfDigits ['5'] = 5 := rfl
  have exact_eq : Numeral.toRat ⟨true, ['1'], some ['5'], none⟩ = -(3 / 2) := by
    norm_num [Numeral.toRat, Numeral.shiftOf, signOf, one, five]
  have decimals : Numeral.SpellsDecimal ['1'] (some ['5']) (Text.of "1.5") :=
    .pointed (by decide) (by decide) (by decide)
  have spells : Numeral.Spells ⟨true, ['1'], some ['5'], none⟩ (Text.of "-1.5") :=
    @Numeral.Spells.parts ⟨true, ['1'], some ['5'], none⟩ _ _ _ .minus decimals .absent
  have minutes : interval.unit? (Text.lowerChar 'M') = some 60 := rfl
  have writes : interval.WritesFraction (-(3 / 2)) 60 (Text.of "-1.5M") := by
    rw [← exact_eq]
    exact .parts (List.forall_mem_nil _) spells rfl (.letter minutes)
  obtain ⟨magnitude, product, -, -, -, -, counts⟩ :=
    ofValue_of_writesFraction writes (by norm_num [Spans])
  have whole : towardZero (-(3 / 2) * (60 : ℕ)) = -90 := by norm_num [towardZero]
  rw [← whole]
  refine counts ⟨-3, -1, ?_⟩ ⟨-90, 0, ?_⟩ <;> norm_num

/-- Seven tenths of a day lack one second. -/
theorem seven_tenths_of_a_day_fall_short :
    (∃ exact, interval.WritesFraction exact 86400 (Text.of "0.7d") ∧
      interval.Spans (exact * (86400 : ℕ)) ∧ towardZero (exact * (86400 : ℕ)) = 60480) ∧
    interval.ofValue (.text (Text.of "0.7d")) = .ok 60479 := by
  have zero : Numeral.natOfDigits ['0'] = 0 := rfl
  have seven : Numeral.natOfDigits ['7'] = 7 := rfl
  have exact_eq : Numeral.toRat ⟨false, ['0'], some ['7'], none⟩ = 7 / 10 := by
    norm_num [Numeral.toRat, Numeral.shiftOf, signOf, zero, seven]
  have decimals : Numeral.SpellsDecimal ['0'] (some ['7']) (Text.of "0.7") :=
    .pointed (by decide) (by decide) (by decide)
  have spells : Numeral.Spells ⟨false, ['0'], some ['7'], none⟩ (Text.of "0.7") :=
    @Numeral.Spells.parts ⟨false, ['0'], some ['7'], none⟩ _ _ _ .unsigned decimals .absent
  have days : interval.unit? (Text.lowerChar 'd') = some 86400 := rfl
  refine ⟨⟨7 / 10, ?_, by norm_num [Spans], by norm_num [towardZero]⟩, rfl⟩
  rw [← exact_eq]
  exact .parts (List.forall_mem_nil _) spells rfl (.letter days)

end Quantity
end PackageRepos
