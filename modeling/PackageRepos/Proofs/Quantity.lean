import PackageRepos.Proofs.Numeral
import PackageRepos.Quantity

/-!
# Legal quantities

Which texts denote which quantity, whatever the way they are read. Reading agrees with it on every
text except those with an integer of too many digits, which are refused for their length alone.
-/

namespace PackageRepos

theorem Text.lowerChar_of_isDigit {char : Char} (digit : char.isDigit = true) :
    lowerChar char = char := by
  have range : 48 ≤ char.toNat ∧ char.toNat ≤ 57 := Char.isDigit_iff_toNat.mp digit
  have latin : char.toNat ≠ 0x212a := by omega
  have small : ¬(char.val ≥ 'A'.val ∧ char.val ≤ 'Z'.val) := by
    rintro ⟨least, -⟩
    have least_nat : 65 ≤ char.toNat := least
    omega
  rw [lowerChar, if_neg latin]
  exact dif_neg small

namespace Quantity

variable {quantity : Quantity}

/-- The multipliers that the text after a numeral stands for. -/
inductive IsUnit (quantity : Quantity) : Text → Nat → Prop
  | omitted : quantity.IsUnit [] 1
  | letter {char : Char} {multiplier : Nat}
      (known : quantity.unit? (Text.lowerChar char) = some multiplier) :
      quantity.IsUnit [char] multiplier

/-- What a numeral amounts to in units of a size. A number with a point or an exponent is cut to an
integer, after it was found to be finite and, for a bandwidth, not below zero. -/
inductive Amounts (quantity : Quantity) (numeral : Numeral) (multiplier : Nat) : Int → Prop
  | exact (integer : numeral.isInteger = true) :
      quantity.Amounts numeral multiplier (numeral.toInt * multiplier)
  | cut (fractional : numeral.isInteger = false)
      (finite : numeral.toBinary64.isInfinite = false)
      (product_finite : (numeral.toBinary64.scale multiplier).isInfinite = false)
      (signed : quantity = bandwidth → (numeral.toBinary64.scale multiplier).isNegative = false) :
      quantity.Amounts numeral multiplier (numeral.toBinary64.scale multiplier).truncate

/-- The text is a numeral with an optional unit after it, and amounts to the value, which is in
range. -/
def Denotes (quantity : Quantity) (text : Text) (value : Int) : Prop :=
  ∃ (numeral : Numeral) (rest : Text) (multiplier : Nat), numeral.Leads text rest ∧
    quantity.IsUnit rest multiplier ∧ quantity.Amounts numeral multiplier value ∧
    quantity.minimum ≤ value ∧ value ≤ quantity.maximum

/-- The text starts with an integer that has more digits than can be read. -/
def IsOverlong (text : Text) : Prop := ∃ rest, Numeral.IsOverlong text rest

theorem factor_eq_ok_iff {rest : Text} {multiplier : Nat} :
    quantity.factor rest = .ok multiplier ↔ quantity.IsUnit rest multiplier := by
  constructor
  · intro known
    unfold factor at known
    split at known
    · cases known
      exact .omitted
    · split at known
      · rename_i found
        cases known
        exact .letter found
      · simp at known
    · simp at known
  · rintro (_ | known)
    · rfl
    · simp [factor, known]

/-- Unit letters do not go on with a number. -/
theorem IsUnit.not_goesOn {rest : Text} {multiplier : Nat}
    (unit : quantity.IsUnit rest multiplier) : ¬Numeral.GoesOn rest := by
  cases unit with
  | omitted => exact Numeral.not_goesOn_nil
  | @letter char _ known =>
    refine Numeral.not_goesOn_singleton ?_ ?_
    · rw [Bool.eq_false_iff]
      intro digit
      rw [Text.lowerChar_of_isDigit digit] at known
      unfold unit? at known
      split at known <;> simp at digit known
    · rintro rfl
      cases quantity <;> simp [unit?, Text.lowerChar] at known

/-! ## Integers and fractions -/

theorem inRange_eq_ok_iff {value result : Int} :
    quantity.inRange value = .ok result ↔
      value = result ∧ quantity.minimum ≤ value ∧ value ≤ quantity.maximum := by
  unfold inRange
  split
  · rename_i range
    simp [range]
  · rename_i outside
    simp [outside]

theorem error_of_factor {rest : Text} {fault : Fault}
    (unknown : quantity.factor rest = .error fault) :
    fault = .unknownUnit rest := by
  unfold factor at unknown
  split at unknown
  · simp at unknown
  · split at unknown
    · simp at unknown
    · exact (Except.error.inj unknown).symm
  · exact (Except.error.inj unknown).symm

theorem error_of_inRange {value : Int} {fault : Fault}
    (outside : quantity.inRange value = .error fault) : fault = .tooBig := by
  unfold inRange at outside
  split at outside
  · simp at outside
  · exact (Except.error.inj outside).symm

/-- An integer is refused for its length before anything else is looked at. -/
theorem ofInteger_eq (numeral : Numeral) (rest : Text) :
    quantity.ofInteger numeral rest =
      if Numeral.digitLimit < numeral.whole.length then
        .error (.tooManyDigits numeral.whole.length)
      else
        match quantity.factor rest with
        | .error fault => .error fault
        | .ok multiplier =>
          if quantity = bandwidth ∧ numeral.toInt * multiplier < 0 then .error .negative
          else quantity.inRange (numeral.toInt * multiplier) := by
  unfold ofInteger
  split
  · rfl
  · cases quantity.factor rest with
    | error fault => rfl
    | ok multiplier =>
      simp only [bind, Except.bind]
      split <;> rfl

theorem ofFraction_eq (numeral : Numeral) (rest : Text) :
    quantity.ofFraction numeral rest =
      if numeral.toBinary64.isInfinite = true then .error .tooBig
      else
        match quantity.factor rest with
        | .error fault => .error fault
        | .ok multiplier =>
          if (numeral.toBinary64.scale multiplier).isInfinite = true then .error .tooBig
          else if quantity = bandwidth ∧
              (numeral.toBinary64.scale multiplier).isNegative = true then .error .negative
          else quantity.inRange (numeral.toBinary64.scale multiplier).truncate := by
  unfold ofFraction
  simp only
  split
  · rfl
  · cases quantity.factor rest with
    | error fault => rfl
    | ok multiplier =>
      simp only [bind, Except.bind]
      split
      · rfl
      · split <;> rfl

/-- A bandwidth below zero is out of range as well. -/
theorem not_negative {value : Int} (least : quantity.minimum ≤ value) :
    ¬(quantity = bandwidth ∧ value < 0) := by
  rintro ⟨rfl, negative⟩
  simp only [minimum] at least
  omega

theorem ofInteger_eq_ok_iff {numeral : Numeral} {rest : Text} {value : Int}
    (integer : numeral.isInteger = true) :
    quantity.ofInteger numeral rest = .ok value ↔
      numeral.whole.length ≤ Numeral.digitLimit ∧ ∃ multiplier, quantity.IsUnit rest multiplier ∧
        quantity.Amounts numeral multiplier value ∧
        quantity.minimum ≤ value ∧ value ≤ quantity.maximum := by
  rw [ofInteger_eq]
  constructor
  · intro denoted
    split at denoted
    · simp at denoted
    · rename_i short
      split at denoted
      · simp at denoted
      · rename_i multiplier found
        split at denoted
        · simp at denoted
        · obtain ⟨rfl, range⟩ := inRange_eq_ok_iff.mp denoted
          exact ⟨Nat.not_lt.mp short, multiplier, factor_eq_ok_iff.mp found, .exact integer, range⟩
  · rintro ⟨short, multiplier, unit, amounts, least, most⟩
    cases amounts with
    | exact =>
      rw [if_neg (Nat.not_lt.mpr short), factor_eq_ok_iff.mpr unit]
      simp only
      rw [if_neg (not_negative least), inRange_eq_ok_iff]
      exact ⟨rfl, least, most⟩
    | cut fractional => simp [integer] at fractional

theorem ofFraction_eq_ok_iff {numeral : Numeral} {rest : Text} {value : Int}
    (fractional : numeral.isInteger = false) :
    quantity.ofFraction numeral rest = .ok value ↔
      ∃ multiplier, quantity.IsUnit rest multiplier ∧
        quantity.Amounts numeral multiplier value ∧
        quantity.minimum ≤ value ∧ value ≤ quantity.maximum := by
  rw [ofFraction_eq]
  constructor
  · intro denoted
    split at denoted
    · simp at denoted
    · rename_i finite
      split at denoted
      · simp at denoted
      · rename_i multiplier found
        split at denoted
        · simp at denoted
        · rename_i product_finite
          split at denoted
          · simp at denoted
          · rename_i signed
            obtain ⟨rfl, range⟩ := inRange_eq_ok_iff.mp denoted
            refine ⟨multiplier, factor_eq_ok_iff.mp found, ?_, range⟩
            refine .cut fractional (by simpa using finite) (by simpa using product_finite) ?_
            intro bandwidth
            simpa [bandwidth] using signed
  · rintro ⟨multiplier, unit, amounts, least, most⟩
    cases amounts with
    | exact integer => simp [fractional] at integer
    | cut _ finite product_finite signed =>
      have positive : ¬(quantity = bandwidth ∧
          (numeral.toBinary64.scale multiplier).isNegative = true) := by
        rintro ⟨same, negative⟩
        simp [signed same] at negative
      rw [if_neg (by simp [finite]), factor_eq_ok_iff.mpr unit]
      simp only
      rw [if_neg (by simp [product_finite]), if_neg positive, inRange_eq_ok_iff]
      exact ⟨rfl, least, most⟩

/-- The faults of an integer. -/
theorem error_of_ofInteger {numeral : Numeral} {rest : Text} {fault : Fault}
    (refused : quantity.ofInteger numeral rest = .error fault) :
    (Numeral.digitLimit < numeral.whole.length ∧ fault = .tooManyDigits numeral.whole.length) ∨
      fault = .unknownUnit rest ∨ fault = .negative ∨ fault = .tooBig := by
  rw [ofInteger_eq] at refused
  split at refused
  · rename_i long
    exact .inl ⟨long, (Except.error.inj refused).symm⟩
  · split at refused
    · rename_i unknown
      cases refused
      exact .inr (.inl (error_of_factor unknown))
    · split at refused
      · exact .inr (.inr (.inl (Except.error.inj refused).symm))
      · exact .inr (.inr (.inr (error_of_inRange refused)))

/-- The faults of a number with a point or an exponent. -/
theorem error_of_ofFraction {numeral : Numeral} {rest : Text} {fault : Fault}
    (refused : quantity.ofFraction numeral rest = .error fault) :
    fault = .unknownUnit rest ∨ fault = .negative ∨ fault = .tooBig := by
  rw [ofFraction_eq] at refused
  split at refused
  · exact .inr (.inr (Except.error.inj refused).symm)
  · split at refused
    · rename_i unknown
      cases refused
      exact .inl (error_of_factor unknown)
    · split at refused
      · exact .inr (.inr (Except.error.inj refused).symm)
      · split at refused
        · exact .inr (.inl (Except.error.inj refused).symm)
        · exact .inr (.inr (error_of_inRange refused))

theorem ofInteger_eq_tooManyDigits_iff {numeral : Numeral} {rest : Text} {count : Nat} :
    quantity.ofInteger numeral rest = .error (.tooManyDigits count) ↔
      Numeral.digitLimit < numeral.whole.length ∧ numeral.whole.length = count := by
  constructor
  · intro refused
    obtain ⟨long, same⟩ | other := error_of_ofInteger refused
    · exact ⟨long, (Fault.tooManyDigits.inj same).symm⟩
    · simp at other
  · rintro ⟨long, rfl⟩
    rw [ofInteger_eq, if_pos long]

theorem ofFraction_ne_tooManyDigits (numeral : Numeral) (rest : Text) (count : Nat) :
    quantity.ofFraction numeral rest ≠ .error (.tooManyDigits count) := by
  intro refused
  simpa using error_of_ofFraction refused

/-! ## Texts -/

theorem read?_nil : Numeral.read? [] = none := rfl

/-- An empty text is one without a numeral, but for the fault. -/
theorem parse_eq {text : Text} (nonempty : text ≠ []) :
    quantity.parse text =
      match Numeral.read? text with
      | none => .error .notANumber
      | some (numeral, rest) =>
        if numeral.isInteger = true then quantity.ofInteger numeral rest
        else quantity.ofFraction numeral rest := by
  have filled : ¬text.isEmpty = true := by simpa using nonempty
  unfold parse
  exact if_neg filled

/-- Only an empty text counts as missing. -/
theorem parse_ne_missing {text : Text} (nonempty : text ≠ []) :
    quantity.parse text ≠ .error .missing := by
  rw [parse_eq nonempty]
  intro refused
  split at refused
  · simp at refused
  · split at refused
    · simpa using error_of_ofInteger refused
    · simpa using error_of_ofFraction refused

theorem nonempty_of_leads {numeral : Numeral} {text rest : Text}
    (leads : numeral.Leads text rest) : text ≠ [] := by
  rintro rfl
  have read := leads.read?_eq
  simp [read?_nil] at read

/-- Texts are read as what they denote, unless they are too long for that. -/
theorem parse_eq_ok_iff {text : Text} {value : Int} :
    quantity.parse text = .ok value ↔ quantity.Denotes text value ∧ ¬IsOverlong text := by
  constructor
  · intro parsed
    have nonempty : text ≠ [] := by
      rintro rfl
      simp [parse] at parsed
    rw [parse_eq nonempty] at parsed
    split at parsed
    · simp at parsed
    · rename_i numeral rest read
      split at parsed
      · rename_i integer
        obtain ⟨short, multiplier, unit, amounts, range⟩ := (ofInteger_eq_ok_iff integer).mp parsed
        have leads := Numeral.leads_of_read? read fun _ => unit.not_goesOn
        refine ⟨⟨numeral, rest, multiplier, leads, unit, amounts, range⟩, ?_⟩
        rintro ⟨other_rest, other, other_leads, -, long⟩
        obtain ⟨rfl, rfl⟩ := leads.unique other_leads
        omega
      · rename_i fractional
        rw [Bool.not_eq_true] at fractional
        obtain ⟨multiplier, unit, amounts, range⟩ := (ofFraction_eq_ok_iff fractional).mp parsed
        have leads := Numeral.leads_of_read? read fun _ => unit.not_goesOn
        refine ⟨⟨numeral, rest, multiplier, leads, unit, amounts, range⟩, ?_⟩
        rintro ⟨other_rest, other, other_leads, integer, -⟩
        obtain ⟨rfl, rfl⟩ := leads.unique other_leads
        simp [fractional] at integer
  · rintro ⟨⟨numeral, rest, multiplier, leads, unit, amounts, range⟩, short⟩
    rw [parse_eq (nonempty_of_leads leads), leads.read?_eq]
    simp only
    cases integer : numeral.isInteger with
    | true =>
      rw [if_pos rfl, ofInteger_eq_ok_iff integer]
      refine ⟨Nat.not_lt.mp fun long => ?_, multiplier, unit, amounts, range⟩
      exact short ⟨rest, numeral, leads, integer, long⟩
    | false =>
      rw [if_neg Bool.false_ne_true, ofFraction_eq_ok_iff integer]
      exact ⟨multiplier, unit, amounts, range⟩

theorem exists_parse_eq_tooManyDigits_iff {text : Text} :
    (∃ count, quantity.parse text = .error (.tooManyDigits count)) ↔ IsOverlong text := by
  constructor
  · rintro ⟨count, refused⟩
    have nonempty : text ≠ [] := by
      rintro rfl
      simp [parse] at refused
    rw [parse_eq nonempty] at refused
    split at refused
    · simp at refused
    · rename_i numeral rest read
      split at refused
      · rename_i integer
        obtain ⟨long, -⟩ := ofInteger_eq_tooManyDigits_iff.mp refused
        have leads := Numeral.leads_of_read? read (by simp [integer])
        exact ⟨rest, numeral, leads, integer, long⟩
      · exact absurd refused (ofFraction_ne_tooManyDigits numeral rest count)
  · rintro ⟨rest, numeral, leads, integer, long⟩
    refine ⟨numeral.whole.length, ?_⟩
    rw [parse_eq (nonempty_of_leads leads), leads.read?_eq]
    simp only [integer, if_true]
    exact ofInteger_eq_tooManyDigits_iff.mpr ⟨long, rfl⟩

end Quantity
end PackageRepos
