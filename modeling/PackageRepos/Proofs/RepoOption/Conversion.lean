import Mathlib.Algebra.Group.Int.Defs
import Mathlib.Algebra.Group.Nat.Defs
import PackageRepos.Proofs.RepoOption.Legality
import PackageRepos.Quantity.Request

/-!
# Numbers that are converted exactly

The converters of quantities take blanks, a numeral and at most one unit letter, and refuse every
other text as invalid. An integer among these counts exactly, as long as the quantity has room for
it, and so does an integer of 32 bits. All this is said of texts with no more digits than can be
read.
-/

namespace PackageRepos

/-- The outcome is a refusal of what was given as an invalid value. -/
def IsInvalid {α : Type} (outcome : Except Failure α) : Prop :=
  ∃ error : RepoError, outcome = .error (.error error) ∧ error.category = .value

/-! ## Written integers -/

namespace Numeral

instance (text : Text) : Decidable (AreDigits text) :=
  List.decidableBAll _ text

/-- After blanks, the text starts with the digits of an integer and the sign before them, if any,
and the rest follows. -/
inductive WritesInteger : Int → Text → Text → Prop
  | parts {blanks sign digits : Text} {negative : Bool} (rest : Text)
      (blank : ∀ char ∈ blanks, Text.isAsciiBlank char = true)
      (signed : SpellsSign negative sign) (are_digits : AreDigits digits)
      (nonempty : digits ≠ []) :
      WritesInteger (Numeral.signed negative (natOfDigits digits))
        (blanks ++ (sign ++ (digits ++ rest))) rest

theorem WritesInteger.exists_leads {number : Int} {text rest : Text}
    (writes : WritesInteger number text rest) (ends : ¬GoesOn rest) :
    ∃ numeral : Numeral, numeral.Leads text rest ∧ numeral.isInteger = true ∧
      numeral.toInt = number := by
  cases writes with
  | @parts blanks sign digits negative _ blank signed are_digits nonempty =>
    refine ⟨{ negative, whole := digits }, ⟨⟨blanks, sign ++ (digits ++ []), ?_, blank, ?_⟩, ends⟩,
      rfl, rfl⟩
    · simp
    · exact .parts signed (.integer are_digits nonempty) .absent

theorem Leads.writesInteger {numeral : Numeral} {text rest : Text} (leads : numeral.Leads text rest)
    (integer : numeral.isInteger = true) : WritesInteger numeral.toInt text rest := by
  obtain ⟨⟨blanks, spelled, rfl, blank, ⟨signed, decimals, scaled⟩⟩, -⟩ := leads
  obtain ⟨negative, whole, fraction, exponent⟩ := numeral
  obtain ⟨rfl, rfl⟩ : fraction = none ∧ exponent = none := by simpa [isInteger] using integer
  cases scaled
  cases decimals with
  | integer are_digits nonempty =>
    rw [List.append_nil, List.append_assoc]
    exact .parts rest blank signed are_digits nonempty

/-- Blanks are nothing that a number goes on with. -/
theorem not_goesOn_of_blank {rest : Text} (blank : ∀ char ∈ rest, Text.isAsciiBlank char = true) :
    ¬GoesOn rest := by
  intro goes
  cases goes with
  | digit digit =>
    have solid := isAsciiBlank_of_isDigit digit
    simp [blank _ List.mem_cons_self] at solid
  | point => exact absurd (blank '.' List.mem_cons_self) (by decide)
  | exponent spells =>
    cases spells with
    | marked mark_eq =>
      have marked := blank _ List.mem_cons_self
      rcases mark_eq with rfl | rfl <;> exact absurd marked (by decide)

/-- An integer that is too long takes its digits from the text. -/
theorem IsOverlong.lt_countP {text rest : Text} (overlong : IsOverlong text rest) :
    digitLimit < text.countP Char.isDigit := by
  obtain ⟨numeral, leads, integer, long⟩ := overlong
  obtain ⟨⟨blanks, spelled, rfl, -, ⟨-, decimals, -⟩⟩, -⟩ := leads
  obtain ⟨negative, whole, fraction, exponent⟩ := numeral
  obtain ⟨rfl, rfl⟩ : fraction = none ∧ exponent = none := by simpa [isInteger] using integer
  cases decimals with
  | integer are_digits =>
    have counted : whole.countP Char.isDigit = whole.length := List.countP_eq_length.mpr are_digits
    simp only [List.countP_append]
    simp only at long
    omega

end Numeral

/-! ## Quantities -/

namespace Quantity

/-- The unit letters, in either case, with their multipliers. -/
inductive IsLetter : Quantity → Char → Nat → Prop
  | second {letter : Char} (same : letter = 's' ∨ letter = 'S') : IsLetter interval letter 1
  | minute {letter : Char} (same : letter = 'm' ∨ letter = 'M') : IsLetter interval letter 60
  | hour {letter : Char} (same : letter = 'h' ∨ letter = 'H') : IsLetter interval letter 3600
  | day {letter : Char} (same : letter = 'd' ∨ letter = 'D') : IsLetter interval letter 86400
  | kilo {letter : Char} (same : letter = 'k' ∨ letter = 'K') : IsLetter bandwidth letter (2 ^ 10)
  | mega {letter : Char} (same : letter = 'm' ∨ letter = 'M') : IsLetter bandwidth letter (2 ^ 20)
  | giga {letter : Char} (same : letter = 'g' ∨ letter = 'G') : IsLetter bandwidth letter (2 ^ 30)

/-- The rest of a text is empty or a unit letter, and stands for the multiplier. -/
inductive IsMeasure (quantity : Quantity) : Text → Nat → Prop
  | plain : quantity.IsMeasure [] 1
  | letter {char : Char} {multiplier : Nat} (known : quantity.IsLetter char multiplier) :
      quantity.IsMeasure [char] multiplier

/-- The values of a quantity: an interval has 64 bits with a sign, a bandwidth 64 bits without. -/
def HasRoomFor : Quantity → Int → Prop
  | interval, value => -2 ^ 63 ≤ value ∧ value ≤ 2 ^ 63 - 1
  | bandwidth, value => 0 ≤ value ∧ value ≤ 2 ^ 64 - 1

instance (quantity : Quantity) (value : Int) : Decidable (quantity.HasRoomFor value) :=
  match quantity with
  | interval | bandwidth => inferInstanceAs (Decidable (_ ∧ _))

variable {quantity : Quantity}

theorem hasRoomFor_iff {value : Int} :
    quantity.HasRoomFor value ↔ quantity.minimum ≤ value ∧ value ≤ quantity.maximum := by
  cases quantity <;> exact Iff.rfl

theorem IsMeasure.isUnit {rest : Text} {multiplier : Nat}
    (measure : quantity.IsMeasure rest multiplier) : quantity.IsUnit rest multiplier := by
  cases measure with
  | plain => exact .omitted
  | letter known =>
    refine .letter ?_
    cases known with
    | second same | minute same | hour same | day same | kilo same | mega same | giga same =>
      rcases same with rfl | rfl <;> rfl

theorem IsUnit.unique {rest : Text} {multiplier other : Nat}
    (unit : quantity.IsUnit rest multiplier) (other_unit : quantity.IsUnit rest other) :
    multiplier = other := by
  have known := factor_eq_ok_iff.mpr unit
  rw [factor_eq_ok_iff.mpr other_unit] at known
  exact (Except.ok.inj known).symm

/-- What converting a text is to come to: its integer counts exactly if it has one, and what is not
written as a number with a unit is refused. -/
structure ConvertsExactly (quantity : Quantity) (text : Text) : Prop where
  counts : ∀ number rest multiplier, Numeral.WritesInteger number text rest →
    quantity.IsMeasure rest multiplier →
      (quantity.HasRoomFor (number * multiplier) →
        quantity.ofValue (.text text) = .ok (number * multiplier)) ∧
      (¬quantity.HasRoomFor (number * multiplier) → IsInvalid (quantity.ofValue (.text text)))
  refuses : (¬∃ (numeral : Numeral) (blanks spelled rest : Text) (multiplier : Nat),
      text = blanks ++ (spelled ++ rest) ∧ (∀ char ∈ blanks, Text.isAsciiBlank char = true) ∧
        numeral.Spells spelled ∧ quantity.IsUnit rest multiplier) →
    IsInvalid (quantity.ofValue (.text text))

section Leads

variable {numeral : Numeral} {text rest : Text} {multiplier : Nat}
  (leads : numeral.Leads text rest) (unit : quantity.IsUnit rest multiplier)
include leads unit

/-- A text is read in one way, so its value is the one that its numeral and unit amount to. -/
theorem denotes_iff_of_leads (value : Int) :
    quantity.Denotes text value ↔
      quantity.Amounts numeral multiplier value ∧ quantity.HasRoomFor value := by
  rw [hasRoomFor_iff]
  constructor
  · rintro ⟨other, other_rest, other_multiplier, other_leads, other_unit, amounts, range⟩
    obtain ⟨rfl, rfl⟩ := leads.unique other_leads
    obtain rfl := unit.unique other_unit
    exact ⟨amounts, range⟩
  · rintro ⟨amounts, range⟩
    exact ⟨numeral, rest, multiplier, leads, unit, amounts, range⟩

theorem denotes_iff_of_integer (integer : numeral.isInteger = true) (value : Int) :
    quantity.Denotes text value ↔
      value = numeral.toInt * multiplier ∧ quantity.HasRoomFor value := by
  rw [denotes_iff_of_leads leads unit]
  refine and_congr_left' ⟨fun amounts => ?_, ?_⟩
  · cases amounts with
    | exact => rfl
    | cut fractional => simp [integer] at fractional
  · rintro rfl
    exact .exact integer

end Leads

section Short

variable {text : Text} (short : ¬IsOverlong text)
include short

theorem ofValue_of_denotes {value : Int} (denotes : quantity.Denotes text value) :
    quantity.ofValue (.text text) = .ok value := by
  rw [ofValue, parse_eq_ok_iff.mpr ⟨denotes, short⟩]
  rfl

/-- A text without a value is refused as invalid, unless it is empty. -/
theorem isInvalid_of_not_denotes (nonempty : text ≠ [])
    (undenoting : ∀ value, ¬quantity.Denotes text value) :
    IsInvalid (quantity.ofValue (.text text)) := by
  cases parsed : quantity.parse text with
  | ok value => exact absurd (parse_eq_ok_iff.mp parsed).1 (undenoting value)
  | error fault =>
    rw [ofValue, parsed]
    cases fault with
    | tooManyDigits count =>
      exact absurd (exists_parse_eq_tooManyDigits_iff.mp ⟨count, parsed⟩) short
    | missing => exact absurd parsed (parse_ne_missing nonempty)
    | notANumber | tooBig | unknownUnit | negative => exact ⟨_, rfl, rfl⟩

theorem convertsExactly (nonempty : text ≠ []) : quantity.ConvertsExactly text where
  counts number rest multiplier writes measure := by
    obtain ⟨numeral, leads, integer, rfl⟩ := writes.exists_leads measure.isUnit.not_goesOn
    have denotes_iff := denotes_iff_of_integer leads measure.isUnit integer
    constructor
    · intro room
      exact ofValue_of_denotes short ((denotes_iff _).mpr ⟨rfl, room⟩)
    · intro full
      refine isInvalid_of_not_denotes short nonempty fun value denotes => full ?_
      obtain ⟨rfl, room⟩ := (denotes_iff value).mp denotes
      exact room
  refuses unwritten := by
    refine isInvalid_of_not_denotes short nonempty fun value denotes => unwritten ?_
    obtain ⟨numeral, rest, multiplier, leads, unit, -⟩ := denotes
    obtain ⟨blanks, spelled, text_eq, blank, spells⟩ := leads.spelled
    exact ⟨numeral, blanks, spelled, rest, multiplier, text_eq, blank, spells, unit⟩

end Short

end Quantity

/-! ## Integers of 32 bits -/

namespace OptionKind

/-- The text is an integer of 32 bits with blanks around it. -/
def WritesInt32 (number : Int) (text : Text) : Prop :=
  (∃ rest, Numeral.WritesInteger number text rest ∧
    ∀ char ∈ rest, Text.isAsciiBlank char = true) ∧
  -2 ^ 31 ≤ number ∧ number ≤ 2 ^ 31 - 1

/-- What decoding a text as an integer of 32 bits is to come to. -/
structure DecodesExactly (key text : Text) : Prop where
  counts : ∀ number, WritesInt32 number text → int32.decode key text = .ok (.int number)
  refuses : (¬∃ number, WritesInt32 number text) → IsInvalid (int32.decode key text)

theorem denotes_int32_iff {text : Text} {value : Value} :
    int32.Denotes text value ↔ ∃ number, WritesInt32 number text ∧ value = .int number := by
  constructor
  · intro denotes
    cases denotes with
    | int32 leads integer blank least most =>
      exact ⟨_, ⟨⟨_, leads.writesInteger integer, blank⟩, least, most⟩, rfl⟩
  · rintro ⟨_, ⟨⟨rest, writes, blank⟩, least, most⟩, rfl⟩
    obtain ⟨numeral, leads, integer, rfl⟩ :=
      writes.exists_leads (Numeral.not_goesOn_of_blank blank)
    exact .int32 leads integer blank least most

theorem WritesInt32.unique {number other : Int} {text : Text} (writes : WritesInt32 number text)
    (other_writes : WritesInt32 other text) : number = other := by
  obtain ⟨⟨rest, writes, blank⟩, -⟩ := writes
  obtain ⟨⟨other_rest, other_writes, other_blank⟩, -⟩ := other_writes
  obtain ⟨numeral, leads, -, rfl⟩ := writes.exists_leads (Numeral.not_goesOn_of_blank blank)
  obtain ⟨other_numeral, other_leads, -, rfl⟩ :=
    other_writes.exists_leads (Numeral.not_goesOn_of_blank other_blank)
  obtain ⟨rfl, -⟩ := leads.unique other_leads
  rfl

theorem decodesExactly {text : Text} (short : ¬int32.IsOverlong text) (key : Text) :
    DecodesExactly key text where
  counts number writes := by
    have decoding := int32.decoding_decode key text
    generalize int32.decode key text = decoded at decoding ⊢
    cases decoding with
    | legal denotes =>
      obtain ⟨other, other_writes, rfl⟩ := denotes_int32_iff.mp denotes
      rw [writes.unique other_writes]
    | illegal _ _ not_legal =>
      exact absurd ⟨_, denotes_int32_iff.mpr ⟨number, writes, rfl⟩⟩ not_legal
    | overlong _ long => exact absurd long short
  refuses unwritten := by
    have decoding := int32.decoding_decode key text
    generalize int32.decode key text = decoded at decoding ⊢
    cases decoding with
    | legal denotes =>
      obtain ⟨number, writes, -⟩ := denotes_int32_iff.mp denotes
      exact absurd ⟨number, writes⟩ unwritten
    | illegal => exact ⟨_, rfl, rfl⟩
    | overlong _ long => exact absurd long short

end OptionKind

/-! ## Both -/

/-- The converters of quantities and of integers of 32 bits accept what is written as they ask, and
count integers exactly. -/
theorem conversions_exact {text : Text} (few : text.countP Char.isDigit ≤ 4300) :
    (text ≠ [] → ∀ quantity : Quantity, quantity.ConvertsExactly text) ∧
      ∀ key, OptionKind.DecodesExactly key text := by
  have short : ¬Quantity.IsOverlong text := by
    rintro ⟨rest, overlong⟩
    exact Nat.not_lt.mpr few overlong.lt_countP
  refine ⟨fun nonempty quantity => Quantity.convertsExactly short nonempty, ?_⟩
  refine OptionKind.decodesExactly fun long => short ?_
  cases long with
  | int32 overlong => exact ⟨_, overlong⟩

/-- Numbers at the lower limits convert, with more digits than a floating-point number has. -/
theorem lowest_numbers_convert :
    Quantity.interval.ofValue (.text (Text.of " -0153722867280912930M")) =
        .ok (-9223372036854775800) ∧
      OptionKind.int32.decode (Text.of "cost") (Text.of "-2147483648 ") =
        .ok (.int (-2147483648)) := by
  constructor
  · have converts : Quantity.interval.ConvertsExactly (Text.of " -0153722867280912930M") :=
      (conversions_exact (by decide)).1 (by decide) .interval
    have are_digits : Numeral.AreDigits (Text.of "0153722867280912930") := by decide
    have writes : Numeral.WritesInteger (-153722867280912930) (Text.of " -0153722867280912930M")
        ['M'] := .parts ['M'] (List.forall_mem_singleton.mpr rfl) .minus are_digits (by decide)
    exact (converts.counts _ ['M'] 60 writes (.letter (.minute (.inr rfl)))).1 (by decide)
  · have decodes : OptionKind.DecodesExactly (Text.of "cost") (Text.of "-2147483648 ") :=
      (conversions_exact (by decide)).2 _
    have are_digits : Numeral.AreDigits (Text.of "2147483648") := by decide
    have writes : Numeral.WritesInteger (-2147483648) (Text.of "-2147483648 ") [' '] :=
      .parts [' '] (List.forall_mem_nil _) .minus are_digits (by decide)
    exact decodes.counts _
      ⟨⟨[' '], writes, List.forall_mem_singleton.mpr rfl⟩, by decide, by decide⟩

end PackageRepos
