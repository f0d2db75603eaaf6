import PackageRepos.Proofs.RepoOption.Legality

/-!
# Values written in ASCII

Numbers, true flags and address families are written in ASCII. A bandwidth is the exception: its
unit is compared in lower case, where the Kelvin sign is the letter `k`, so it may end with that
sign instead of the letter.
-/

namespace PackageRepos

namespace Text

/-- All characters of the text are ASCII. -/
def IsAscii (text : Text) : Prop := ∀ char ∈ text, char.toNat < 128

instance (text : Text) : Decidable (IsAscii text) :=
  List.decidableBAll _ text

theorem isAscii_append {left right : Text} :
    IsAscii (left ++ right) ↔ IsAscii left ∧ IsAscii right :=
  List.forall_mem_append

/-- The Kelvin sign, which is the letter `k` in lower case. -/
def kelvin : Char := '\u212a'

theorem lowerChar_kelvin : lowerChar kelvin = 'k' := rfl

/-- Apart from the Kelvin sign, only ASCII characters have one as their lower case. -/
theorem ascii_of_lowerChar {char : Char} (ascii : (lowerChar char).toNat < 128)
    (other : char ≠ kelvin) : char.toNat < 128 := by
  have other_code : char.toNat ≠ 0x212a := fun same => other (Char.toNat_inj.mp same)
  rw [lowerChar, if_neg other_code] at ascii
  by_contra beyond
  have unchanged : char.toLower = char := by
    refine dif_neg ?_
    rintro ⟨-, most⟩
    have most_nat : char.toNat ≤ 90 := most
    omega
  rw [unchanged] at ascii
  exact beyond ascii

/-- A text is in ASCII if its lower case is, and has no letter `k` in it. -/
theorem isAscii_of_lower {text : Text} (ascii : IsAscii (lower text)) (free : 'k' ∉ lower text) :
    IsAscii text := by
  intro char member
  have lowered : lowerChar char ∈ lower text := List.mem_map_of_mem member
  refine ascii_of_lowerChar (ascii _ lowered) ?_
  rintro rfl
  exact free lowered

theorem ascii_of_isAsciiBlank {char : Char} (blank : isAsciiBlank char = true) :
    char.toNat < 128 := by
  simp only [isAsciiBlank, Bool.or_eq_true, Bool.and_eq_true, decide_eq_true_eq,
    beq_iff_eq] at blank
  omega

end Text

namespace Numeral

theorem AreDigits.isAscii {text : Text} (are_digits : AreDigits text) : Text.IsAscii text := by
  intro char member
  have range : 48 ≤ char.toNat ∧ char.toNat ≤ 57 :=
    Char.isDigit_iff_toNat.mp (are_digits char member)
  omega

theorem SpellsSign.isAscii {negative : Bool} {sign : Text} (signed : SpellsSign negative sign) :
    Text.IsAscii sign := by
  cases signed <;> decide

theorem SpellsDecimal.isAscii {whole decimal : Text} {fraction : Option Text}
    (decimals : SpellsDecimal whole fraction decimal) : Text.IsAscii decimal := by
  cases decimals with
  | integer digits => exact digits.isAscii
  | pointed digits further =>
    refine Text.isAscii_append.mpr ⟨digits.isAscii, ?_⟩
    exact List.forall_mem_cons.mpr ⟨by decide, further.isAscii⟩

theorem SpellsExponent.isAscii {exponent : Option (Bool × Text)} {spelled : Text}
    (scaled : SpellsExponent exponent spelled) : Text.IsAscii spelled := by
  cases scaled with
  | absent => decide
  | marked mark_eq signed are_digits =>
    refine List.forall_mem_cons.mpr ⟨?_, Text.isAscii_append.mpr ⟨signed.isAscii,
      are_digits.isAscii⟩⟩
    rcases mark_eq with rfl | rfl <;> decide

theorem Spells.isAscii {numeral : Numeral} {spelled : Text} (spells : numeral.Spells spelled) :
    Text.IsAscii spelled := by
  cases spells with
  | parts signed decimals scaled =>
    exact Text.isAscii_append.mpr
      ⟨signed.isAscii, Text.isAscii_append.mpr ⟨decimals.isAscii, scaled.isAscii⟩⟩

/-- A text is in ASCII if what follows its numeral is. -/
theorem Leads.isAscii_iff {numeral : Numeral} {text rest : Text} (leads : numeral.Leads text rest) :
    Text.IsAscii text ↔ Text.IsAscii rest := by
  obtain ⟨blanks, spelled, rfl, blank, spells⟩ := leads.spelled
  have blanks_ascii : Text.IsAscii blanks := fun char member =>
    Text.ascii_of_isAsciiBlank (blank char member)
  simp only [Text.isAscii_append, blanks_ascii, spells.isAscii, true_and]

end Numeral

namespace Quantity

variable {quantity : Quantity} {rest : Text} {multiplier : Nat}

/-- Unit letters are in ASCII, but for the Kelvin sign of a bandwidth. -/
theorem IsUnit.isAscii_iff (unit : quantity.IsUnit rest multiplier) :
    Text.IsAscii rest ↔ ¬(quantity = bandwidth ∧ rest = [Text.kelvin]) := by
  cases unit with
  | omitted => simp [Text.IsAscii]
  | @letter char _ known =>
    constructor
    · rintro ascii ⟨-, sign_eq⟩
      rw [sign_eq] at ascii
      exact absurd ascii (by decide)
    · intro other
      have lowered : (Text.lowerChar char).toNat < 128 ∧
          (Text.lowerChar char = 'k' → quantity = bandwidth) := by
        unfold unit? at known
        split at known <;> simp_all
      refine List.forall_mem_singleton.mpr (Text.ascii_of_lowerChar lowered.1 ?_)
      rintro rfl
      exact other ⟨lowered.2 Text.lowerChar_kelvin, rfl⟩

theorem Denotes.isAscii_iff {text : Text} {value : Int} (denotes : quantity.Denotes text value) :
    Text.IsAscii text ↔ ¬(quantity = bandwidth ∧ text.getLast? = some Text.kelvin) := by
  obtain ⟨numeral, rest, multiplier, leads, unit, -⟩ := denotes
  rw [leads.isAscii_iff, unit.isAscii_iff]
  obtain ⟨blanks, spelled, rfl, -⟩ := leads.spelled
  cases unit with
  | omitted =>
    have ascii : Text.IsAscii (blanks ++ (spelled ++ [])) := leads.isAscii_iff.mpr (by decide)
    have other : (blanks ++ (spelled ++ [])).getLast? ≠ some Text.kelvin := fun last =>
      absurd (ascii _ (List.mem_of_getLast? last)) (by decide)
    simp only [other, and_false, not_false_eq_true, reduceCtorEq]
  | letter known => simp [← List.append_assoc]

/-- The Kelvin sign counts as the letter `k`. -/
theorem parse_of_kelvin {text : Text} {value : Int}
    (parsed : quantity.parse (text ++ [Text.kelvin]) = .ok value) :
    quantity.parse (text ++ ['k']) = .ok value := by
  obtain ⟨⟨numeral, rest, multiplier, leads, unit, counts⟩, short⟩ := parse_eq_ok_iff.mp parsed
  obtain ⟨blanks, spelled, text_eq, blank, spells⟩ := leads.spelled
  cases unit with
  | omitted =>
    have ascii := leads.isAscii_iff.mpr (show Text.IsAscii [] by decide)
    exact absurd (Text.isAscii_append.mp ascii).2 (by decide)
  | @letter char _ known =>
    rw [← List.append_assoc, List.append_singleton_inj] at text_eq
    obtain ⟨rfl, rfl⟩ := text_eq
    have unit : quantity.IsUnit ['k'] multiplier := .letter known
    have letter_leads : numeral.Leads (blanks ++ spelled ++ ['k']) ['k'] :=
      ⟨⟨blanks, spelled, List.append_assoc .., blank, spells⟩, unit.not_goesOn⟩
    refine parse_eq_ok_iff.mpr ⟨⟨numeral, ['k'], multiplier, letter_leads, unit, counts⟩, ?_⟩
    rintro ⟨other_rest, other, other_leads, integer, long⟩
    obtain ⟨rfl, rfl⟩ := letter_leads.unique other_leads
    exact short ⟨_, numeral, leads, integer, long⟩

end Quantity

namespace OptionKind

/-- The values that are written in ASCII: numbers, the flag that is true, and address families. -/
inductive IsPlain : OptionKind → Value → Prop
  | int32 (value : Value) : IsPlain int32 value
  | interval (value : Value) : IsPlain interval value
  | bandwidth (value : Value) : IsPlain bandwidth value
  | address (value : Value) : IsPlain ipResolve value
  | flag : IsPlain bool (.bool true)

theorem isAscii_of_flagOf {raw : Text} (raised : flagOf raw = true) : Text.IsAscii raw := by
  obtain ⟨word, member, spelled⟩ := List.any_eq_true.mp raised
  rw [beq_iff_eq] at spelled
  have plain_words : ∀ word ∈ trueWords, Text.IsAscii (Text.of word) ∧ 'k' ∉ Text.of word := by
    decide
  have lower_plain := plain_words word member
  rw [spelled] at lower_plain
  exact Text.isAscii_of_lower lower_plain.1 lower_plain.2

theorem Denotes.isAscii_iff {kind : OptionKind} {raw : Text} {value : Value}
    (plain : kind.IsPlain value) (denotes : kind.Denotes raw value) :
    Text.IsAscii raw ↔ ¬(kind = OptionKind.bandwidth ∧ raw.getLast? = some Text.kelvin) := by
  cases denotes with
  | id | text | list => cases plain
  | bool =>
    generalize raised : flagOf raw = flag at plain
    cases plain
    simp [isAscii_of_flagOf raised]
  | int32 leads integer blank =>
    have rest_ascii : Text.IsAscii _ := fun char member =>
      Text.ascii_of_isAsciiBlank (blank char member)
    simp [leads.isAscii_iff.mpr rest_ascii]
  | interval denotes => simp [denotes.isAscii_iff]
  | bandwidth denotes => simp [denotes.isAscii_iff]
  | @address _ family spelled =>
    have ascii : Text.IsAscii raw := by
      refine Text.isAscii_of_lower ?_ ?_ <;> rw [spelled] <;> cases family <;> decide
    simp [ascii]

theorem decodeQuantity_eq_ok_iff {quantity : Quantity} {key raw : Text} {value : Value} :
    decodeQuantity quantity key raw = .ok value ↔
      ∃ number, quantity.parse raw = .ok number ∧ value = .int number := by
  unfold decodeQuantity
  cases quantity.parse raw with
  | ok number => simp [eq_comm]
  | error fault => cases fault <;> simp [Failure.ofQuantity]

/-- What decodes to a number, a true flag or an address family is in ASCII, unless it is a bandwidth
that ends with a Kelvin sign, which counts as the letter `k`. -/
theorem isAscii_iff_of_decode {kind : OptionKind} {key raw : Text} {value : Value}
    (plain : kind.IsPlain value) (decoded : kind.decode key raw = .ok value) :
    (Text.IsAscii raw ↔ ¬(kind = bandwidth ∧ raw.getLast? = some Text.kelvin)) ∧
      ∀ number, kind = bandwidth → raw = number ++ [Text.kelvin] →
        bandwidth.decode key (number ++ ['k']) = .ok value := by
  constructor
  · have decoding := kind.decoding_decode key raw
    rw [decoded] at decoding
    cases decoding with
    | legal denotes => exact denotes.isAscii_iff plain
  · rintro number rfl rfl
    obtain ⟨count, parsed, rfl⟩ := decodeQuantity_eq_ok_iff.mp decoded
    exact decodeQuantity_eq_ok_iff.mpr ⟨count, Quantity.parse_of_kelvin parsed, rfl⟩

/-- A bandwidth with a plain unit letter is in ASCII. -/
theorem plain_bandwidth_isAscii :
    bandwidth.decode (Text.of "bandwidth") (Text.of "5K") = .ok (.int 5120) ∧
      Text.IsAscii (Text.of "5K") := by
  have decoded : bandwidth.decode (Text.of "bandwidth") (Text.of "5K") = .ok (.int 5120) := rfl
  exact ⟨decoded, (isAscii_iff_of_decode (.bandwidth _) decoded).1.mpr (by decide)⟩

/-- The Kelvin sign is taken for a unit. -/
theorem kelvin_sign_is_taken :
    bandwidth.decode (Text.of "bandwidth") (Text.of "5\u212a") = .ok (.int 5120) ∧
      ¬Text.IsAscii (Text.of "5\u212a") :=
  ⟨rfl, by decide⟩

end OptionKind
end PackageRepos
