import PackageRepos.Proofs.Quantity
import PackageRepos.RepoOption.Codec

/-!
# Legal texts of options

Which texts are values of which kind, and of which value, whatever the way they are read. Decoding
agrees with it: a legal text has its value, every other text is refused as invalid. Only an integer
of too many digits is refused in another way, legal or not.
-/

namespace PackageRepos

/-- The integer numeral that is read is the one that the text spells, with blanks around it. -/
theorem Numeral.integer?_eq_some_iff {text : Text} {numeral : Numeral} :
    integer? text = some numeral ↔ ∃ rest, numeral.Leads text rest ∧ numeral.isInteger = true ∧
      ∀ char ∈ rest, Text.isAsciiBlank char = true := by
  constructor
  · intro found
    unfold integer? at found
    split at found
    · rename_i read
      split at found
      · rename_i whole
        cases found
        rw [Bool.and_eq_true, List.all_eq_true] at whole
        exact ⟨_, leads_of_read? read (by simp [whole.1]), whole⟩
      · simp at found
    · simp at found
  · rintro ⟨rest, leads, integer, blank⟩
    have whole : (numeral.isInteger && rest.all Text.isAsciiBlank) = true := by
      rw [Bool.and_eq_true, List.all_eq_true]
      exact ⟨integer, blank⟩
    rw [integer?, leads.read?_eq]
    exact if_pos whole

namespace OptionKind

/-- The texts that are legal values of a kind, each with its value. -/
inductive Denotes : OptionKind → Text → Value → Prop
  | id (raw : Text) : Denotes id raw (.text raw)
  | text (raw : Text) : Denotes text raw (.text raw)
  | list (raw : Text) : Denotes list raw (.list ((listItems raw).map .text))
  | bool (raw : Text) : Denotes bool raw (.bool (flagOf raw))
  | int32 {raw rest : Text} {numeral : Numeral} (leads : numeral.Leads raw rest)
      (integer : numeral.isInteger = true) (blank : ∀ char ∈ rest, Text.isAsciiBlank char = true)
      (least : int32Range.1 ≤ numeral.toInt) (most : numeral.toInt ≤ int32Range.2) :
      Denotes int32 raw (.int numeral.toInt)
  | interval {raw : Text} {value : Int} (denotes : Quantity.interval.Denotes raw value) :
      Denotes interval raw (.int value)
  | bandwidth {raw : Text} {value : Int} (denotes : Quantity.bandwidth.Denotes raw value) :
      Denotes bandwidth raw (.int value)
  | address {raw : Text} {family : AddressFamily} (spelled : Text.lower raw = Text.of family.word) :
      Denotes ipResolve raw (.address family)

/-- The text is a legal value of the kind. -/
def IsLegal (kind : OptionKind) (raw : Text) : Prop := ∃ value, kind.Denotes raw value

/-- The text has an integer of too many digits where the kind has a number. -/
inductive IsOverlong : OptionKind → Text → Prop
  | int32 {raw rest : Text} (overlong : Numeral.IsOverlong raw rest)
      (blank : ∀ char ∈ rest, Text.isAsciiBlank char = true) : IsOverlong int32 raw
  | interval {raw : Text} (overlong : Quantity.IsOverlong raw) : IsOverlong interval raw
  | bandwidth {raw : Text} (overlong : Quantity.IsOverlong raw) : IsOverlong bandwidth raw

/-- Whether digits alone are too many is a matter of their number. -/
theorem isOverlong_digits_iff {digits : Text} (are_digits : Numeral.AreDigits digits)
    (nonempty : digits ≠ []) : int32.IsOverlong digits ↔ Numeral.digitLimit < digits.length := by
  have leads := Numeral.leads_of_areDigits are_digits nonempty
  constructor
  · rintro ⟨⟨numeral, other_leads, integer, long⟩, blank⟩
    have read := other_leads.read?_eq
    rw [leads.read?_eq] at read
    cases read
    exact long
  · intro long
    exact .int32 ⟨_, leads, rfl, long⟩ (by simp)

/-- What comes of a text: its value, a refusal as invalid, or a refusal for its length. -/
inductive Decoding (kind : OptionKind) (key raw : Text) : Except Failure Value → Prop
  | legal {value : Value} (denotes : kind.Denotes raw value) (short : ¬kind.IsOverlong raw) :
      Decoding kind key raw (.ok value)
  | illegal (problem : Problem) (cause : Option Cause) (not_legal : ¬kind.IsLegal raw)
      (short : ¬kind.IsOverlong raw) :
      Decoding kind key raw (.error (.error (.invalid key problem cause)))
  | overlong (count : Nat) (long : kind.IsOverlong raw) :
      Decoding kind key raw (.error (.tooManyDigits count))

theorem decoding_int32 (key raw : Text) : int32.Decoding key raw (int32.decode key raw) := by
  have overlong : int32.IsOverlong raw → ∃ numeral, Numeral.integer? raw = some numeral ∧
      Numeral.digitLimit < numeral.whole.length := by
    rintro ⟨⟨numeral, leads, integer, long⟩, blank⟩
    exact ⟨numeral, Numeral.integer?_eq_some_iff.mpr ⟨_, leads, integer, blank⟩, long⟩
  have legal : int32.IsLegal raw → ∃ numeral, Numeral.integer? raw = some numeral ∧
      int32Range.1 ≤ numeral.toInt ∧ numeral.toInt ≤ int32Range.2 := by
    rintro ⟨value, denotes⟩
    cases denotes with
    | int32 leads integer blank least most =>
      exact ⟨_, Numeral.integer?_eq_some_iff.mpr ⟨_, leads, integer, blank⟩, least, most⟩
  rw [decode, decodeInt32]
  split
  · rename_i unread
    rw [unread] at overlong legal
    refine .illegal _ _ (fun is_legal => ?_) (fun is_overlong => ?_)
    · simpa using legal is_legal
    · simpa using overlong is_overlong
  · rename_i numeral read
    obtain ⟨rest, leads, integer, blank⟩ := Numeral.integer?_eq_some_iff.mp read
    rw [read] at overlong legal
    split
    · rename_i long
      exact .overlong _ (.int32 ⟨numeral, leads, integer, long⟩ blank)
    · rename_i few
      have short : ¬int32.IsOverlong raw := by
        intro is_overlong
        obtain ⟨same, same_eq, long⟩ := overlong is_overlong
        cases same_eq
        exact few long
      simp only
      split
      · rename_i range
        exact .legal (.int32 leads integer blank range.1 range.2) short
      · rename_i outside
        refine .illegal _ _ (fun is_legal => ?_) short
        obtain ⟨same, same_eq, range⟩ := legal is_legal
        cases same_eq
        exact outside range

/-- The kinds of quantities differ in nothing but the quantity. -/
theorem decoding_quantity {kind : OptionKind} {quantity : Quantity} (key raw : Text)
    (legal : ∀ value, kind.Denotes raw value ↔
      ∃ number, quantity.Denotes raw number ∧ value = .int number)
    (overlong : kind.IsOverlong raw ↔ Quantity.IsOverlong raw) :
    kind.Decoding key raw (decodeQuantity quantity key raw) := by
  unfold decodeQuantity
  cases parsed : quantity.parse raw with
  | ok number =>
    obtain ⟨denotes, short⟩ := Quantity.parse_eq_ok_iff.mp parsed
    exact .legal ((legal _).mpr ⟨number, denotes, rfl⟩) (mt overlong.mp short)
  | error fault =>
    by_cases long : Quantity.IsOverlong raw
    · obtain ⟨count, refused⟩ := Quantity.exists_parse_eq_tooManyDigits_iff.mpr long
      rw [parsed] at refused
      cases refused
      exact .overlong count (overlong.mpr long)
    · have not_legal : ¬kind.IsLegal raw := by
        rintro ⟨value, denotes⟩
        obtain ⟨number, amounts, -⟩ := (legal value).mp denotes
        have read := Quantity.parse_eq_ok_iff.mpr ⟨amounts, long⟩
        rw [parsed] at read
        cases read
      have short := mt overlong.mp long
      cases fault with
      | tooManyDigits count =>
        exact absurd (Quantity.exists_parse_eq_tooManyDigits_iff.mp ⟨count, parsed⟩) long
      | missing | notANumber | tooBig | unknownUnit | negative =>
        exact .illegal _ _ not_legal short

theorem ofWord?_eq_some_iff {word : Text} {family : AddressFamily} :
    AddressFamily.ofWord? word = some family ↔ word = Text.of family.word := by
  constructor
  · intro found
    have same := List.find?_some found
    exact (beq_iff_eq.mp same).symm
  · rintro rfl
    cases family <;> decide

/-- Every text of every kind is decoded as what it is. -/
theorem decoding_decode (kind : OptionKind) (key raw : Text) :
    kind.Decoding key raw (kind.decode key raw) := by
  cases kind with
  | id => exact .legal (.id raw) nofun
  | text => exact .legal (.text raw) nofun
  | list => exact .legal (.list raw) nofun
  | bool => exact .legal (.bool raw) nofun
  | int32 => exact decoding_int32 key raw
  | interval =>
    refine decoding_quantity key raw (fun value => ⟨?_, ?_⟩) ⟨?_, .interval⟩
    · rintro (_ | _)
      exact ⟨_, ‹_›, rfl⟩
    · rintro ⟨number, denotes, rfl⟩
      exact .interval denotes
    · rintro (_ | _)
      assumption
  | bandwidth =>
    refine decoding_quantity key raw (fun value => ⟨?_, ?_⟩) ⟨?_, .bandwidth⟩
    · rintro (_ | _)
      exact ⟨_, ‹_›, rfl⟩
    · rintro ⟨number, denotes, rfl⟩
      exact .bandwidth denotes
    · rintro (_ | _)
      assumption
  | ipResolve =>
    rw [decode]
    split
    · rename_i family found
      exact .legal (.address (ofWord?_eq_some_iff.mp found)) nofun
    · rename_i unknown
      refine .illegal _ _ ?_ nofun
      rintro ⟨value, denotes⟩
      cases denotes with
      | address spelled =>
        rw [ofWord?_eq_some_iff.mpr spelled] at unknown
        cases unknown

/-- What a text is refused with is a matter of its value. -/
theorem category_of_decode {kind : OptionKind} {key raw : Text} {error : RepoError}
    (refused : kind.decode key raw = .error (.error error)) : error.category = .value := by
  have decoding := kind.decoding_decode key raw
  rw [refused] at decoding
  cases decoding with
  | illegal problem cause not_legal short => rfl

end OptionKind
end PackageRepos
