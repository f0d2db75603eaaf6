import PackageRepos.KeyFile.Edit
import PackageRepos.Proofs.Numeral
import PackageRepos.Proofs.RepoOption.Items

/-!
# Stored texts decode to the values they were made of

The text that an option stores for a value, kind by kind: numbers in decimal, items between
semicolons, words for truth values and address families. Decoding it yields the value that was
accepted.
-/

namespace PackageRepos

/-! ## Numbers -/

namespace Numeral

theorem isDigit_of_mem_toDigits {number : Nat} {char : Char}
    (member : char ∈ Nat.toDigits 10 number) :
    char.isDigit = true :=
  Nat.isDigit_of_mem_toDigits (by omega) (by omega) member

/-- The digits of a number are read up to their end. -/
theorem readDecimal?_toDigits (negative : Bool) (number : Nat) :
    readDecimal? negative (Nat.toDigits 10 number) =
      some ({ negative, whole := Nat.toDigits 10 number }, []) := by
  have digits : ∀ char ∈ Nat.toDigits 10 number, char.isDigit = true :=
    fun _ => isDigit_of_mem_toDigits
  have taken : (Nat.toDigits 10 number ++ []).takeWhile Char.isDigit =
      Nat.toDigits 10 number ++ [] :=
    List.takeWhile_append_of_pos digits
  have dropped : (Nat.toDigits 10 number ++ []).dropWhile Char.isDigit = [] :=
    List.dropWhile_append_of_pos digits
  rw [List.append_nil] at taken dropped
  have nonempty : Nat.toDigits 10 number ≠ [] := Nat.toDigits_ne_nil
  simp [readDecimal?, readDigits, taken, dropped, nonempty]

/-- A decimal integer is read as its sign and its digits. -/
theorem read?_decimal (value : Int) :
    read? (Value.decimal value) =
      some ({ negative := value < 0, whole := Nat.toDigits 10 value.natAbs }, []) := by
  unfold Value.decimal
  split
  · rename_i negative
    have solid : Text.isAsciiBlank '-' = false := by decide
    simp [read?, solid, readSign, readDecimal?_toDigits, readExponent, negative]
  · rename_i positive
    obtain ⟨first, rest, digits_eq⟩ :=
      List.exists_cons_of_ne_nil (Nat.toDigits_ne_nil (n := value.natAbs) (b := 10))
    have digit : first.isDigit = true :=
      isDigit_of_mem_toDigits (digits_eq ▸ List.mem_cons_self)
    have solid : Text.isAsciiBlank first = false := isAsciiBlank_of_isDigit digit
    have unsigned : readSign (first :: rest) = (false, first :: rest) := by
      unfold readSign
      split
      · rename_i same
        cases same
        simp at digit
      · rename_i same
        cases same
        simp at digit
      · rfl
    have read := readDecimal?_toDigits false value.natAbs
    rw [digits_eq] at read ⊢
    simp [read?, solid, unsigned, read, readExponent, positive]

theorem toInt_decimal (value : Int) :
    toInt { negative := value < 0, whole := Nat.toDigits 10 value.natAbs } = value := by
  simp only [toInt, signed, natOfDigits, Nat.ofDigitChars_ten_toDigits]
  split
  · rename_i negative
    have := of_decide_eq_true negative
    omega
  · rename_i positive
    have : ¬value < 0 := by simpa using positive
    omega

/-- The numbers of 64 bits have few digits. -/
theorem length_toDigits_le {value : Int} (small : value.natAbs < UInt64.size) :
    (Nat.toDigits 10 value.natAbs).length ≤ digitLimit := by
  have few : (Nat.toDigits 10 value.natAbs).length ≤ 20 :=
    (Nat.length_toDigits_le_iff (by omega) (by omega)).mpr
      (Nat.lt_of_lt_of_le small (by decide))
  exact Nat.le_trans few (by decide)

end Numeral

theorem Quantity.parse_decimal (quantity : Quantity) {value : Int}
    (least : quantity.minimum ≤ value) (most : value ≤ quantity.maximum) :
    quantity.parse (Value.decimal value) = .ok value := by
  have small : value.natAbs < UInt64.size := by
    cases quantity <;> simp only [minimum, maximum, UInt64.size] at least most ⊢ <;> omega
  have short := Numeral.length_toDigits_le small
  have nonempty : (Value.decimal value).isEmpty = false := by
    unfold Value.decimal
    split
    · rfl
    · simp
  have positive : ¬(quantity = bandwidth ∧ value < 0) := by
    rintro ⟨rfl, negative⟩
    simp only [minimum] at least
    omega
  simp [parse, nonempty, Numeral.read?_decimal, Numeral.isInteger, ofInteger, factor, inRange,
    Numeral.toInt_decimal, Nat.not_lt.mpr short, bind, Except.bind, positive, least, most]

theorem Value.map_plain_text (items : List Text) :
    (items.map Value.text).map Value.plain = items := by
  simp [Function.comp_def, Value.plain]

namespace OptionKind

/-- The text that is stored for a value. -/
def encoded (kind : OptionKind) (value : Value) : Text :=
  match kind, value with
  | list, .list items => Text.join [KeyFile.listSeparator] (items.map Value.plain)
  | bool, .bool flag => KeyFile.flagWord flag
  | ipResolve, .address family => Text.of family.word
  | _, value => value.plain

/-! ## Lists -/

theorem isItem_iff {item : Text} :
    isItem item = true ↔ item ≠ [] ∧
      ∀ char ∈ item, Text.isBlank char = false ∧ isSeparator char = false := by
  simp [isItem]

/-- Accepted items are texts that hold neither blanks nor separators. -/
theorem of_checkItems {key : Text} {items kept : List Value}
    (checked : checkItems key items = .ok kept) :
    kept = items ∧ ∃ texts : List Text, items = texts.map .text ∧
      ∀ text ∈ texts, isItem text = true := by
  induction items generalizing kept with
  | nil =>
    cases checked
    exact ⟨rfl, [], rfl, by simp⟩
  | cons item rest ih =>
    cases item with
    | text content =>
      rw [checkItems] at checked
      split at checked
      · rename_i proper
        cases later : checkItems key rest with
        | error problem => simp [later, Except.map] at checked
        | ok rest_kept =>
          obtain ⟨rfl, texts, rfl, texts_proper⟩ := ih later
          obtain rfl : Value.text content :: texts.map .text = kept := by
            simpa [later, Except.map] using checked
          exact ⟨rfl, content :: texts, rfl, by simpa using ⟨proper, texts_proper⟩⟩
      · simp at checked
    | _ => simp [checkItems] at checked

theorem listItems_of_isItem {item : Text} (proper : isItem item = true) :
    listItems item = [item] := by
  obtain ⟨filled, solid⟩ := isItem_iff.mp proper
  exact listItems_eq_singleton filled
    (Text.isTrimmed_of_solid fun char member => (solid char member).1)
    fun char member => (solid char member).2

theorem listItems_join {texts : List Text} (proper : ∀ text ∈ texts, isItem text = true) :
    listItems (Text.join [KeyFile.listSeparator] texts) = texts :=
  listItems_join_of_singletons rfl fun text member => listItems_of_isItem (proper text member)

/-! ## All kinds -/

/-- What a value handed over is kept as: a sequence is kept as a list. -/
def keptValue : Value → Value
  | .tuple items => .list items
  | value => value

theorem checkText_eq_ok {key text : Text} {kept : Value} (checked : checkText key text = .ok kept) :
    kept = .text text ∧ Text.IsTrimmed text ∧ '\t' ∉ text ∧
      ∀ char ∈ text, Text.isLineBreak char = false := by
  unfold checkText at checked
  split at checked
  · simp at checked
  · rename_i unbroken
    split at checked
    · simp at checked
    · rename_i edges
      cases checked
      simp only [Bool.or_eq_true, not_or, List.contains_iff_mem, bne_iff_ne, ne_eq,
        Classical.not_not] at edges
      refine ⟨rfl, Text.strip_eq_self_iff.mp edges.2.symm, edges.1, ?_⟩
      simpa using unbroken

theorem checkNumber_eq_ok {kind : OptionKind} {key : Text} {value : Int} {kept : Value}
    (checked : kind.checkNumber key value = .ok kept) :
    kept = .int value ∧ kind.numberRange.1 ≤ value ∧ value ≤ kind.numberRange.2 := by
  unfold checkNumber at checked
  simp only at checked
  split at checked
  · rename_i range
    cases checked
    exact ⟨rfl, range⟩
  · simp at checked

/-- The values that a kind accepts. -/
inductive Accepts : OptionKind → Value → Value → Prop
  | text {content : Text} (trimmed : Text.IsTrimmed content) (untabbed : '\t' ∉ content)
      (unbroken : ∀ char ∈ content, Text.isLineBreak char = false) :
      Accepts text (.text content) (.text content)
  | list {items : List Text} {value : Value} (kept : keptValue value = .list (items.map .text))
      (proper : ∀ item ∈ items, isItem item = true) :
      Accepts list value (.list (items.map .text))
  | bool (flag : Bool) : Accepts bool (.bool flag) (.bool flag)
  | number {kind : OptionKind} {number : Int}
      (numeric : kind = int32 ∨ kind = interval ∨ kind = bandwidth)
      (least : kind.numberRange.1 ≤ number) (most : number ≤ kind.numberRange.2) :
      Accepts kind (.int number) (.int number)
  | address (family : AddressFamily) : Accepts ipResolve (.address family) (.address family)

theorem accepts_of_checkItems {key : Text} {items : List Value} {value kept : Value}
    (sequence : keptValue value = .list items)
    (checked : (checkItems key items).map .list = .ok kept) : Accepts list value kept := by
  cases found : checkItems key items with
  | error problem => simp [found, Except.map] at checked
  | ok items_kept =>
    obtain ⟨rfl, texts, rfl, proper⟩ := of_checkItems found
    obtain rfl : Value.list (texts.map .text) = kept := by
      simpa [found, Except.map] using checked
    exact .list sequence proper

theorem accepts_of_checkNumber {kind : OptionKind} {key : Text} {number : Int} {kept : Value}
    (numeric : kind = int32 ∨ kind = interval ∨ kind = bandwidth)
    (checked : kind.checkNumber key number = .ok kept) : Accepts kind (.int number) kept := by
  obtain ⟨rfl, least, most⟩ := checkNumber_eq_ok checked
  exact .number numeric least most

/-- What passes the check is accepted. -/
theorem accepts_of_check {kind : OptionKind} {key : Text} {value kept : Value}
    (checked : kind.check key value = .ok kept) : Accepts kind value kept := by
  unfold check at checked
  split at checked
  · simp at checked
  · obtain ⟨rfl, trimmed, untabbed, unbroken⟩ := checkText_eq_ok checked
    exact .text trimmed untabbed unbroken
  · simp at checked
  · exact accepts_of_checkItems rfl checked
  · exact accepts_of_checkItems rfl checked
  · simp at checked
  · cases checked
    exact .bool _
  · simp at checked
  · exact accepts_of_checkNumber (.inl rfl) checked
  · exact accepts_of_checkNumber (.inr (.inl rfl)) checked
  · exact accepts_of_checkNumber (.inr (.inr rfl)) checked
  · simp at checked
  · simp at checked
  · simp at checked
  · cases checked
    exact .address _
  · simp at checked

theorem natAbs_lt_of_numberRange {kind : OptionKind} {number : Int}
    (numeric : kind = int32 ∨ kind = interval ∨ kind = bandwidth)
    (least : kind.numberRange.1 ≤ number) (most : number ≤ kind.numberRange.2) :
    number.natAbs < 100000000000000000000 := by
  rcases numeric with rfl | rfl | rfl
  all_goals
    simp only [numberRange, int32Range, Quantity.minimum, Quantity.maximum] at least most
    omega

/-- A number in range can be written down. -/
theorem canWrite_of_numberRange {kind : OptionKind} {number : Int}
    (numeric : kind = int32 ∨ kind = interval ∨ kind = bandwidth)
    (least : kind.numberRange.1 ≤ number) (most : number ≤ kind.numberRange.2) :
    Numeral.canWrite number = true := by
  have small : number.natAbs < Nat.pow 10 20 := natAbs_lt_of_numberRange numeric least most
  exact Numeral.canWrite_of_lt (by decide) small

/-- An accepted value is kept as it is, but for tuples. -/
theorem Accepts.kept_eq {kind : OptionKind} {value kept : Value}
    (accepted : Accepts kind value kept) :
    kept = keptValue value := by
  cases accepted with
  | list kept proper => exact kept.symm
  | _ => rfl

/-- The text that is stored for an accepted value denotes the value. -/
theorem Accepts.decode_encoded {kind : OptionKind} {value kept : Value}
    (accepted : Accepts kind value kept) (key : Text) :
    kind.decode key (kind.encoded kept) = .ok kept := by
  cases accepted with
  | text trimmed untabbed unbroken => rfl
  | list sequence proper => rw [encoded, Value.map_plain_text, decode, listItems_join proper]
  | bool flag => cases flag <;> rfl
  | @number _ number numeric least most =>
    have plain : encoded kind (.int number) = Value.decimal number := by
      rcases numeric with rfl | rfl | rfl <;> rfl
    rw [plain]
    rcases numeric with rfl | rfl | rfl
    · have small : number.natAbs < UInt64.size := by
        simp only [numberRange, int32Range, UInt64.size] at least most ⊢
        omega
      have short := Numeral.length_toDigits_le small
      simp only [numberRange] at least most
      simp [decode, decodeInt32, Numeral.integer?, Numeral.read?_decimal, Numeral.isInteger,
        Numeral.toInt_decimal, Nat.not_lt.mpr short, least, most]
    · rw [decode, decodeQuantity, Quantity.parse_decimal .interval least most]
    · rw [decode, decodeQuantity, Quantity.parse_decimal .bandwidth least most]
  | address family => cases family <;> rfl

/-- Apart from texts, what is stored holds no blank at all. -/
theorem Accepts.isBlank_of_mem_encoded {kind : OptionKind} {value kept : Value}
    (accepted : Accepts kind value kept) (other : kind ≠ OptionKind.text) {char : Char}
    (member : char ∈ kind.encoded kept) : Text.isBlank char = false := by
  cases accepted with
  | text trimmed untabbed unbroken => exact absurd rfl other
  | list sequence proper =>
    rw [encoded, Value.map_plain_text] at member
    by_cases blank : Text.isBlank char = true
    · refine absurd member (Text.not_mem_join ?_ fun item item_member inner => ?_)
      · rintro (_ | ⟨_, ⟨⟩⟩)
        simp [KeyFile.listSeparator, Text.isBlank] at blank
      · have solid := ((isItem_iff.mp (proper item item_member)).2 char inner).1
        simp [blank] at solid
    · simpa using blank
  | bool flag =>
    have solid : (KeyFile.flagWord flag).all (fun char => !Text.isBlank char) = true := by
      cases flag <;> decide
    simpa using List.all_eq_true.mp solid char member
  | @number _ number numeric least most =>
    have plain : encoded kind (.int number) = Value.decimal number := by
      rcases numeric with rfl | rfl | rfl <;> rfl
    rw [plain, Value.decimal] at member
    have digits : ∀ inner ∈ Nat.toDigits 10 number.natAbs, Text.isBlank inner = false :=
      fun inner found => Numeral.isBlank_of_isDigit (Numeral.isDigit_of_mem_toDigits found)
    split at member
    · rcases List.mem_cons.mp member with rfl | inner
      · decide
      · exact digits char inner
    · exact digits char member
  | address family =>
    have solid : (Text.of family.word).all (fun char => !Text.isBlank char) = true := by
      cases family <;> decide
    simpa using List.all_eq_true.mp solid char member

/-- What is stored is a trimmed text on one line, without tabs. -/
theorem Accepts.encoded_proper {kind : OptionKind} {value kept : Value}
    (accepted : Accepts kind value kept) :
    Text.IsTrimmed (kind.encoded kept) ∧ '\n' ∉ kind.encoded kept ∧ '\t' ∉ kind.encoded kept ∧
      '\r' ∉ kind.encoded kept := by
  by_cases other : kind = OptionKind.text
  · subst other
    cases accepted with
    | @text content trimmed untabbed unbroken =>
      refine ⟨trimmed, fun member => ?_, untabbed, fun member => ?_⟩
      · exact absurd (unbroken _ member) (by decide)
      · exact absurd (unbroken _ member) (by decide)
    | number numeric least most => simp at numeric
  · have solid : ∀ char ∈ kind.encoded kept, Text.isBlank char = false :=
      fun char member => accepted.isBlank_of_mem_encoded other member
    refine ⟨Text.isTrimmed_of_solid solid, fun member => ?_, fun member => ?_, fun member => ?_⟩
    all_goals exact absurd (solid _ member) (by decide)

end OptionKind
end PackageRepos
