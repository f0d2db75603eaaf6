import Mathlib.Data.List.TakeWhile
import PackageRepos.Numeral

/-!
# Written numerals

The spellings of a numeral, part by part. Reading takes a spelling from the start of a text, and it
takes the whole of a spelling unless the text goes on with the number.
-/

namespace PackageRepos
namespace Numeral

/-- A run of digits. -/
def AreDigits (text : Text) : Prop := ∀ char ∈ text, char.isDigit = true

-- The exponents are variables here, so that no power of ten is computed.
theorem pow_ten_le_pow_ten {low high : Nat} (le : low ≤ high) : Nat.pow 10 low ≤ Nat.pow 10 high :=
  Nat.pow_le_pow_right (by decide) le

/-- A number below a power of ten has at most as many digits as the exponent says. -/
theorem canWrite_of_lt {value : Int} {exponent : Nat} (short : exponent ≤ digitLimit)
    (small : value.natAbs < Nat.pow 10 exponent) : canWrite value = true :=
  decide_eq_true (small.trans_le (pow_ten_le_pow_ten short))

/-- A power of ten has one digit more than its exponent says, which are too many to be written down
from the limit on. -/
theorem canWrite_ten_pow {exponent : Nat} (long : digitLimit ≤ exponent) :
    canWrite (Nat.pow 10 exponent) = false := by
  rw [canWrite, Int.natAbs_natCast]
  exact decide_eq_false (Nat.not_lt.mpr (pow_ten_le_pow_ten long))

/-- The spellings of a sign. -/
inductive SpellsSign : Bool → Text → Prop
  | unsigned : SpellsSign false []
  | plus : SpellsSign false ['+']
  | minus : SpellsSign true ['-']

/-- The spellings of the digits around an optional point. Either side of the point may lack digits,
not both. -/
inductive SpellsDecimal : Text → Option Text → Text → Prop
  | integer {whole : Text} (digits : AreDigits whole) (nonempty : whole ≠ []) :
      SpellsDecimal whole none whole
  | pointed {whole fraction : Text} (digits : AreDigits whole) (further : AreDigits fraction)
      (nonempty : whole ≠ [] ∨ fraction ≠ []) :
      SpellsDecimal whole (some fraction) (whole ++ '.' :: fraction)

/-- The spellings of an optional exponent. -/
inductive SpellsExponent : Option (Bool × Text) → Text → Prop
  | absent : SpellsExponent none []
  | marked {mark : Char} {negative : Bool} {sign digits : Text} (mark_eq : mark = 'e' ∨ mark = 'E')
      (signed : SpellsSign negative sign) (are_digits : AreDigits digits)
      (nonempty : digits ≠ []) : SpellsExponent (some (negative, digits)) (mark :: (sign ++ digits))

/-- The spellings of a numeral. -/
inductive Spells (numeral : Numeral) : Text → Prop
  | parts {sign decimal exponent : Text} (signed : SpellsSign numeral.negative sign)
      (decimals : SpellsDecimal numeral.whole numeral.fraction decimal)
      (scaled : SpellsExponent numeral.exponent exponent) :
      Spells numeral (sign ++ (decimal ++ exponent))

/-- The texts with which a numeral before them would go on. -/
inductive GoesOn : Text → Prop
  | digit {char : Char} {rest : Text} (digit : char.isDigit = true) : GoesOn (char :: rest)
  | point (rest : Text) : GoesOn ('.' :: rest)
  | exponent {exponent : Bool × Text} {spelled : Text}
      (spells : SpellsExponent (some exponent) spelled) (rest : Text) : GoesOn (spelled ++ rest)

theorem not_goesOn_nil : ¬GoesOn [] := by
  intro goes
  generalize text_eq : ([] : Text) = text at goes
  cases goes with
  | digit | point => simp at text_eq
  | exponent spells rest =>
    cases spells
    simp at text_eq

/-- A single character other than a digit and a point is nothing to go on with. -/
theorem not_goesOn_singleton {char : Char} (undigit : char.isDigit = false) (unpoint : char ≠ '.') :
    ¬GoesOn [char] := by
  intro goes
  generalize text_eq : [char] = text at goes
  cases goes with
  | digit digit =>
    obtain ⟨rfl, -⟩ := List.cons.inj text_eq
    simp [undigit] at digit
  | point => exact unpoint (List.cons.inj text_eq).1
  | exponent spells rest =>
    cases spells with
    | marked _ _ _ nonempty => simp [nonempty] at text_eq

/-! ## Signs and digits -/

theorem isBlank_of_isDigit {char : Char} (digit : char.isDigit = true) :
    Text.isBlank char = false := by
  have range : 48 ≤ char.toNat ∧ char.toNat ≤ 57 := Char.isDigit_iff_toNat.mp digit
  simp only [Text.isBlank, Bool.or_eq_false_iff, Bool.and_eq_false_iff, decide_eq_false_iff_not,
    beq_eq_false_iff_ne]
  omega

theorem isAsciiBlank_of_isDigit {char : Char} (digit : char.isDigit = true) :
    Text.isAsciiBlank char = false := by
  by_cases ascii : Text.isAsciiBlank char = true
  · have blank := Text.isBlank_of_isAsciiBlank ascii
    simp [isBlank_of_isDigit digit] at blank
  · simpa using ascii

theorem exists_spellsSign (text : Text) :
    ∃ sign, text = sign ++ (readSign text).2 ∧ SpellsSign (readSign text).1 sign := by
  unfold readSign
  split
  · exact ⟨['-'], rfl, .minus⟩
  · exact ⟨['+'], rfl, .plus⟩
  · exact ⟨[], rfl, .unsigned⟩

theorem readSign_of_spells {negative : Bool} {sign text : Text} (signed : SpellsSign negative sign)
    (unsigned : ∀ char ∈ text.head?, char ≠ '+' ∧ char ≠ '-') :
    readSign (sign ++ text) = (negative, text) := by
  cases signed with
  | unsigned =>
    rw [List.nil_append]
    unfold readSign
    split
    · exact absurd rfl (unsigned '-' rfl).2
    · exact absurd rfl (unsigned '+' rfl).1
    · rfl
  | plus => rfl
  | minus => rfl

theorem ne_sign_of_isDigit {char : Char} (digit : char.isDigit = true) :
    char ≠ '+' ∧ char ≠ '-' ∧ char ≠ '.' := by
  refine ⟨?_, ?_, ?_⟩ <;> rintro rfl <;> simp at digit

theorem areDigits_readDigits (text : Text) : AreDigits (readDigits text).1 :=
  List.all_eq_true.mp List.all_takeWhile

theorem readDigits_append (text : Text) : (readDigits text).1 ++ (readDigits text).2 = text :=
  List.takeWhile_append_dropWhile

/-- The digits end where the run does. -/
theorem isDigit_of_head?_readDigits {text : Text} {char : Char}
    (first : char ∈ (readDigits text).2.head?) : char.isDigit = false := by
  have stopped := List.head?_dropWhile_not Char.isDigit text
  rw [show (text.dropWhile Char.isDigit).head? = some char from first] at stopped
  simpa using stopped

theorem readDigits_of_areDigits {digits rest : Text} (are_digits : AreDigits digits)
    (ends : ∀ char ∈ rest.head?, char.isDigit = false) :
    readDigits (digits ++ rest) = (digits, rest) := by
  have none_left : rest.takeWhile Char.isDigit = [] ∧ rest.dropWhile Char.isDigit = rest := by
    cases rest with
    | nil => exact ⟨rfl, rfl⟩
    | cons char others => simp [ends char rfl]
  rw [readDigits, List.takeWhile_append_of_pos are_digits, List.dropWhile_append_of_pos are_digits,
    none_left.1, none_left.2, List.append_nil]

/-! ## Digits around a point -/

theorem exists_spellsDecimal {negative : Bool} {text rest : Text} {numeral : Numeral}
    (read : readDecimal? negative text = some (numeral, rest)) :
    ∃ decimal, text = decimal ++ rest ∧
      SpellsDecimal numeral.whole numeral.fraction decimal ∧
      numeral = { negative, whole := numeral.whole, fraction := numeral.fraction } ∧
      (numeral.fraction = none → ∀ char ∈ rest.head?, char.isDigit = false ∧ char ≠ '.') := by
  have whole_digits := areDigits_readDigits text
  have text_eq := readDigits_append text
  have stopped : ∀ char ∈ (readDigits text).2.head?, char.isDigit = false :=
    fun char => isDigit_of_head?_readDigits
  unfold readDecimal? at read
  generalize readDigits text = digits at whole_digits text_eq stopped read
  obtain ⟨whole, after⟩ := digits
  simp only at whole_digits text_eq stopped read
  split at read
  · rename_i after_point
    have fraction_digits := areDigits_readDigits after_point
    have after_eq := readDigits_append after_point
    generalize readDigits after_point = further at fraction_digits after_eq read
    obtain ⟨fraction, remaining⟩ := further
    simp only at fraction_digits after_eq read
    split at read
    · rename_i nonempty
      cases read
      refine ⟨whole ++ '.' :: fraction, by simp [← text_eq, ← after_eq], ?_, rfl, by simp⟩
      exact .pointed whole_digits fraction_digits (by simpa using nonempty)
    · simp at read
  · rename_i pointless
    split at read
    · simp at read
    · rename_i nonempty
      cases read
      refine ⟨whole, text_eq.symm, .integer whole_digits (by simpa using nonempty), rfl, ?_⟩
      rintro - char first
      refine ⟨stopped char first, ?_⟩
      rintro rfl
      obtain ⟨others, after_eq⟩ := List.head?_eq_some_iff.mp first
      exact pointless others after_eq

theorem readDecimal?_of_spells {whole decimal rest : Text} {fraction : Option Text}
    (decimals : SpellsDecimal whole fraction decimal)
    (ends : ∀ char ∈ rest.head?, char.isDigit = false ∧ char ≠ '.') (negative : Bool) :
    readDecimal? negative (decimal ++ rest) = some ({ negative, whole, fraction }, rest) := by
  have rest_ends : ∀ char ∈ rest.head?, char.isDigit = false :=
    fun char first => (ends char first).1
  cases decimals with
  | integer digits nonempty =>
    rw [readDecimal?, readDigits_of_areDigits digits rest_ends]
    simp only
    split
    · exact absurd rfl (ends '.' rfl).2
    · simp [nonempty]
  | pointed digits further nonempty =>
    rename_i fraction
    have point_ends : ∀ char ∈ ('.' :: (fraction ++ rest)).head?, char.isDigit = false := by simp
    rw [List.append_assoc, List.cons_append, readDecimal?,
      readDigits_of_areDigits digits point_ends]
    have some_digit : (!whole.isEmpty || !fraction.isEmpty) = true := by simpa using nonempty
    simp only [readDigits_of_areDigits further rest_ends, some_digit, if_true]

/-! ## Exponents -/

theorem readSign_append_digits {negative : Bool} {sign digits : Text}
    (signed : SpellsSign negative sign) (are_digits : AreDigits digits) (nonempty : digits ≠ [])
    (rest : Text) : readSign (sign ++ (digits ++ rest)) = (negative, digits ++ rest) := by
  refine readSign_of_spells signed ?_
  obtain ⟨first, others, rfl⟩ := List.exists_cons_of_ne_nil nonempty
  rintro char ⟨⟩
  obtain ⟨plus, minus, -⟩ := ne_sign_of_isDigit (are_digits first List.mem_cons_self)
  exact ⟨plus, minus⟩

/-- An exponent that is written out is read, whatever follows it. -/
theorem readExponent_of_marked {mark : Char} {negative : Bool} {sign digits : Text}
    (mark_eq : mark = 'e' ∨ mark = 'E') (signed : SpellsSign negative sign)
    (are_digits : AreDigits digits) (nonempty : digits ≠ []) (numeral : Numeral) (rest : Text) :
    readExponent numeral (mark :: (sign ++ (digits ++ rest))) =
      ({ numeral with exponent := some (negative, digits ++ (readDigits rest).1) },
        (readDigits rest).2) := by
  have all_digits : AreDigits (digits ++ (readDigits rest).1) := fun char member =>
    (List.mem_append.mp member).elim (are_digits char) (areDigits_readDigits rest char)
  have run : readDigits (digits ++ rest) =
      (digits ++ (readDigits rest).1, (readDigits rest).2) := by
    have split_eq : digits ++ rest = (digits ++ (readDigits rest).1) ++ (readDigits rest).2 := by
      rw [List.append_assoc, readDigits_append]
    rw [split_eq]
    exact readDigits_of_areDigits all_digits fun char => isDigit_of_head?_readDigits
  have is_mark : (mark == 'e' || mark == 'E') = true := by simpa using mark_eq
  rw [readExponent]
  simp [is_mark, readSign_append_digits signed are_digits nonempty, run, nonempty]

/-- What is read as an exponent is spelled out, and where none is read none is there. -/
theorem exists_spellsExponent {numeral result : Numeral} {text rest : Text}
    (unscaled : numeral.exponent = none) (read : readExponent numeral text = (result, rest)) :
    ∃ exponent, text = exponent ++ rest ∧ SpellsExponent result.exponent exponent ∧
      result = { numeral with exponent := result.exponent } ∧
      (result.exponent = none → ∀ (found : Bool × Text) (spelled others : Text),
        SpellsExponent (some found) spelled → rest ≠ spelled ++ others) := by
  have idle : (numeral, text) = (result, rest) → ∃ exponent, text = exponent ++ rest ∧
      SpellsExponent result.exponent exponent ∧
      result = { numeral with exponent := result.exponent } ∧
      (result.exponent = none → ∀ (found : Bool × Text) (spelled others : Text),
        SpellsExponent (some found) spelled → rest ≠ spelled ++ others) := by
    rintro ⟨⟩
    refine ⟨[], rfl, by rw [unscaled]; exact .absent, by cases numeral; rfl, ?_⟩
    rintro - _ _ others spells rfl
    cases spells with
    | marked mark_eq signed are_digits nonempty =>
      rw [List.cons_append, List.append_assoc,
        readExponent_of_marked mark_eq signed are_digits nonempty, Prod.mk.injEq] at read
      rw [← read.1] at unscaled
      cases unscaled
  unfold readExponent at read
  split at read
  · rename_i mark after_mark
    split at read
    · rename_i is_mark
      obtain ⟨sign, after_eq, signed⟩ := exists_spellsSign after_mark
      have are_digits := areDigits_readDigits (readSign after_mark).2
      have digits_eq := readDigits_append (readSign after_mark).2
      simp only at read
      split at read
      · exact idle read
      · rename_i nonempty
        cases read
        refine ⟨mark :: (sign ++ (readDigits (readSign after_mark).2).1), ?_, ?_, rfl, by simp⟩
        · rw [List.cons_append, List.append_assoc, digits_eq, ← after_eq]
        · exact .marked (by simpa using is_mark) signed are_digits (by simpa using nonempty)
    · exact idle read
  · exact idle read

theorem readExponent_of_spells {numeral : Numeral} {exponent : Option (Bool × Text)}
    {spelled rest : Text} (unscaled : numeral.exponent = none)
    (scaled : SpellsExponent exponent spelled) (ends : ¬GoesOn rest) :
    readExponent numeral (spelled ++ rest) = ({ numeral with exponent }, rest) := by
  cases scaled with
  | absent =>
    cases read : readExponent numeral rest with
    | mk result remaining =>
      obtain ⟨exponent, rest_eq, spells, result_eq, -⟩ := exists_spellsExponent unscaled read
      cases found : result.exponent with
      | none =>
        rw [found] at spells result_eq
        cases spells
        rw [List.nil_append, read, result_eq, rest_eq, List.nil_append]
      | some value =>
        rw [found] at spells
        exact absurd (rest_eq ▸ .exponent spells remaining) ends
  | marked mark_eq signed are_digits nonempty =>
    have none_digits : AreDigits [] := by simp [AreDigits]
    have stopped : readDigits ([] ++ rest) = ([], rest) :=
      readDigits_of_areDigits none_digits fun char first => by
        obtain ⟨others, rfl⟩ := List.head?_eq_some_iff.mp first
        exact Bool.eq_false_iff.mpr fun digit => ends (.digit digit)
    rw [List.nil_append] at stopped
    rw [List.cons_append, List.append_assoc,
      readExponent_of_marked mark_eq signed are_digits nonempty, stopped, List.append_nil]

/-- A digit or a point follows neither an exponent nor its absence, where a numeral ends. -/
theorem head?_of_spellsExponent {exponent : Option (Bool × Text)} {spelled rest : Text}
    (scaled : SpellsExponent exponent spelled) (ends : ¬GoesOn rest) :
    ∀ char ∈ (spelled ++ rest).head?, char.isDigit = false ∧ char ≠ '.' := by
  intro char first
  cases scaled with
  | absent =>
    obtain ⟨others, rfl⟩ := List.head?_eq_some_iff.mp first
    refine ⟨Bool.eq_false_iff.mpr fun digit => ends (.digit digit), ?_⟩
    rintro rfl
    exact ends (.point others)
  | marked mark_eq =>
    cases first
    rcases mark_eq with rfl | rfl <;> decide

/-! ## Numerals -/

theorem read?_eq_some_iff {text rest : Text} {numeral : Numeral} :
    read? text = some (numeral, rest) ↔
      ∃ unscaled after,
        readDecimal? (readSign (text.dropWhile Text.isAsciiBlank)).1
          (readSign (text.dropWhile Text.isAsciiBlank)).2 = some (unscaled, after) ∧
        readExponent unscaled after = (numeral, rest) := by
  rw [read?]
  simp only [Option.map_eq_some_iff, Prod.exists]

/-- What is read is spelled out at the start of the text, after blanks. An integer is read up to
where the text does not go on with the number. -/
theorem exists_spells_of_read? {text rest : Text} {numeral : Numeral}
    (read : read? text = some (numeral, rest)) :
    ∃ blanks spelled, text = blanks ++ (spelled ++ rest) ∧
      (∀ char ∈ blanks, Text.isAsciiBlank char = true) ∧ numeral.Spells spelled ∧
      (numeral.isInteger = true → ¬GoesOn rest) := by
  have blanks_eq : text.takeWhile Text.isAsciiBlank ++ text.dropWhile Text.isAsciiBlank = text :=
    List.takeWhile_append_dropWhile
  obtain ⟨sign, sign_eq, signed⟩ := exists_spellsSign (text.dropWhile Text.isAsciiBlank)
  obtain ⟨unscaled, after, decimal_read, exponent_read⟩ := read?_eq_some_iff.mp read
  obtain ⟨decimal, decimal_eq, decimals, unscaled_eq, decimal_ends⟩ :=
    exists_spellsDecimal decimal_read
  have unscaled_none : unscaled.exponent = none := by rw [unscaled_eq]
  obtain ⟨exponent, exponent_eq, scaled, numeral_eq, exponent_ends⟩ :=
    exists_spellsExponent unscaled_none exponent_read
  have same_whole : numeral.whole = unscaled.whole := by rw [numeral_eq]
  have same_fraction : numeral.fraction = unscaled.fraction := by rw [numeral_eq]
  have same_sign : numeral.negative = (readSign (text.dropWhile Text.isAsciiBlank)).1 := by
    calc numeral.negative = unscaled.negative := by rw [numeral_eq]
      _ = _ := by rw [unscaled_eq]
  refine ⟨text.takeWhile Text.isAsciiBlank, sign ++ (decimal ++ exponent), ?_,
    List.all_eq_true.mp List.all_takeWhile, ?_, ?_⟩
  · calc text = text.takeWhile Text.isAsciiBlank ++ text.dropWhile Text.isAsciiBlank :=
          blanks_eq.symm
      _ = text.takeWhile Text.isAsciiBlank ++ (sign ++ (decimal ++ (exponent ++ rest))) := by
        rw [← exponent_eq, ← decimal_eq, ← sign_eq]
      _ = _ := by simp only [List.append_assoc]
  · refine .parts (same_sign ▸ signed) ?_ scaled
    rw [same_whole, same_fraction]
    exact decimals
  · intro integer goes
    obtain ⟨pointless, none_scaled⟩ :
        numeral.fraction = none ∧ numeral.exponent = none := by
      simpa [isInteger] using integer
    have stands : after = rest := by
      rw [none_scaled] at scaled
      cases scaled
      simpa using exponent_eq
    have ends := decimal_ends (same_fraction ▸ pointless)
    rw [stands] at ends
    cases goes with
    | digit digit => simp [(ends _ rfl).1] at digit
    | point => exact (ends '.' rfl).2 rfl
    | exponent spells others => exact exponent_ends none_scaled _ _ others spells rfl

/-- The digits around a point start with a digit or with the point. -/
theorem head?_of_spellsDecimal {whole decimal : Text} {fraction : Option Text}
    (decimals : SpellsDecimal whole fraction decimal) (after : Text) :
    ∃ first, (decimal ++ after).head? = some first ∧ (first.isDigit = true ∨ first = '.') := by
  cases decimals with
  | integer digits nonempty =>
    obtain ⟨first, others, rfl⟩ := List.exists_cons_of_ne_nil nonempty
    exact ⟨first, rfl, .inl (digits first List.mem_cons_self)⟩
  | pointed digits further nonempty =>
    cases whole with
    | nil => exact ⟨'.', rfl, .inr rfl⟩
    | cons first others => exact ⟨first, rfl, .inl (digits first List.mem_cons_self)⟩

/-- No blank stands at the start of a spelling. -/
theorem isAsciiBlank_head?_of_spells {negative : Bool} {sign text : Text} {first char : Char}
    (signed : SpellsSign negative sign) (text_head : text.head? = some first)
    (solid : first.isDigit = true ∨ first = '.') (head : (sign ++ text).head? = some char) :
    Text.isAsciiBlank char = false := by
  cases signed with
  | unsigned =>
    obtain rfl : first = char := Option.some.inj (text_head.symm.trans head)
    rcases solid with digit | rfl
    · exact isAsciiBlank_of_isDigit digit
    · decide
  | plus | minus =>
    cases head
    decide

/-- After blanks, the text starts with a spelling of the numeral, and the rest of the text does not
go on with the number. -/
structure Leads (numeral : Numeral) (text rest : Text) : Prop where
  spelled : ∃ blanks spelled, text = blanks ++ (spelled ++ rest) ∧
    (∀ char ∈ blanks, Text.isAsciiBlank char = true) ∧ numeral.Spells spelled
  ends : ¬GoesOn rest

theorem leads_of_read? {text rest : Text} {numeral : Numeral}
    (read : read? text = some (numeral, rest)) (ends : numeral.isInteger = false → ¬GoesOn rest) :
    numeral.Leads text rest := by
  obtain ⟨blanks, spelled, text_eq, blank, spells, integer_ends⟩ := exists_spells_of_read? read
  refine ⟨⟨blanks, spelled, text_eq, blank, spells⟩, ?_⟩
  cases integer : numeral.isInteger with
  | true => exact integer_ends integer
  | false => exact ends integer

/-- A numeral is read from each of its spellings. -/
theorem Leads.read?_eq {text rest : Text} {numeral : Numeral} (leads : numeral.Leads text rest) :
    read? text = some (numeral, rest) := by
  obtain ⟨⟨blanks, spelled, rfl, blank, ⟨signed, decimals, scaled⟩⟩, ends⟩ := leads
  rename_i sign decimal exponent
  obtain ⟨first, first_eq, solid⟩ := head?_of_spellsDecimal decimals (exponent ++ rest)
  have unblanked : (blanks ++ (sign ++ (decimal ++ exponent) ++ rest)).dropWhile
      Text.isAsciiBlank = sign ++ (decimal ++ (exponent ++ rest)) := by
    rw [List.dropWhile_append_of_pos blank, List.append_assoc, List.append_assoc,
      List.dropWhile_eq_self_iff]
    intro nonempty
    rw [Bool.not_eq_true]
    exact isAsciiBlank_head?_of_spells signed first_eq solid (List.head?_eq_getElem? ▸ by simp)
  have sign_read : readSign (sign ++ (decimal ++ (exponent ++ rest))) =
      (numeral.negative, decimal ++ (exponent ++ rest)) := by
    refine readSign_of_spells signed fun char head => ?_
    obtain rfl : first = char := Option.some.inj (first_eq.symm.trans head)
    rcases solid with digit | rfl
    · exact ⟨(ne_sign_of_isDigit digit).1, (ne_sign_of_isDigit digit).2.1⟩
    · decide
  rw [read?_eq_some_iff, unblanked, sign_read]
  refine ⟨_, _, readDecimal?_of_spells decimals (head?_of_spellsExponent scaled ends)
    numeral.negative, ?_⟩
  exact readExponent_of_spells rfl scaled ends

theorem Leads.unique {numeral other : Numeral} {text rest other_rest : Text}
    (leads : numeral.Leads text rest) (other_leads : other.Leads text other_rest) :
    numeral = other ∧ rest = other_rest := by
  have read := leads.read?_eq
  rw [other_leads.read?_eq] at read
  cases read
  exact ⟨rfl, rfl⟩

/-- Digits alone are a numeral. -/
theorem leads_of_areDigits {digits : Text} (are_digits : AreDigits digits)
    (nonempty : digits ≠ []) : Leads { negative := false, whole := digits } digits [] where
  spelled := ⟨[], [] ++ (digits ++ []), by simp, by simp,
    .parts .unsigned (.integer are_digits nonempty) .absent⟩
  ends := not_goesOn_nil

/-- The text starts with an integer that has more digits than can be read. -/
def IsOverlong (text rest : Text) : Prop :=
  ∃ numeral : Numeral, numeral.Leads text rest ∧ numeral.isInteger = true ∧
    digitLimit < numeral.whole.length

end Numeral
end PackageRepos
