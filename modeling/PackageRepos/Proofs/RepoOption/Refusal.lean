import Mathlib.Algebra.Group.Int.Defs
import PackageRepos.Proofs.RepoOption.Access

/-!
# Refused values

The reasons for which an option does not take a value: its type, its range, and what a line of a
file or an item of a list cannot hold. A write fails for one of these reasons or because the option
is the read-only one, and for nothing else. The problem with a number is told with its digits, and
cannot be told when there are too many of them.
-/

namespace PackageRepos
namespace OptionKind

/-- The types of value that a kind takes. -/
inductive Takes : OptionKind → Value → Prop
  | text (content : Text) : Takes text (.text content)
  | list (items : List Value) : Takes list (.list items)
  | tuple (items : List Value) : Takes list (.tuple items)
  | bool (flag : Bool) : Takes bool (.bool flag)
  | int32 (number : Int) : Takes int32 (.int number)
  | interval (number : Int) : Takes interval (.int number)
  | bandwidth (number : Int) : Takes bandwidth (.int number)
  | address (family : AddressFamily) : Takes ipResolve (.address family)

/-- The numbers that a kind has room for. -/
inductive HasRoomFor : OptionKind → Int → Prop
  | int32 {number : Int} (least : -2 ^ 31 ≤ number) (most : number < 2 ^ 31) :
      HasRoomFor int32 number
  | interval {number : Int} (least : -2 ^ 63 ≤ number) (most : number < 2 ^ 63) :
      HasRoomFor interval number
  | bandwidth {number : Int} (least : 0 ≤ number) (most : number < 2 ^ 64) :
      HasRoomFor bandwidth number

/-- The items that a list cannot hold. -/
inductive IsBadItem : Value → Prop
  | untyped {item : Value} (other : ∀ content, item ≠ .text content) : IsBadItem item
  | empty : IsBadItem (.text [])
  | separated {content : Text} {char : Char} (member : char ∈ content)
      (separates : Text.isBlank char = true ∨ char = ',' ∨ char = ';') : IsBadItem (.text content)

/-- The values that a kind refuses. -/
inductive Refuses : OptionKind → Value → Prop
  | mistyped {kind : OptionKind} {value : Value} (mismatch : ¬kind.Takes value) :
      Refuses kind value
  | outside {kind : OptionKind} {number : Int} (numeric : kind.Takes (.int number))
      (outside : ¬kind.HasRoomFor number) : Refuses kind (.int number)
  | broken {content : Text} {char : Char} (member : char ∈ content)
      (breaks : Text.isLineBreak char = true) : Refuses text (.text content)
  | tabbed {content : Text} (member : '\t' ∈ content) : Refuses text (.text content)
  | untrimmed {content : Text} (edges : ¬Text.IsTrimmed content) : Refuses text (.text content)
  | items {value item : Value} {items : List Value}
      (sequence : value = .list items ∨ value = .tuple items) (member : item ∈ items)
      (bad : IsBadItem item) : Refuses list value

/-- The value is a number, as the kind takes them, with too many digits to be written down. -/
def IsLong (kind : OptionKind) (value : Value) : Prop :=
  ∃ number, value = .int number ∧ kind.Takes (.int number) ∧ Numeral.canWrite number = false

/-- A problem with a value is one of the value alone, and can be put into words unless the value is
too long a number. -/
structure Finds (kind : OptionKind) (value : Value) (problem : Problem) : Prop where
  named : problem ≠ .readOnly
  refuses : kind.Refuses value
  shown : problem.isShowable = false ↔ kind.IsLong value

/-! ## Reasons -/

/-- What is no number is no number that is too long. -/
theorem not_isLong_of_ne {kind : OptionKind} {value : Value}
    (other : ∀ number, value ≠ .int number) :
    ¬kind.IsLong value := by
  rintro ⟨number, rfl, -⟩
  exact other number rfl

/-- A value of another type is refused for that, in words. -/
theorem finds_wrongKind {kind : OptionKind} {value : Value} (mismatch : ¬kind.Takes value)
    (key : Text) (expected found : String) :
    kind.Finds value (.wrongKind key expected found) := by
  refine ⟨nofun, .mistyped mismatch, nofun, ?_⟩
  rintro ⟨number, rfl, takes, -⟩
  exact absurd takes mismatch

theorem isItem_eq_false_iff {content : Text} :
    isItem content = false ↔ IsBadItem (.text content) := by
  constructor
  · intro improper
    cases content with
    | nil => exact .empty
    | cons first rest =>
      have separated : ∃ char ∈ first :: rest, Text.isBlank char = true ∨
          isSeparator char = true := by
        simpa [isItem, -List.mem_cons, -List.any_cons] using improper
      obtain ⟨char, member, blank | separator⟩ := separated
      · exact .separated member (.inl blank)
      · refine .separated member ?_
        rcases (by simpa [isSeparator] using separator : (char = ' ' ∨ char = ',') ∨ char = ';')
          with (rfl | comma) | semicolon
        · exact .inl (by decide)
        · exact .inr (.inl comma)
        · exact .inr (.inr semicolon)
  · intro bad
    rw [Bool.eq_false_iff]
    intro proper
    obtain ⟨nonempty, solid⟩ := isItem_iff.mp proper
    cases bad with
    | untyped other => exact other content rfl
    | empty => exact nonempty rfl
    | separated member separates =>
      obtain ⟨unblank, unseparating⟩ := solid _ member
      rcases separates with blank | rfl | rfl
      · simp [unblank] at blank
      · simp [isSeparator] at unseparating
      · simp [isSeparator] at unseparating

/-- A list is refused for one of its items. -/
theorem exists_isBadItem_of_checkItems {key : Text} {items : List Value} {problem : Problem}
    (refused : checkItems key items = .error problem) :
    problem ≠ .readOnly ∧ problem.isShowable = true ∧ ∃ item ∈ items, IsBadItem item := by
  induction items with
  | nil => simp [checkItems] at refused
  | cons item rest ih =>
    cases item with
    | text content =>
      rw [checkItems] at refused
      split at refused
      · cases later : checkItems key rest with
        | ok kept => simp [later, Except.map] at refused
        | error found =>
          obtain rfl : found = problem := by simpa [later, Except.map] using refused
          obtain ⟨named, shown, bad, member, is_bad⟩ := ih later
          exact ⟨named, shown, bad, List.mem_cons_of_mem _ member, is_bad⟩
      · rename_i improper
        cases refused
        rw [Bool.not_eq_true, isItem_eq_false_iff] at improper
        exact ⟨by simp, rfl, _, List.mem_cons_self, improper⟩
    | _ =>
      cases refused
      exact ⟨by simp, rfl, _, List.mem_cons_self, .untyped (by simp)⟩

theorem numberRange_iff {kind : OptionKind} {number : Int} (numeric : kind.Takes (.int number)) :
    kind.numberRange.1 ≤ number ∧ number ≤ kind.numberRange.2 ↔ kind.HasRoomFor number := by
  constructor
  · rintro ⟨least, most⟩
    cases numeric with
    | int32 => exact .int32 least (Int.lt_of_le_of_lt most (by decide))
    | interval => exact .interval least (Int.lt_of_le_of_lt most (by decide))
    | bandwidth => exact .bandwidth least (Int.lt_of_le_of_lt most (by decide))
  · intro room
    cases room with
    | int32 least most => exact ⟨least, Int.le_of_lt_add_one most⟩
    | interval least most => exact ⟨least, Int.le_of_lt_add_one most⟩
    | bandwidth least most => exact ⟨least, Int.le_of_lt_add_one most⟩

theorem finds_of_checkText {key content : Text} {problem : Problem}
    (refused : checkText key content = .error problem) : text.Finds (.text content) problem := by
  have short : ¬text.IsLong (.text content) := not_isLong_of_ne nofun
  unfold checkText at refused
  split at refused
  · rename_i broken
    cases refused
    obtain ⟨char, member, breaks⟩ := List.any_eq_true.mp broken
    exact ⟨nofun, .broken member breaks, nofun, fun long => absurd long short⟩
  · split at refused
    · rename_i edges
      cases refused
      refine ⟨nofun, ?_, nofun, fun long => absurd long short⟩
      rw [Bool.or_eq_true, List.contains_iff_mem, bne_iff_ne] at edges
      rcases edges with tab | blank
      · exact .tabbed tab
      · exact .untrimmed fun trimmed => blank (Text.strip_of_isTrimmed trimmed).symm
    · simp at refused

theorem finds_of_checkNumber {kind : OptionKind} {key : Text} {number : Int} {problem : Problem}
    (numeric : kind.Takes (.int number)) (refused : kind.checkNumber key number = .error problem) :
    kind.Finds (.int number) problem := by
  unfold checkNumber at refused
  simp only at refused
  split at refused
  · simp at refused
  · rename_i outside
    cases refused
    refine ⟨nofun, .outside numeric (mt (numberRange_iff numeric).mpr outside), ?_, ?_⟩
    · exact fun untold => ⟨number, rfl, numeric, untold⟩
    · rintro ⟨_, ⟨⟩, -, long⟩
      exact long

theorem finds_of_checkSequence {key : Text} {value : Value} {items : List Value}
    {problem : Problem} (sequence : value = .list items ∨ value = .tuple items)
    (refused : (checkItems key items).map Value.list = .error problem) :
    list.Finds value problem := by
  have short : ¬list.IsLong value := not_isLong_of_ne fun number same => by
    simp [same] at sequence
  cases found : checkItems key items with
  | ok kept => simp [found, Except.map] at refused
  | error fault =>
    obtain rfl : fault = problem := by simpa [found, Except.map] using refused
    obtain ⟨named, shown, item, member, bad⟩ := exists_isBadItem_of_checkItems found
    exact ⟨named, .items sequence member bad, by simp [shown, short]⟩

/-- What does not pass the check is refused for a reason. -/
theorem finds_of_check {kind : OptionKind} (writable : kind ≠ id) {key : Text} {value : Value}
    {problem : Problem} (refused : kind.check key value = .error problem) :
    kind.Finds value problem := by
  unfold check at refused
  split at refused
  · exact absurd rfl writable
  · exact finds_of_checkText refused
  · rename_i other
    cases refused
    refine finds_wrongKind (fun takes => ?_) _ _ _
    cases takes with
    | text content => exact other content rfl
  · exact finds_of_checkSequence (.inl rfl) refused
  · exact finds_of_checkSequence (.inr rfl) refused
  · rename_i unlisted untupled
    cases refused
    refine finds_wrongKind (fun takes => ?_) _ _ _
    cases takes with
    | list items => exact unlisted items rfl
    | tuple items => exact untupled items rfl
  · simp at refused
  · rename_i other
    cases refused
    refine finds_wrongKind (fun takes => ?_) _ _ _
    cases takes with
    | bool flag => exact other flag rfl
  · exact finds_of_checkNumber (.int32 _) refused
  · exact finds_of_checkNumber (.interval _) refused
  · exact finds_of_checkNumber (.bandwidth _) refused
  · rename_i other
    cases refused
    refine finds_wrongKind (fun takes => ?_) _ _ _
    cases takes with
    | int32 number => exact other number rfl
  · rename_i other
    cases refused
    refine finds_wrongKind (fun takes => ?_) _ _ _
    cases takes with
    | interval number => exact other number rfl
  · rename_i other
    cases refused
    refine finds_wrongKind (fun takes => ?_) _ _ _
    cases takes with
    | bandwidth number => exact other number rfl
  · simp at refused
  · rename_i other
    cases refused
    refine finds_wrongKind (fun takes => ?_) _ _ _
    cases takes with
    | address family => exact other family rfl

theorem keptValue_eq_list_iff {value : Value} {items : List Value} :
    keptValue value = .list items ↔ value = .list items ∨ value = .tuple items := by
  cases value <;> simp [keptValue]

/-- What is accepted is refused for no reason. -/
theorem Accepts.not_refuses {kind : OptionKind} {value kept : Value}
    (accepted : Accepts kind value kept) : ¬kind.Refuses value := by
  intro refuses
  cases accepted with
  | text trimmed untabbed unbroken =>
    cases refuses with
    | mistyped mismatch => exact mismatch (.text _)
    | broken member breaks => simp [unbroken _ member] at breaks
    | tabbed member => exact untabbed member
    | untrimmed edges => exact edges trimmed
  | list sequence proper =>
    cases refuses with
    | mistyped mismatch =>
      rcases keptValue_eq_list_iff.mp sequence with rfl | rfl
      · exact mismatch (.list _)
      · exact mismatch (.tuple _)
    | outside typed => cases typed
    | items found member bad =>
      rw [keptValue_eq_list_iff.mpr found] at sequence
      cases sequence
      obtain ⟨content, content_member, rfl⟩ := List.mem_map.mp member
      have improper := isItem_eq_false_iff.mpr bad
      simp [proper content content_member] at improper
  | bool flag =>
    cases refuses with
    | mistyped mismatch => exact mismatch (.bool flag)
  | @number _ number numeric least most =>
    have takes : kind.Takes (.int number) := by
      rcases numeric with rfl | rfl | rfl
      · exact .int32 number
      · exact .interval number
      · exact .bandwidth number
    cases refuses with
    | mistyped mismatch => exact mismatch takes
    | outside typed outside => exact outside ((numberRange_iff takes).mp ⟨least, most⟩)
    | items sequence => simp at sequence
  | address family =>
    cases refuses with
    | mistyped mismatch => exact mismatch (.address family)

/-- An empty value of a list, or no value at all, removes an option of the kind. -/
theorem clears_iff {kind : OptionKind} {value : Value} :
    kind.clears value = true ↔
      value = .absent ∨ kind = list ∧ (value = .list [] ∨ value = .tuple []) := by
  constructor
  · intro cleared
    unfold clears at cleared
    split at cleared
    · exact .inl rfl
    · exact .inr ⟨rfl, .inl rfl⟩
    · exact .inr ⟨rfl, .inr rfl⟩
    · simp at cleared
  · rintro (rfl | ⟨rfl, rfl | rfl⟩)
    · cases kind <;> rfl
    · rfl
    · rfl

theorem Takes.numeric {kind : OptionKind} {number : Int} (takes : kind.Takes (.int number)) :
    kind = .int32 ∨ kind = .interval ∨ kind = .bandwidth := by
  cases takes with
  | int32 => exact .inl rfl
  | interval => exact .inr (.inl rfl)
  | bandwidth => exact .inr (.inr rfl)

/-- Too long a number is far out of range. -/
theorem IsLong.refuses {kind : OptionKind} {value : Value} (long : kind.IsLong value) :
    kind.Refuses value := by
  obtain ⟨number, rfl, takes, long⟩ := long
  refine .outside takes fun room => ?_
  obtain ⟨least, most⟩ := (numberRange_iff takes).mpr room
  rw [canWrite_of_numberRange takes.numeric least most] at long
  cases long

theorem IsLong.ne_id {kind : OptionKind} {value : Value} (long : kind.IsLong value) :
    kind ≠ .id := by
  rintro rfl
  obtain ⟨number, -, takes, -⟩ := long
  cases takes

theorem IsLong.clears_eq_false {kind : OptionKind} {value : Value} (long : kind.IsLong value) :
    kind.clears value = false := by
  obtain ⟨number, rfl, -⟩ := long
  cases kind <;> rfl

end OptionKind

namespace OptionSpec

/-- What a write of a value comes to: the option is read-only, or the value is refused, or else the
entry of the option changes. Too long a number is refused as well, but that cannot be told. -/
inductive Changing (spec : OptionSpec) (value : Value) : Except Failure (Option Text) → Prop
  | fixed (read_only : spec.kind = .id) : Changing spec value (.error (.error .readOnly))
  | refused (problem : Problem) (writable : spec.kind ≠ .id)
      (remains : spec.kind.clears value = false) (refuses : spec.kind.Refuses value)
      (short : ¬spec.kind.IsLong value) :
      Changing spec value (.error (.error (.rejected spec.key problem)))
  | untold (long : spec.kind.IsLong value) : Changing spec value (.error (.argument .unshowable))
  | done (change : Option Text) (writable : spec.kind ≠ .id)
      (free : spec.kind.clears value = true ∨ ¬spec.kind.Refuses value)
      (short : ¬spec.kind.IsLong value) : Changing spec value (.ok change)

theorem changing_change (spec : OptionSpec) (value : Value) :
    spec.Changing value (spec.change value) := by
  unfold change
  by_cases fixed : spec.kind = .id
  · rw [if_pos fixed]
    exact .fixed fixed
  · rw [if_neg fixed]
    cases cleared : spec.kind.clears value with
    | true =>
      rw [if_pos rfl]
      refine .done none fixed (.inl cleared) fun long => ?_
      rw [long.clears_eq_false] at cleared
      cases cleared
    | false =>
      rw [if_neg Bool.false_ne_true, validate]
      cases checked : spec.kind.check spec.key value with
      | ok kept =>
        have accepted := OptionKind.accepts_of_check checked
        exact .done _ fixed (.inr accepted.not_refuses) fun long =>
          accepted.not_refuses long.refuses
      | error problem =>
        have finds := OptionKind.finds_of_check fixed checked
        cases shown : problem.isShowable with
        | true =>
          have short : ¬spec.kind.IsLong value := fun long => by
            rw [finds.shown.mpr long] at shown
            cases shown
          cases problem with
          | readOnly => exact absurd rfl finds.named
          | _ => simpa only [shown, if_true] using .refused _ fixed cleared finds.refuses short
        | false =>
          have long := finds.shown.mp shown
          cases problem with
          | readOnly => exact absurd rfl finds.named
          | _ =>
            simpa only [shown, Bool.false_eq_true, if_false] using .untold long

theorem change_of_isLong {spec : OptionSpec} {value : Value} (long : spec.kind.IsLong value) :
    spec.change value = .error (.argument .unshowable) := by
  have changing := spec.changing_change value
  generalize spec.change value = change at changing
  cases changing with
  | fixed read_only => exact absurd read_only long.ne_id
  | refused problem writable remains refuses short => exact absurd long short
  | untold => rfl
  | done change writable free short => exact absurd long short

end OptionSpec
end PackageRepos
