import PackageRepos.Proofs.RepoOption.Codec
import PackageRepos.Proofs.RepoOption.Items
import PackageRepos.Proofs.RepoOption.Refusal

/-!
# Texts of lists

A list option reads a text as its items, and any separator between two texts joins their lists.
Joined with semicolons, the items that were read are read again, whatever else they hold; and of the
lists that a caller may hand over, those are accepted whose items hold no blanks and no separators.
-/

namespace PackageRepos
namespace OptionKind

open Text

/-- The items of a text, joined again, are its items. -/
theorem listItems_join_listItems {separator : Char} (separates : isSeparator separator = true)
    (text : Text) : listItems (join [separator] (listItems text)) = listItems text := by
  refine listItems_join_of_singletons separates fun item member => ?_
  obtain ⟨filled, trimmed, undivided⟩ := of_mem_listItems member
  exact listItems_eq_singleton filled trimmed undivided

theorem isItem_iff_of_mem {item : Text} :
    isItem item = true ↔
      item ≠ [] ∧ ∀ char ∈ item, isBlank char = false ∧ char ∉ [' ', ',', ';'] := by
  simp only [isItem_iff, ← isSeparator_iff, Bool.not_eq_true]

theorem checkItems_of_isItem (key : Text) {items : List Text}
    (proper : ∀ item ∈ items, isItem item = true) :
    checkItems key (items.map .text) = .ok (items.map .text) := by
  induction items with
  | nil => rfl
  | cons item rest ih =>
    obtain ⟨item_proper, rest_proper⟩ := List.forall_mem_cons.mp proper
    simp [checkItems, item_proper, ih rest_proper, Except.map]

end OptionKind

namespace OptionSpec

open OptionKind

/-- The value is a list or a tuple of the texts. -/
def IsSequence (value : Value) (items : List Text) : Prop :=
  value = .list (items.map .text) ∨ value = .tuple (items.map .text)

/-- The option reads and takes lists as texts tell them. -/
structure EncodesLists (spec : OptionSpec) : Prop where
  /-- A separator joins the lists of two texts. -/
  append : ∀ separator ∈ [' ', ',', ';'], ∀ front back, ∃ left right,
    spec.decode front = .ok (.list left) ∧ spec.decode back = .ok (.list right) ∧
      spec.decode (front ++ separator :: back) = .ok (.list (left ++ right))
  /-- What was read is read again from its items with semicolons between them. -/
  settled : ∀ raw, ∃ items : List Text, spec.decode raw = .ok (.list (items.map .text)) ∧
    spec.decode (Text.join [';'] items) = .ok (.list (items.map .text))
  accepts : ∀ value items, IsSequence value items →
    ((∃ kept, spec.validate value = .ok kept) ↔
      ∀ item ∈ items, item ≠ [] ∧ ∀ char ∈ item, Text.isBlank char = false ∧ char ∉ [' ', ',', ';'])
  /-- A sequence that is accepted is the list that is read from its text. -/
  restores : ∀ value items kept, IsSequence value items → spec.validate value = .ok kept →
    kept = .list (items.map .text) ∧ spec.decode (Text.join [';'] items) = .ok kept

theorem decode_of_list {spec : OptionSpec} (lists : spec.kind = .list) (raw : Text) :
    spec.decode raw = .ok (.list ((listItems raw).map .text)) := by
  rw [decode, lists, OptionKind.decode]

/-- A sequence of texts is accepted exactly when each of them is an item, and kept as a list. -/
theorem validate_eq_ok_iff {spec : OptionSpec} (lists : spec.kind = .list) {value kept : Value}
    {items : List Text} (sequence : IsSequence value items) :
    spec.validate value = .ok kept ↔
      (∀ item ∈ items, isItem item = true) ∧ kept = .list (items.map .text) := by
  have kept_eq : keptValue value = .list (items.map .text) := by
    rcases sequence with rfl | rfl <;> rfl
  constructor
  · intro validated
    have accepted := validate_eq_ok validated
    rw [lists] at accepted
    cases accepted with
    | @list others _ others_kept proper =>
      rw [kept_eq, Value.list.injEq] at others_kept
      obtain rfl : items = others :=
        List.map_injective_iff.mpr (fun _ _ => Value.text.inj) others_kept
      exact ⟨proper, rfl⟩
    | number numeric => simp at numeric
  · rintro ⟨proper, rfl⟩
    have checked := checkItems_of_isItem spec.key proper
    rcases sequence with rfl | rfl <;> simp [validate, lists, check, checked, Except.map]

/-- Every list option encodes lists faithfully. -/
theorem encodesLists_of_kind {spec : OptionSpec} (lists : spec.kind = .list) :
    spec.EncodesLists where
  append separator member front back := by
    refine ⟨_, _, decode_of_list lists front, decode_of_list lists back, ?_⟩
    rw [decode_of_list lists, listItems_append_cons (isSeparator_iff.mpr member), List.map_append]
  settled raw := by
    refine ⟨listItems raw, decode_of_list lists raw, ?_⟩
    rw [decode_of_list lists, listItems_join_listItems rfl]
  accepts value items sequence := by
    simp only [validate_eq_ok_iff lists sequence, isItem_iff_of_mem, exists_and_left, exists_eq,
      and_true]
  restores value items kept sequence validated := by
    obtain ⟨proper, rfl⟩ := (validate_eq_ok_iff lists sequence).mp validated
    have joined : listItems (Text.join [';'] items) = items := listItems_join proper
    refine ⟨rfl, ?_⟩
    rw [decode_of_list lists, joined]

/-- Two addresses that a caller hands over as a tuple are stored and read again. -/
theorem baseurl_encodesLists :
    RepoOption.baseurl.spec.kind = .list ∧ RepoOption.baseurl.spec.EncodesLists ∧
      ∃ kept, RepoOption.baseurl.spec.validate
          (.tuple [.text (Text.of "http://a/"), .text (Text.of "http://b/")]) = .ok kept ∧
        RepoOption.baseurl.spec.decode (Text.of "http://a/;http://b/") = .ok kept := by
  have encodes : RepoOption.baseurl.spec.EncodesLists := encodesLists_of_kind rfl
  have sequence : IsSequence (.tuple [.text (Text.of "http://a/"), .text (Text.of "http://b/")])
      [Text.of "http://a/", Text.of "http://b/"] := .inr rfl
  have proper : [Text.of "http://a/", Text.of "http://b/"].all isItem = true := rfl
  obtain ⟨kept, validated⟩ := (encodes.accepts _ _ sequence).mpr
    fun item member => isItem_iff_of_mem.mp (List.all_eq_true.mp proper item member)
  exact ⟨rfl, encodes, kept, validated, (encodes.restores _ _ _ sequence validated).2⟩

end OptionSpec
end PackageRepos
