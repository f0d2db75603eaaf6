import PackageRepos.KeyFile.Line
import PackageRepos.KeyFile.Printer
import PackageRepos.Proofs.Text.Trimmed

/-!
# Printed lines read back

The names, keys, values and comments that a line can carry, each as a predicate. What is read off
a line satisfies its predicate, and whatever satisfies it is read back from its printed line.
-/

namespace PackageRepos
namespace KeyFile

open Text

/-- A name that a header can carry. -/
structure IsGroupName (name : Text) : Prop where
  nonempty : name ≠ []
  single : '\n' ∉ name

/-- A line that is a comment. -/
structure IsCommentLine (line : Text) : Prop where
  marked : isComment line = true
  trimmed : IsTrimmed line
  single : '\n' ∉ line

/-- A key that an entry can carry. -/
structure IsKey (key : Text) : Prop where
  nonempty : key ≠ []
  trimmed : IsTrimmed key
  undivided : '=' ∉ key
  single : '\n' ∉ key
  uncommented : isComment key = false

/-- A key and a value that one line can carry together: the line is not a header. -/
structure IsEntry (key value : Text) : Prop extends IsKey key where
  value_trimmed : IsTrimmed value
  value_single : '\n' ∉ value
  unbracketed : ∀ rest, key = '[' :: rest → ']' ∉ rest.tail ∧ ']' ∉ value

theorem ne_nil_of_isComment {content : Text} (marked : isComment content = true) :
    content ≠ [] := by
  rintro rfl
  simp [isComment] at marked

/-! ## Headers -/

theorem headerName?_eq_some_iff {content name : Text} :
    headerName? content = some name ↔
      ∃ ending, content = '[' :: name ++ ']' :: ending ∧ name ≠ [] ∧ ']' ∉ ending := by
  constructor
  · intro found
    unfold headerName? at found
    split at found
    · rename_i rest
      split at found
      · rename_i reversed split_eq
        split at found
        · simp at found
        · rename_i nonempty
          obtain rfl : reversed.reverse = name := by simpa using found
          let ending := (rest.reverse.takeWhile (· != ']')).reverse
          have rest_eq : rest = reversed.reverse ++ ']' :: ending := by
            rw [← List.reverse_inj, List.reverse_append, List.reverse_cons, List.reverse_reverse,
              List.reverse_reverse, List.append_assoc, List.singleton_append, ← split_eq]
            exact List.takeWhile_append_dropWhile.symm
          refine ⟨ending, by rw [rest_eq]; rfl, by simpa using nonempty, ?_⟩
          intro member
          have differs := List.all_eq_true.mp List.all_takeWhile ']' (List.mem_reverse.mp member)
          simp at differs
      · simp at found
    · simp at found
  · rintro ⟨ending, rfl, nonempty, unclosed⟩
    have passed : ∀ char ∈ ending.reverse, (char != ']') = true := by
      intro char member
      have differs : char ≠ ']' := fun same => unclosed (same ▸ List.mem_reverse.mp member)
      simpa using differs
    have reached : (name ++ ']' :: ending).reverse.dropWhile (· != ']') = ']' :: name.reverse := by
      rw [List.reverse_append, List.reverse_cons, List.append_assoc,
        List.dropWhile_append_of_pos passed]
      simp
    simp only [headerName?, List.cons_append, reached]
    simp [nonempty]

/-- A line is no header when no bracket is closed after its second character. -/
theorem headerName?_eq_none {content : Text}
    (unclosed : ∀ rest, content = '[' :: rest → ']' ∉ rest.tail) : headerName? content = none := by
  cases found : headerName? content with
  | none => rfl
  | some name =>
    obtain ⟨ending, rfl, nonempty, -⟩ := headerName?_eq_some_iff.mp found
    obtain ⟨first, others, rfl⟩ := List.exists_cons_of_ne_nil nonempty
    exact absurd (by simp) (unclosed _ rfl)

/-- In a line that is no header no bracket is closed after the second character. -/
theorem unclosed_of_headerName?_eq_none {rest : Text} (missing : headerName? ('[' :: rest) = none) :
    ']' ∉ rest.tail := by
  intro member
  obtain ⟨reversed, others, split_eq, fresh⟩ :=
    List.eq_append_cons_of_mem (List.mem_reverse.mpr member)
  cases rest with
  | nil => simp at member
  | cons first tail =>
    have tail_eq : tail = others.reverse ++ ']' :: reversed.reverse := by
      rw [List.tail_cons] at split_eq
      rw [← List.reverse_inj, split_eq]
      simp
    have found : headerName? ('[' :: first :: tail) = some (first :: others.reverse) :=
      headerName?_eq_some_iff.mpr
        ⟨reversed.reverse, by simp [tail_eq], by simp, by simpa using fresh⟩
    simp [found] at missing

theorem isGroupName_of_headerName? {content name : Text} (single : '\n' ∉ content)
    (found : headerName? content = some name) : IsGroupName name := by
  obtain ⟨ending, rfl, nonempty, -⟩ := headerName?_eq_some_iff.mp found
  exact ⟨nonempty, fun member => single (by simp [member])⟩

theorem isTrimmed_headerLine (group : Text) : IsTrimmed (headerLine group) := by
  constructor
  · simp [headerLine, isBlank]
  · simp [headerLine, isBlank]

theorem headerName?_headerLine {group : Text} (named : IsGroupName group) :
    headerName? (headerLine group) = some group :=
  headerName?_eq_some_iff.mpr ⟨[], by simp [headerLine], named.nonempty, by simp⟩

@[simp]
theorem isComment_headerLine (group : Text) : isComment (headerLine group) = false := by
  simp [headerLine, isComment]

/-! ## Entries -/

/-- An entry is divided by its first equals sign. -/
theorem entryOf?_append {before : Text} (undivided : '=' ∉ before) (after : Text) :
    entryOf? (before ++ '=' :: after) = some (stripRight before, strip after) := by
  have passed : ∀ char ∈ before, (char != '=') = true := by
    intro char member
    have differs : char ≠ '=' := fun same => undivided (same ▸ member)
    simpa using differs
  simp only [entryOf?, keyPart, List.dropWhile_append_of_pos passed,
    List.takeWhile_append_of_pos passed]
  simp

theorem exists_of_entryOf? {content key value : Text}
    (found : entryOf? content = some (key, value)) :
    ∃ before after, content = before ++ '=' :: after ∧ '=' ∉ before ∧
      key = stripRight before ∧ value = strip after := by
  have parts := List.takeWhile_append_dropWhile (p := fun char => char != '=') (l := content)
  have undivided : '=' ∉ content.takeWhile (· != '=') := by
    intro member
    simpa using List.all_eq_true.mp List.all_takeWhile '=' member
  unfold entryOf? at found
  split at found
  · rename_i sign rest drop_eq
    have sign_eq : sign = '=' := by
      have first := List.head?_dropWhile_not (fun char => char != '=') content
      rw [drop_eq] at first
      simpa using first
    obtain ⟨rfl, rfl⟩ : keyPart content = key ∧ strip rest = value := by simpa using found
    rw [drop_eq, sign_eq] at parts
    exact ⟨_, rest, parts.symm, undivided, rfl, rfl⟩
  · simp at found

theorem isEntry_of_entryOf? {content key value : Text} (trimmed : IsTrimmed content)
    (single : '\n' ∉ content) (uncommented : isComment content = false)
    (headerless : headerName? content = none) (nonempty : key ≠ [])
    (found : entryOf? content = some (key, value)) : IsEntry key value := by
  obtain ⟨before, after, rfl, undivided, rfl, rfl⟩ := exists_of_entryOf? found
  have flush : IsFlush before := trimmed.1.of_isPrefix (List.prefix_append before _)
  obtain ⟨first, others, before_eq⟩ : ∃ first others, before = first :: others := by
    refine List.exists_cons_of_ne_nil ?_
    rintro rfl
    exact nonempty rfl
  have key_start := stripRight_isPrefix before
  refine
    { nonempty
      trimmed := isTrimmed_stripRight flush
      undivided := fun member => undivided (key_start.subset member)
      single := fun member => single (List.mem_append_left _ (key_start.subset member))
      uncommented := ?_
      value_trimmed := isTrimmed_strip after
      value_single := fun member =>
        single (List.mem_append_right _ (List.mem_cons_of_mem _ (strip_subset after member)))
      unbracketed := ?_ }
  · obtain ⟨rest, rest_eq⟩ := key_start
    cases key_eq : stripRight before with
    | nil => exact absurd key_eq nonempty
    | cons char chars =>
      rw [key_eq] at rest_eq
      rw [← rest_eq] at uncommented
      simpa [isComment] using uncommented
  · intro keyRest key_eq
    obtain ⟨rest, rest_eq⟩ := key_start
    rw [key_eq] at rest_eq
    rw [← rest_eq] at headerless
    have headerless_line : headerName? ('[' :: (keyRest ++ rest ++ '=' :: after)) = none := by
      simpa using headerless
    have unclosed := unclosed_of_headerName?_eq_none headerless_line
    constructor
    · intro member
      apply unclosed
      rw [List.append_assoc, List.tail_append_of_ne_nil (by rintro rfl; simp at member)]
      exact List.mem_append_left _ member
    · intro member
      apply unclosed
      have inner : ']' ∈ after := strip_subset after member
      cases bracket : keyRest ++ rest with
      | nil => simpa using inner
      | cons char chars => simp [inner]

theorem IsKey.isFlush_entryLine {key : Text} (is_key : IsKey key) (value : Text) :
    IsFlush (entryLine key value) := by
  rw [entryLine, List.append_assoc]
  exact is_key.trimmed.1.append is_key.nonempty _

/-- Trimming the line of an entry trims its value, and nothing else. -/
theorem IsKey.strip_entryLine {key : Text} (is_key : IsKey key) (value : Text) :
    ∃ after, strip (entryLine key value) = key ++ ' ' :: '=' :: after ∧
      strip after = strip value := by
  have line_eq : entryLine key value = (key ++ [' ', '=']) ++ ' ' :: value := by
    simp [entryLine, Text.of]
  have solid : IsFlush (key ++ [' ', '=']).reverse := by simp [isBlank]
  refine ⟨stripRight (' ' :: value), ?_, ?_⟩
  · rw [strip, stripLeft_of_isFlush (is_key.isFlush_entryLine value), line_eq,
      stripRight_append_of_solid solid, List.append_assoc]
    rfl
  · rw [strip_stripRight, strip, show stripLeft (' ' :: value) = stripLeft value from rfl, strip]

/-- What the line of an entry is read as: neither blank nor a comment nor a header, but the entry
with its value trimmed. -/
theorem IsEntry.reads {key value : Text} (entry : IsEntry key (strip value)) :
    let content := strip (entryLine key value)
    content.isEmpty = false ∧ isComment content = false ∧ headerName? content = none ∧
      entryOf? content = some (key, strip value) ∧ keyPart content = key := by
  obtain ⟨after, content_eq, value_eq⟩ := entry.toIsKey.strip_entryLine value
  have undivided : '=' ∉ key ++ [' '] := by simp [entry.undivided]
  have stripped : stripRight (key ++ [' ']) = key := by
    rw [stripRight_append_blank (by simp [isBlank]), stripRight_of_isFlush_reverse entry.trimmed.2]
  have split_eq : key ++ ' ' :: '=' :: after = (key ++ [' ']) ++ '=' :: after := by simp
  have passed : ∀ char ∈ key ++ [' '], (char != '=') = true := by
    intro char member
    have differs : char ≠ '=' := fun same => undivided (same ▸ member)
    simpa using differs
  obtain ⟨first, others, key_eq⟩ := List.exists_cons_of_ne_nil entry.nonempty
  simp only [content_eq]
  refine ⟨by simp, ?_, ?_, ?_, ?_⟩
  · simpa [isComment, key_eq] using entry.uncommented
  · apply headerName?_eq_none
    intro rest rest_eq
    rw [key_eq, List.cons_append, List.cons.injEq] at rest_eq
    obtain ⟨rfl, rfl⟩ := rest_eq
    have unbracketed := entry.unbracketed others key_eq
    have after_free : ']' ∉ after := by
      intro member
      have inner := mem_strip_of_solid member (by decide)
      rw [value_eq] at inner
      exact unbracketed.2 inner
    cases others with
    | nil => simp [after_free]
    | cons char chars => simpa [after_free] using unbracketed.1
  · rw [split_eq, entryOf?_append undivided, stripped, value_eq]
  · rw [split_eq, keyPart, List.takeWhile_append_of_pos passed]
    simpa using stripped

/-- A printed entry is read as itself. -/
theorem IsEntry.reads_back {key value : Text} (entry : IsEntry key value) :
    let content := strip (entryLine key value)
    content.isEmpty = false ∧ isComment content = false ∧ headerName? content = none ∧
      entryOf? content = some (key, value) ∧ keyPart content = key := by
  have same := strip_of_isTrimmed entry.value_trimmed
  have reads : IsEntry key (strip value) → _ := IsEntry.reads
  rw [same] at reads
  exact reads entry

theorem IsEntry.isFlush_entryLine {key value : Text} (entry : IsEntry key value) :
    IsFlush (entryLine key value) :=
  entry.toIsKey.isFlush_entryLine value

end KeyFile
end PackageRepos
