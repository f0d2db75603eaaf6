import PackageRepos.Text.Blank

/-!
# Texts without blanks at their ends

Trimming is described by two predicates: a flush text does not start with a blank, and a trimmed
text neither starts nor ends with one. Trimming yields a trimmed text, leaves a trimmed text as it
is, and does not see blanks that follow a text.
-/

namespace PackageRepos
namespace Text

/-- The text does not start with a blank. -/
def IsFlush (text : Text) : Prop := ∀ char ∈ text.head?, isBlank char = false

/-- The text neither starts nor ends with a blank. -/
def IsTrimmed (text : Text) : Prop := IsFlush text ∧ IsFlush text.reverse

instance (text : Text) : Decidable (IsFlush text) :=
  inferInstanceAs (Decidable (∀ char ∈ text.head?, isBlank char = false))

instance (text : Text) : Decidable (IsTrimmed text) :=
  inferInstanceAs (Decidable (IsFlush text ∧ IsFlush text.reverse))

@[simp]
theorem isFlush_nil : IsFlush [] := by simp [IsFlush]

@[simp]
theorem isFlush_cons {char : Char} {rest : Text} :
    IsFlush (char :: rest) ↔ isBlank char = false := by
  simp [IsFlush]

@[simp]
theorem isTrimmed_nil : IsTrimmed [] := by simp [IsTrimmed]

theorem IsFlush.append {front : Text} (flush : IsFlush front) (nonempty : front ≠ [])
    (back : Text) : IsFlush (front ++ back) := by
  cases front with
  | nil => exact absurd rfl nonempty
  | cons char rest => simpa using flush

theorem isFlush_stripLeft (text : Text) : IsFlush (stripLeft text) := by
  intro char found
  have first := List.head?_dropWhile_not isBlank text
  rw [show (text.dropWhile isBlank).head? = some char from found] at first
  simpa using first

theorem stripLeft_of_isFlush {text : Text} (flush : IsFlush text) : stripLeft text = text := by
  cases text with
  | nil => rfl
  | cons char rest => simp [stripLeft, isFlush_cons.mp flush]

theorem reverse_stripRight (text : Text) : (stripRight text).reverse = stripLeft text.reverse := by
  simp [stripRight, stripLeft]

theorem stripRight_of_isFlush_reverse {text : Text} (solid : IsFlush text.reverse) :
    stripRight text = text := by
  rw [← List.reverse_inj, reverse_stripRight, stripLeft_of_isFlush solid]

theorem stripRight_isPrefix (text : Text) : stripRight text <+: text := by
  rw [← List.reverse_suffix, reverse_stripRight]
  exact List.dropWhile_suffix _

theorem IsFlush.of_isPrefix {front text : Text} (flush : IsFlush text) (start : front <+: text) :
    IsFlush front := by
  obtain ⟨back, rfl⟩ := start
  cases front with
  | nil => exact isFlush_nil
  | cons char rest => simpa using flush

theorem isTrimmed_strip (text : Text) : IsTrimmed (strip text) := by
  constructor
  · exact (isFlush_stripLeft text).of_isPrefix (stripRight_isPrefix _)
  · rw [strip, reverse_stripRight]
    exact isFlush_stripLeft _

theorem strip_of_isTrimmed {text : Text} (trimmed : IsTrimmed text) : strip text = text := by
  rw [strip, stripLeft_of_isFlush trimmed.1, stripRight_of_isFlush_reverse trimmed.2]

theorem strip_eq_self_iff {text : Text} : strip text = text ↔ IsTrimmed text := by
  constructor
  · intro same
    rw [← same]
    exact isTrimmed_strip text
  · exact strip_of_isTrimmed

theorem strip_subset (text : Text) : strip text ⊆ text :=
  fun _ member => List.dropWhile_subset _ ((stripRight_isPrefix _).subset member)

theorem mem_stripLeft_of_solid {char : Char} {text : Text} (member : char ∈ text)
    (solid : isBlank char = false) : char ∈ stripLeft text := by
  have parts : text.takeWhile isBlank ++ stripLeft text = text := List.takeWhile_append_dropWhile
  rw [← parts] at member
  rcases List.mem_append.mp member with start | inner
  · simp [List.all_eq_true.mp List.all_takeWhile char start] at solid
  · exact inner

theorem mem_strip_of_solid {char : Char} {text : Text} (member : char ∈ text)
    (solid : isBlank char = false) : char ∈ strip text := by
  have inner := mem_stripLeft_of_solid member solid
  rw [strip, ← List.mem_reverse, reverse_stripRight]
  exact mem_stripLeft_of_solid (List.mem_reverse.mpr inner) solid

theorem isFlush_reverse_stripRight (text : Text) : IsFlush (stripRight text).reverse := by
  rw [reverse_stripRight]
  exact isFlush_stripLeft _

theorem isTrimmed_stripRight {text : Text} (flush : IsFlush text) :
    IsTrimmed (stripRight text) :=
  ⟨flush.of_isPrefix (stripRight_isPrefix text), isFlush_reverse_stripRight text⟩

theorem isTrimmed_of_solid {text : Text} (solid : ∀ char ∈ text, isBlank char = false) :
    IsTrimmed text := by
  constructor
  · exact fun char found => solid char (List.mem_of_mem_head? found)
  · exact fun char found => solid char (List.mem_reverse.mp (List.mem_of_mem_head? found))

/-- Blanks after a text do not matter to trimming. -/
theorem stripRight_append_blank {blanks : Text} (blank : ∀ char ∈ blanks, isBlank char = true)
    (text : Text) : stripRight (text ++ blanks) = stripRight text := by
  rw [← List.reverse_inj, reverse_stripRight, reverse_stripRight, List.reverse_append]
  exact List.dropWhile_append_of_pos (by simpa using blank)

theorem strip_append_blank {blanks : Text} (blank : ∀ char ∈ blanks, isBlank char = true)
    (text : Text) : strip (text ++ blanks) = strip text := by
  simp only [strip, stripLeft, List.dropWhile_append]
  split
  · rename_i empty
    rw [List.isEmpty_iff.mp empty]
    simpa using stripRight_append_blank (fun char member => blank char
      (List.dropWhile_subset _ member)) []
  · exact stripRight_append_blank blank _

/-- Trimming at the end stops at a text that does not end with a blank. -/
theorem stripRight_append_of_solid {front : Text} (solid : IsFlush front.reverse) (back : Text) :
    stripRight (front ++ back) = front ++ stripRight back := by
  rw [← List.reverse_inj, reverse_stripRight, List.reverse_append, List.reverse_append,
    reverse_stripRight]
  simp only [stripLeft, List.dropWhile_append]
  split
  · rename_i blank
    rw [List.isEmpty_iff.mp blank, List.nil_append]
    exact stripLeft_of_isFlush solid
  · rfl

@[simp]
theorem strip_stripRight (text : Text) : strip (stripRight text) = strip text := by
  have parts : stripRight text ++ (text.reverse.takeWhile isBlank).reverse = text := by
    rw [stripRight, ← List.reverse_append, List.takeWhile_append_dropWhile, List.reverse_reverse]
  have blank : ∀ char ∈ (text.reverse.takeWhile isBlank).reverse, isBlank char = true := by
    intro char member
    exact List.all_eq_true.mp List.all_takeWhile char (List.mem_reverse.mp member)
  have unseen := strip_append_blank blank (stripRight text)
  rw [parts] at unseen
  exact unseen.symm

@[simp]
theorem indentation_of_isFlush {text : Text} (flush : IsFlush text) : indentation text = 0 := by
  cases text with
  | nil => rfl
  | cons char rest => simp [indentation, isFlush_cons.mp flush]

end Text
end PackageRepos
