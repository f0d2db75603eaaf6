import Mathlib.Data.List.Infix
import PackageRepos.Logging.Configuration

/-!
# Names of loggers

A logger is below another one when its name starts with the name of that one and a dot. The names
above a logger are found from the end, where two dots in a row part a name once and a dot at the
very start not at all; in all other names every part before a dot is found.
-/

namespace PackageRepos
namespace Logging
namespace Loggers

/-- The name neither starts with a dot nor has two of them in a row. -/
structure IsOrderly (name : Text) : Prop where
  dotless_start : name.head? ≠ some '.'
  single_dots : ¬ ['.', '.'] <:+: name

instance (name : Text) : Decidable (IsOrderly name) :=
  decidable_of_iff (name.head? ≠ some '.' ∧ ¬ ['.', '.'] <:+: name)
    ⟨fun ⟨dotless_start, single_dots⟩ => ⟨dotless_start, single_dots⟩,
      fun orderly => ⟨orderly.dotless_start, orderly.single_dots⟩⟩

theorem IsOrderly.of_isPrefix {front name : Text} (orderly : IsOrderly name)
    (front_of : front <+: name) : IsOrderly front where
  dotless_start := by
    obtain ⟨rest, rfl⟩ := front_of
    cases front with
    | nil => simp
    | cons char others => exact orderly.dotless_start
  single_dots dots := orderly.single_dots (dots.trans front_of.isInfix)

/-- The part before the last dot, unless that is the first character. -/
theorem partBefore?_append {front back : Text} (nonempty : front ≠ []) (dotless : '.' ∉ back) :
    partBefore? (front ++ '.' :: back) = some front := by
  have undotted : ∀ char ∈ back.reverse, (char != '.') = true := by
    rintro char member
    rw [bne_iff_ne]
    rintro rfl
    exact dotless (List.mem_reverse.mp member)
  have rest : (front ++ '.' :: back).reverse.dropWhile (· != '.') = '.' :: front.reverse := by
    rw [List.reverse_append, List.reverse_cons, List.append_assoc,
      List.dropWhile_append_of_pos undotted]
    rfl
  obtain ⟨last, others, reversed⟩ :=
    List.exists_cons_of_ne_nil (mt List.reverse_eq_nil_iff.mp nonempty)
  rw [partBefore?, rest, reversed]
  exact congrArg some (by rw [← reversed, List.reverse_reverse])

theorem exists_last_dot {name : Text} (dotted : '.' ∈ name) :
    ∃ front back, name = front ++ '.' :: back ∧ '.' ∉ back := by
  obtain ⟨back, front, reversed, dotless⟩ :=
    List.eq_append_cons_of_mem (List.mem_reverse.mpr dotted)
  refine ⟨front.reverse, back.reverse, ?_, by simpa using dotless⟩
  rw [← name.reverse_reverse, reversed]
  simp

/-- A part before a dot is the part before the last one, or a part of that before a dot. -/
theorem eq_or_exists_of_append_eq {above rest front back : Text} (dotless : '.' ∉ back)
    (same : above ++ '.' :: rest = front ++ '.' :: back) :
    above = front ∨ ∃ inner, front = above ++ '.' :: inner := by
  rcases List.append_eq_append_iff.mp same with ⟨between, front_eq, rest_eq⟩ |
    ⟨between, above_eq, back_eq⟩
  · cases between with
    | nil => exact .inl (by simpa using front_eq.symm)
    | cons char inner =>
      obtain ⟨rfl, -⟩ := List.cons.inj rest_eq
      exact .inr ⟨inner, front_eq⟩
  · cases between with
    | nil => exact .inl (by simpa using above_eq)
    | cons char inner =>
      obtain ⟨-, back_eq⟩ := List.cons.inj back_eq
      exact absurd (by simp [back_eq]) dotless

theorem mem_namesAboveWithin {above name : Text} {fuel : Nat} (orderly : IsOrderly name)
    (below : isBelow name above = true) (enough : name.length ≤ fuel) :
    above ∈ namesAboveWithin fuel name := by
  induction fuel generalizing name with
  | zero =>
    obtain rfl := List.eq_nil_of_length_eq_zero (Nat.le_zero.mp enough)
    simp [isBelow] at below
  | succ fuel ih =>
    obtain ⟨rest, split⟩ := List.isPrefixOf_iff_prefix.mp below
    rw [List.append_assoc, List.singleton_append] at split
    obtain ⟨front, back, rfl, dotless⟩ := exists_last_dot (split ▸ by simp : '.' ∈ name)
    have front_nonempty : front ≠ [] := by
      rintro rfl
      exact orderly.dotless_start rfl
    rw [namesAboveWithin, partBefore?_append front_nonempty dotless]
    rcases eq_or_exists_of_append_eq dotless split with rfl | ⟨inner, rfl⟩
    · exact List.mem_cons_self
    · have inner_nonempty : inner ≠ [] := by
        rintro rfl
        exact orderly.single_dots ⟨above, back, by simp⟩
      have shortened : (above ++ '.' :: inner).dropLast = above ++ '.' :: inner.dropLast := by
        rw [List.dropLast_append_of_ne_nil (by simp), List.dropLast_cons_of_ne_nil inner_nonempty]
      refine List.mem_cons_of_mem _ (ih ?_ ?_ ?_)
      · exact orderly.of_isPrefix ((List.dropLast_prefix _).trans (List.prefix_append ..))
      · rw [shortened]
        exact List.isPrefixOf_iff_prefix.mpr ⟨inner.dropLast, by simp⟩
      · simp at enough ⊢
        omega

/-- Of an orderly name, every part before a dot is above it. -/
theorem mem_namesAbove {above name : Text} (orderly : IsOrderly name)
    (below : isBelow name above = true) : above ∈ namesAbove name :=
  mem_namesAboveWithin orderly below (Nat.le_refl _)

end Loggers
end Logging
end PackageRepos
