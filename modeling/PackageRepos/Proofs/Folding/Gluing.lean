import PackageRepos.Proofs.Folding
import PackageRepos.Proofs.RepoOption.Items

/-!
# Lists on several lines

Folding joins the lines of a value with semicolons, but it glues a line to the one before where that
ends with an equals sign. So the items of the lines are the items of the folded line exactly when no
item is glued to another one.
-/

namespace PackageRepos
namespace Folding

open Text OptionKind

/-- The text ends with an equals sign. -/
def EndsOpen (text : Text) : Prop := text.getLast? = some '='

instance (text : Text) : Decidable (EndsOpen text) :=
  inferInstanceAs (Decidable (text.getLast? = some '='))

/-- Apart from its indentation the line starts with an item. -/
def StartsItem (line : Text) : Prop := ∃ char ∈ (stripLeft line).head?, isSeparator char = false

instance (line : Text) : Decidable (StartsItem line) :=
  Option.decidableExistsMem (stripLeft line).head?

/-- The pieces that are joined with semicolons: a line is a piece of its own, without its
indentation, unless the piece before it ends with an equals sign. -/
def gluedOnto (previous : Text) : List Text → List Text
  | [] => [previous]
  | line :: rest =>
    if EndsOpen previous then gluedOnto (previous ++ stripLeft line) rest
    else previous :: gluedOnto (stripLeft line) rest

/-- Somewhere a line ends with an equals sign, and the next line that is not blank starts with an
item. -/
inductive Glues : Text → List Text → Prop
  | here {previous line : Text} (rest : List Text) (ends : EndsOpen previous)
      (starts : StartsItem line) : Glues previous (line :: rest)
  | across {previous line : Text} {rest : List Text} (ends : EndsOpen previous)
      (blank : stripLeft line = []) (glues : Glues previous rest) : Glues previous (line :: rest)
  | later {line : Text} {rest : List Text} (previous : Text) (glues : Glues line rest) :
      Glues previous (line :: rest)

/-! ## Folded lines -/

theorem gluedOnto_ne_nil (previous : Text) (rest : List Text) : gluedOnto previous rest ≠ [] := by
  induction rest generalizing previous with
  | nil => simp [gluedOnto]
  | cons line others ih =>
    rw [gluedOnto]
    split
    · exact ih _
    · simp

/-- Lines that continue the line of an entry are joined in its value. -/
theorem foldOnto_of_continuations {front : Text} (closed : ¬EndsOpen front) (piece : Text)
    {rows rest : List Text} (continuing : ∀ row ∈ rows, isContinuation row = true)
    (starts : ∀ row ∈ rest, isContinuation row = false) :
    foldOnto (front ++ piece) (rows ++ rest) =
      (front ++ join [';'] (gluedOnto piece rows)) :: rest := by
  induction rows generalizing front piece with
  | nil => simpa [gluedOnto, join] using foldOnto_eq_cons starts
  | cons row others ih =>
    have later := fun line member => continuing line (List.mem_cons_of_mem row member)
    have same_end : (front ++ piece).getLast? = some '=' ↔ EndsOpen piece := by
      rw [List.getLast?_append, EndsOpen]
      cases piece.getLast? with
      | none => simpa [EndsOpen] using closed
      | some char => simp
    rw [List.cons_append, foldOnto_cons_of_continuation _ (continuing row List.mem_cons_self),
      extend, gluedOnto]
    by_cases ends : EndsOpen piece
    · rw [if_pos (same_end.mpr ends), if_pos ends, List.append_assoc]
      exact ih closed _ later
    · rw [if_neg (mt same_end.mp ends), if_neg ends]
      have longer_closed : ¬EndsOpen (front ++ piece ++ [';']) := by simp [EndsOpen]
      have folded := ih longer_closed (stripLeft row) later
      rw [join, List.intercalate_cons_of_ne_nil (gluedOnto_ne_nil _ _), ← join]
      simpa using folded

/-! ## Items -/

/-- Of the line before, only its end matters. -/
theorem Glues.of_endsOpen {previous other : Text} {rest : List Text} (glues : Glues previous rest)
    (ends : EndsOpen previous → EndsOpen other) : Glues other rest := by
  induction glues with
  | here rest previous_ends starts => exact .here rest (ends previous_ends) starts
  | across previous_ends blank glues ih => exact .across (ends previous_ends) blank (ih ends)
  | later previous glues => exact .later other glues

theorem endsOpen_stripLeft (line : Text) : EndsOpen (stripLeft line) ↔ EndsOpen line := by
  have parts : line.takeWhile isBlank ++ stripLeft line = line := List.takeWhile_append_dropWhile
  have last_eq :
      line.getLast? = (stripLeft line).getLast?.or (line.takeWhile isBlank).getLast? := by
    rw [← List.getLast?_append, parts]
  rw [EndsOpen, EndsOpen, last_eq]
  cases (stripLeft line).getLast? with
  | some char => simp
  | none =>
    have blank_end : (line.takeWhile isBlank).getLast? ≠ some '=' := fun last =>
      absurd (List.all_eq_true.mp List.all_takeWhile '=' (List.mem_of_getLast? last)) (by decide)
    simpa using blank_end

theorem endsOpen_append_stripLeft (previous line : Text) :
    EndsOpen (previous ++ stripLeft line) ↔
      EndsOpen line ∨ (stripLeft line = [] ∧ EndsOpen previous) := by
  rw [← endsOpen_stripLeft line]
  by_cases blank : stripLeft line = []
  · simp [blank, EndsOpen]
  · have filled : (stripLeft line).getLast? ≠ none := by simpa using blank
    obtain ⟨char, last⟩ := Option.ne_none_iff_exists'.mp filled
    simp [EndsOpen, blank, last]

/-- What comes of two lines of which the first one ends with an equals sign: one item is lost, or
none. -/
theorem listItems_append_stripLeft {previous : Text} (ends : EndsOpen previous) (line : Text) :
    (StartsItem line → (listItems (previous ++ stripLeft line)).length + 1 =
      (listItems previous).length + (listItems line).length) ∧
    (¬StartsItem line →
      listItems (previous ++ stripLeft line) = listItems previous ++ listItems line) := by
  constructor
  · rintro ⟨char, first, joins⟩
    have solid := isFlush_stripLeft line char first
    have shorter := length_listItems_append ends first (by decide) (by decide) solid joins
    rwa [listItems_stripLeft] at shorter
  · intro separated
    rw [← listItems_stripLeft line]
    cases content : stripLeft line with
    | nil => simp
    | cons char rest =>
      have separates : isSeparator char = true := by
        rw [← Bool.not_eq_false]
        exact fun joins => separated ⟨char, by rw [content]; rfl, joins⟩
      have alone := listItems_append_cons separates [] rest
      rw [List.nil_append, listItems_nil, List.nil_append] at alone
      rw [listItems_append_cons separates, alone]

/-- Whether anything is glued is decided line by line, along with the folding. -/
theorem glues_cons_iff {previous line : Text} {rest : List Text} :
    Glues previous (line :: rest) ↔
      (EndsOpen previous ∧ StartsItem line) ∨
        Glues (if EndsOpen previous then previous ++ stripLeft line else stripLeft line) rest := by
  constructor
  · intro glues
    cases glues with
    | here _ ends starts => exact .inl ⟨ends, starts⟩
    | across ends blank glues =>
      right
      rwa [if_pos ends, blank, List.append_nil]
    | later _ glues =>
      right
      refine glues.of_endsOpen fun line_ends => ?_
      split
      · exact (endsOpen_append_stripLeft previous line).mpr (.inl line_ends)
      · exact (endsOpen_stripLeft line).mpr line_ends
  · rintro (⟨ends, starts⟩ | glues)
    · exact .here rest ends starts
    · split at glues
      · rename_i ends
        by_cases blank : stripLeft line = []
        · rw [blank, List.append_nil] at glues
          exact .across ends blank glues
        · refine .later previous (glues.of_endsOpen fun joined_ends => ?_)
          exact ((endsOpen_append_stripLeft previous line).mp joined_ends).resolve_right
            fun empty => blank empty.1
      · exact .later previous (glues.of_endsOpen (endsOpen_stripLeft line).mp)

/-- Gluing is found by going through the lines. -/
instance decidableGlues : ∀ (previous : Text) (rest : List Text), Decidable (Glues previous rest)
  | _, [] => isFalse nofun
  | previous, line :: rest =>
    have := decidableGlues
      (if EndsOpen previous then previous ++ stripLeft line else stripLeft line) rest
    decidable_of_iff' _ glues_cons_iff

/-- The glued pieces have fewer items than the lines if anything is glued, and the same ones
otherwise. -/
theorem items_gluedOnto (previous : Text) (rest : List Text) :
    (Glues previous rest → ((gluedOnto previous rest).flatMap listItems).length <
      ((previous :: rest).flatMap listItems).length) ∧
    (¬Glues previous rest →
      (gluedOnto previous rest).flatMap listItems = (previous :: rest).flatMap listItems) := by
  induction rest generalizing previous with
  | nil => exact ⟨nofun, fun _ => rfl⟩
  | cons line others ih =>
    rw [glues_cons_iff, gluedOnto]
    by_cases ends : EndsOpen previous
    · obtain ⟨fewer, same⟩ := ih (previous ++ stripLeft line)
      obtain ⟨lost, kept⟩ := listItems_append_stripLeft ends line
      rw [if_pos ends, if_pos ends]
      simp only [List.flatMap_cons, List.length_append] at fewer same ⊢
      by_cases starts : StartsItem line
      · refine ⟨fun _ => ?_, fun none => absurd (.inl ⟨ends, starts⟩) none⟩
        have one_less := lost starts
        by_cases glues : Glues (previous ++ stripLeft line) others
        · have less := fewer glues
          omega
        · rw [same glues, List.length_append]
          omega
      · rw [kept starts, List.length_append] at fewer
        rw [kept starts, List.append_assoc] at same
        simp only [starts, and_false, false_or]
        refine ⟨fun glues => ?_, same⟩
        have less := fewer glues
        omega
    · obtain ⟨fewer, same⟩ := ih (stripLeft line)
      rw [if_neg ends, if_neg ends]
      simp only [List.flatMap_cons, List.length_append, listItems_stripLeft] at fewer same ⊢
      simp only [ends, false_and, false_or]
      refine ⟨fun glues => ?_, fun none => by rw [same none]⟩
      have less := fewer glues
      omega

/-- The items of the lines are those of the glued pieces exactly when nothing is glued. -/
theorem items_gluedOnto_eq_iff {previous : Text} {rest : List Text} :
    (gluedOnto previous rest).flatMap listItems = (previous :: rest).flatMap listItems ↔
      ¬Glues previous rest := by
  obtain ⟨fewer, same⟩ := items_gluedOnto previous rest
  refine ⟨fun items_eq glues => ?_, same⟩
  have less := fewer glues
  rw [items_eq] at less
  exact Nat.lt_irrefl _ less

end Folding
end PackageRepos
