import PackageRepos.Proofs.Files.Replacing
import PackageRepos.Proofs.Text.Lines

/-!
# Siblings

A path with a longer last name leads to another place, so that a file and the temporary file beside
it are never one.
-/

namespace PackageRepos
namespace Text

/-- What follows joined pieces follows the last one of them. -/
theorem join_concat_append (separator last ending : Text) (front : List Text) :
    join separator (front ++ [last]) ++ ending = join separator (front ++ [last ++ ending]) := by
  induction front with
  | nil => simp [join]
  | cons piece rest ih =>
    simp only [join] at ih
    simp [join, List.intercalate_cons_of_ne_nil, ← ih]

/-- Characters that do not separate pieces lengthen the last one. -/
theorem splitOn_append {separator : Char} {text ending last : Text} {front : List Text}
    (undivided : separator ∉ ending) (split : text.splitOn separator = front ++ [last]) :
    (text ++ ending).splitOn separator = front ++ [last ++ ending] := by
  have apart : ∀ piece ∈ front ++ [last], separator ∉ piece := by
    intro piece member divided
    rw [← split] at member
    simpa using (of_mem_splitOnP member).1 separator divided
  obtain ⟨front_apart, last_apart⟩ := List.forall_mem_append.mp apart
  have joined : join [separator] (front ++ [last]) = text := by
    rw [← split]
    exact List.intercalate_splitOn separator
  rw [← joined, join_concat_append]
  refine List.splitOn_intercalate separator ?_ (by simp)
  intro piece member
  rcases List.mem_append.mp member with former | final
  · exact front_apart piece former
  · obtain rfl := List.mem_singleton.mp final
    simpa [undivided] using last_apart

end Text

namespace Files

/-- A sibling is written like the path, with a longer name. -/
theorem Path.toText_of_withName? {path sibling : Path} {ending : Text}
    (named : path.withName? (path.name?.getD [] ++ ending) = some sibling) :
    sibling.toText = path.toText ++ ending := by
  unfold withName? at named
  split at named
  · cases named
  · rename_i filled
    cases named
    obtain ⟨front, last, names⟩ :=
      (List.eq_nil_or_concat path.names).resolve_left (by simpa using filled)
    simp [toText, name?, names, Text.join_concat_append]

/-- A path leads from where its first character says. -/
theorem Tree.origin_append (tree : Tree) {path : Text} (ending : Text)
    (filled : path.isEmpty = false) : tree.origin (path ++ ending) = tree.origin path := by
  cases path with
  | nil => cases filled
  | cons first rest => rfl

/-- Lengthening a path that does not lead to a directory leads elsewhere. -/
theorem Tree.ne_of_fileLocation_append {tree : Tree} {path ending : Text}
    {location sibling : Location} (undivided : '/' ∉ ending) (nonempty : ending ≠ [])
    (reached : tree.fileLocation path = .ok location)
    (beside : tree.fileLocation (path ++ ending) = .ok sibling) : sibling ≠ location := by
  obtain ⟨located, closed⟩ := fileLocation_eq_ok.mp reached
  obtain ⟨sibling_located, sibling_closed⟩ := fileLocation_eq_ok.mp beside
  obtain ⟨front, last, split⟩ :=
    (List.eq_nil_or_concat (path.splitOn '/')).resolve_left (List.splitOn_ne_nil '/' path)
  rw [List.concat_eq_append] at split
  obtain ⟨-, -, filled, walked⟩ := locate_eq_ok.mp located
  have sibling_walked := (locate_eq_ok.mp sibling_located).2.2.2
  rw [split, walk_append_eq_ok] at walked
  rw [origin_append tree ending filled, Text.splitOn_append undivided split,
    walk_append_eq_ok] at sibling_walked
  obtain ⟨middle, front_walked, last_walked⟩ := walked
  obtain ⟨_, front_walked_again, sibling_last⟩ := sibling_walked
  obtain rfl := Except.ok.inj (front_walked.symm.trans front_walked_again)
  have sheltered := isSheltered_walk (tree.isSheltered_origin path) front_walked
  obtain ⟨directory, -, stepped⟩ := walk_cons_eq_ok.mp last_walked
  obtain ⟨-, -, sibling_stepped⟩ := walk_cons_eq_ok.mp sibling_last
  cases stepped
  cases sibling_stepped
  have opened := sheltered.isOpen directory
  rw [opened.step_eq_of_closed closed, opened.step_eq_of_closed sibling_closed]
  simpa using nonempty

end Files
end PackageRepos
