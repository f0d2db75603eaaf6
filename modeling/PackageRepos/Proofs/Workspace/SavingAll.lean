import PackageRepos.Proofs.Workspace.Saving

/-!
# Saving all files

The files of a catalog are saved one after the other, each by way of a temporary file beside it. So
a file that was saved keeps its text unless a later one has its temporary file in the same place;
then it is gone.
-/

namespace PackageRepos
namespace Workspace

/-- The file is saved by way of a temporary file in the place that the path leads to. -/
def Overruns (tree : Files.Tree) (file : LoadedFile) (path : Text) : Prop :=
  ∃ temporary ∈ file.path.withName? (temporaryName file.path),
    tree.SamePlace temporary.toText path

instance (tree : Files.Tree) (file : LoadedFile) (path : Text) :
    Decidable (Overruns tree file path) :=
  inferInstanceAs (Decidable (∃ temporary ∈ file.path.withName? (temporaryName file.path),
    tree.SamePlace temporary.toText path))

/-- The files lead to places of their own. -/
def Apart (tree : Files.Tree) (files : List LoadedFile) : Prop :=
  files.Pairwise fun file other => ¬tree.SamePlace file.path.toText other.path.toText

instance (tree : Files.Tree) (files : List LoadedFile) : Decidable (Apart tree files) :=
  inferInstanceAs (Decidable (files.Pairwise _))

/-! ## One file -/

/-- What a save leaves in the tree. -/
theorem replaced_of_saveAs {workspace after : Workspace} {file : LoadedFile} {path : Files.Path}
    {mishap : Option Files.Mishap}
    (saved : workspace.saveAs file file.path mishap = (.ok path, after)) :
    ∃ temporary ∈ file.path.withName? (temporaryName file.path),
      Replaced temporary.toText file.path.toText file.keyFile.print workspace.tree after.tree := by
  obtain ⟨temporary, tree, named, replaced, -, rfl⟩ := saveAs_eq_ok.mp saved
  exact ⟨temporary, named, replaced_of_replaceText replaced⟩

/-- A save leaves every other file, unless that is in the place of the temporary one. -/
theorem readExact_of_saveAs {workspace after : Workspace} {file : LoadedFile} {path : Files.Path}
    {mishap : Option Files.Mishap}
    (saved : workspace.saveAs file file.path mishap = (.ok path, after)) {other : Text}
    (apart : ¬workspace.tree.SamePlace file.path.toText other) (text : Text) :
    after.tree.readExact other = .ok text ↔
      workspace.tree.readExact other = .ok text ∧ ¬Overruns workspace.tree file other := by
  obtain ⟨temporary, named, replaced⟩ := replaced_of_saveAs saved
  have overruns : Overruns workspace.tree file other ↔
      workspace.tree.SamePlace temporary.toText other := by
    simp [Overruns, Option.mem_def.mp named]
  rw [replaced.others other text apart, overruns]

theorem samePlace_of_saveAs {workspace after : Workspace} {file : LoadedFile} {path : Files.Path}
    {mishap : Option Files.Mishap}
    (saved : workspace.saveAs file file.path mishap = (.ok path, after)) {left right : Text} :
    after.tree.SamePlace left right ↔ workspace.tree.SamePlace left right := by
  obtain ⟨temporary, -, replaced⟩ := replaced_of_saveAs saved
  exact Files.Tree.samePlace_iff_of_keepsOpen replaced.kept replaced.closed

/-- Saving moves no file, so that which files run over which ones does not change. -/
theorem overruns_of_saveAs {workspace after : Workspace} {file : LoadedFile} {path : Files.Path}
    {mishap : Option Files.Mishap}
    (saved : workspace.saveAs file file.path mishap = (.ok path, after)) {other : LoadedFile}
    {target : Text} : Overruns after.tree other target ↔ Overruns workspace.tree other target := by
  simp only [Overruns, samePlace_of_saveAs saved]

theorem apart_of_saveAs {workspace after : Workspace} {file : LoadedFile} {path : Files.Path}
    {mishap : Option Files.Mishap}
    (saved : workspace.saveAs file file.path mishap = (.ok path, after)) {files : List LoadedFile} :
    Apart after.tree files ↔ Apart workspace.tree files := by
  simp only [Apart, samePlace_of_saveAs saved]

/-! ## All files -/

theorem saveFiles_cons_eq_ok {workspace after : Workspace} {file : LoadedFile}
    {mishaps : List (Option Files.Mishap)} {rest : List LoadedFile} {paths : List Files.Path} :
    workspace.saveFiles mishaps (file :: rest) = (.ok paths, after) ↔
      ∃ path between further,
        workspace.saveAs file file.path (mishaps.headD none) = (.ok path, between) ∧
          between.saveFiles mishaps.tail rest = (.ok further, after) ∧
          path :: further = paths := by
  rw [saveFiles]
  generalize workspace.saveAs file file.path (mishaps.headD none) = first
  obtain ⟨outcome, between⟩ := first
  cases outcome with
  | error failure => simp
  | ok path =>
    cases second : between.saveFiles mishaps.tail rest with
    | mk outcome final => cases outcome <;> simp [second, Except.map, and_comm]

/-- A file that is not among those that are saved keeps its text exactly when none of them runs over
it. -/
theorem readExact_of_saveFiles {workspace after : Workspace} {files : List LoadedFile}
    {mishaps : List (Option Files.Mishap)} {paths : List Files.Path}
    (saved : workspace.saveFiles mishaps files = (.ok paths, after)) {other : Text}
    (apart : ∀ file ∈ files, ¬workspace.tree.SamePlace file.path.toText other) (text : Text) :
    after.tree.readExact other = .ok text ↔
      workspace.tree.readExact other = .ok text ∧
        ∀ file ∈ files, ¬Overruns workspace.tree file other := by
  induction files generalizing workspace mishaps paths with
  | nil =>
    cases saved
    simp
  | cons file rest ih =>
    obtain ⟨path, between, further, first, later, -⟩ := saveFiles_cons_eq_ok.mp saved
    obtain ⟨apart_file, apart_rest⟩ := List.forall_mem_cons.mp apart
    have rest_apart : ∀ other_file ∈ rest,
        ¬between.tree.SamePlace other_file.path.toText other := by
      simpa only [samePlace_of_saveAs first] using apart_rest
    rw [ih later rest_apart, readExact_of_saveAs first apart_file, List.forall_mem_cons, and_assoc]
    simp only [overruns_of_saveAs first]

/-- After all files were saved, every one of them holds its text exactly when none is run over by a
later one. -/
theorem stored_of_saveFiles {workspace after : Workspace} {files : List LoadedFile}
    {mishaps : List (Option Files.Mishap)} {paths : List Files.Path}
    (saved : workspace.saveFiles mishaps files = (.ok paths, after))
    (apart : Apart workspace.tree files) :
    (∀ file ∈ files, after.tree.readExact file.path.toText = .ok file.keyFile.print) ↔
      files.Pairwise fun file later => ¬Overruns workspace.tree later file.path.toText := by
  induction files generalizing workspace mishaps paths with
  | nil => simp
  | cons file rest ih =>
    obtain ⟨path, between, further, first, later, -⟩ := saveFiles_cons_eq_ok.mp saved
    obtain ⟨apart_file, apart_rest⟩ := List.pairwise_cons.mp apart
    obtain ⟨temporary, -, replaced⟩ := replaced_of_saveAs first
    -- Its own save has stored the file; whether the text stays is up to the later saves.
    have here : after.tree.readExact file.path.toText = .ok file.keyFile.print ↔
        ∀ other ∈ rest, ¬Overruns workspace.tree other file.path.toText := by
      rw [readExact_of_saveFiles later, and_iff_right replaced.content]
      · simp only [overruns_of_saveAs first]
      · intro other member same
        obtain ⟨place, other_located, located⟩ := (samePlace_of_saveAs first).mp same
        exact apart_file other member ⟨place, located, other_located⟩
    have there := ih later ((apart_of_saveAs first).mpr apart_rest)
    simp only [overruns_of_saveAs first] at there
    rw [List.forall_mem_cons, List.pairwise_cons, here, there]

/-- The files that a catalog lists. -/
def listedFiles (workspace : Workspace) (number : Nat) : List LoadedFile :=
  (workspace.catalog number).files.filterMap workspace.fileAt?

/-- When all files of a catalog were saved and no two lead to the same place, every one of them
holds its text exactly when none has the temporary file of a later one in its place. -/
theorem stored_of_save {workspace after : Workspace} {number : Nat}
    {mishaps : List (Option Files.Mishap)} {paths : List Files.Path}
    (saved : workspace.save number mishaps = (.ok paths, after))
    (apart : Apart workspace.tree (workspace.listedFiles number)) :
    (∀ file ∈ workspace.listedFiles number,
        after.tree.readExact file.path.toText = .ok file.keyFile.print) ↔
      (workspace.listedFiles number).Pairwise fun file later =>
        ¬Overruns workspace.tree later file.path.toText :=
  stored_of_saveFiles saved apart

/-! ## Two files one after the other -/

theorem eq_ok_of_toOption {ε α : Type} {result : Except ε α} {value : α}
    (found : result.toOption = some value) : result = .ok value := by
  cases result with
  | error fault => cases found
  | ok other => exact congrArg Except.ok (Option.some.inj found)

/-- A workspace with two files in its tree, which were loaded one after the other. -/
def withTwoFiles (first second : Text) : Workspace :=
  let tree : Files.Tree :=
    { nodes := .ofList
        [([first], .file (Utf8.encode (Text.of "[s]\nk = 1\n"))),
          ([second], .file (Utf8.encode (Text.of "[r]\nk = 2\n")))] }
  run { tree } [.parse 0 first, .parse 0 second]

/-- Two files are saved, neither of which is in the place of a temporary file. -/
theorem two_files_stored : ∃ paths after,
    (withTwoFiles (Text.of "a.repo") (Text.of "b.repo")).save 0 = (.ok paths, after) ∧
      ∀ file ∈ (withTwoFiles (Text.of "a.repo") (Text.of "b.repo")).listedFiles 0,
        after.tree.readExact file.path.toText = .ok file.keyFile.print := by
  have saved : ((withTwoFiles (Text.of "a.repo") (Text.of "b.repo")).save 0).1 =
      .ok [Files.Path.ofText (Text.of "a.repo"), Files.Path.ofText (Text.of "b.repo")] :=
    eq_ok_of_toOption (by decide +kernel)
  have apart : Apart (withTwoFiles (Text.of "a.repo") (Text.of "b.repo")).tree
      ((withTwoFiles (Text.of "a.repo") (Text.of "b.repo")).listedFiles 0) := by
    decide +kernel
  have spared : ((withTwoFiles (Text.of "a.repo") (Text.of "b.repo")).listedFiles 0).Pairwise
      fun file later => ¬Overruns (withTwoFiles (Text.of "a.repo") (Text.of "b.repo")).tree later
        file.path.toText := by
    decide +kernel
  exact ⟨_, _, Prod.ext saved rfl, (stored_of_save (Prod.ext saved rfl) apart).mpr spared⟩

/-- Of two files that were loaded, the first one is in the place of the temporary file of the other
one. After both were saved it is gone. -/
theorem first_file_is_lost : ∃ after,
    ((withTwoFiles (Text.of "a.repo.tmp") (Text.of "a.repo")).listedFiles 0).map (·.path) =
        [Files.Path.ofText (Text.of "a.repo.tmp"), Files.Path.ofText (Text.of "a.repo")] ∧
      Apart (withTwoFiles (Text.of "a.repo.tmp") (Text.of "a.repo")).tree
        ((withTwoFiles (Text.of "a.repo.tmp") (Text.of "a.repo")).listedFiles 0) ∧
      (withTwoFiles (Text.of "a.repo.tmp") (Text.of "a.repo")).save 0 =
        (.ok [Files.Path.ofText (Text.of "a.repo.tmp"), Files.Path.ofText (Text.of "a.repo")],
          after) ∧
      ∀ text,
        after.tree.readExact (Files.Path.ofText (Text.of "a.repo.tmp")).toText ≠ .ok text := by
  have saved : ((withTwoFiles (Text.of "a.repo.tmp") (Text.of "a.repo")).save 0).1 =
      .ok [Files.Path.ofText (Text.of "a.repo.tmp"), Files.Path.ofText (Text.of "a.repo")] :=
    eq_ok_of_toOption (by decide +kernel)
  refine ⟨_, by decide +kernel, by decide +kernel, Prod.ext saved rfl, fun text read => ?_⟩
  obtain ⟨place, content, located, found, -⟩ := Files.Tree.readExact_eq_ok.mp read
  have missing : ((withTwoFiles (Text.of "a.repo.tmp") (Text.of "a.repo")).save 0).2.tree.find?
      (Files.Path.ofText (Text.of "a.repo.tmp")).toText = none := by
    decide +kernel
  rw [Files.Tree.find?, located] at missing
  cases missing.symm.trans found

end Workspace
end PackageRepos
