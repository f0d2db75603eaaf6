import PackageRepos.Proofs.Files.Replacing
import PackageRepos.Proofs.KeyFile.Restoring
import PackageRepos.Proofs.Workspace.Steps

/-!
# Saving what was loaded

What a save leaves, and the files that survive it: a file that was loaded is loaded again as it was
exactly when each of its values stands on one line.
-/

namespace PackageRepos
namespace Workspace

/-! ## Saving -/

/-- The name of the temporary file beside a path. -/
def temporaryName (path : Files.Path) : Text := path.name?.getD [] ++ temporaryEnding

/-- A save succeeds exactly when the file is replaced by way of its temporary sibling. -/
theorem saveAs_eq_ok {workspace after : Workspace} {file : LoadedFile} {target path : Files.Path}
    {mishap : Option Files.Mishap} :
    workspace.saveAs file target mishap = (.ok path, after) ↔
      ∃ temporary tree, target.withName? (temporaryName target) = some temporary ∧
        replaceText workspace.tree temporary.toText target.toText file.keyFile.print mishap =
          (.ok (), tree) ∧
        target = path ∧ { workspace with tree }.report [.savedFile target.toText] = after := by
  unfold saveAs
  rw [← temporaryName]
  cases target.withName? (temporaryName target) with
  | none => simp
  | some temporary =>
    simp only [Option.some.injEq, exists_and_left, exists_eq_left']
    generalize replaceText workspace.tree temporary.toText target.toText file.keyFile.print
      mishap = done
    obtain ⟨replaced, tree⟩ := done
    cases replaced <;> simp

/-- The temporary file beside a path can be written. -/
def CanWriteBeside (tree : Files.Tree) (path : Files.Path) : Prop :=
  ∃ temporary location, path.withName? (temporaryName path) = some temporary ∧
    tree.fileLocation temporary.toText = .ok location

/-- A file that can be read is saved exactly when the temporary file beside it can be written. -/
theorem exists_saveFile_iff {workspace : Workspace} (file : LoadedFile) {text : Text}
    (stands : workspace.tree.readExact file.path.toText = .ok text) :
    (∃ after, workspace.saveFile file none = (.ok file.path, after)) ↔
      CanWriteBeside workspace.tree file.path := by
  obtain ⟨destination, reached⟩ := Files.Tree.destination_of_readExact stands
  constructor
  · rintro ⟨after, saved⟩
    obtain ⟨temporary, tree, named, replaced, -⟩ := saveAs_eq_ok.mp saved
    obtain ⟨-, origin, _, writable, -⟩ := replaceText_eq_ok.mp replaced
    exact ⟨temporary, origin, named, writable⟩
  · rintro ⟨temporary, origin, named, writable⟩
    have replaced : replaceText workspace.tree temporary.toText file.path.toText
        file.keyFile.print = (.ok (), _) :=
      replaceText_eq_ok.mpr ⟨rfl, origin, destination, writable, reached, rfl⟩
    exact ⟨_, saveAs_eq_ok.mpr ⟨temporary, _, named, replaced, rfl, rfl⟩⟩

/-- A file that was saved holds the printed key file, and can be saved again. -/
theorem stored_of_saveFile {workspace after : Workspace} {file : LoadedFile} {target : Option Text}
    {path : Files.Path} (saved : workspace.saveFile file target = (.ok path, after)) :
    after.tree.readExact path.toText = .ok file.keyFile.print ∧ CanWriteBeside after.tree path := by
  obtain ⟨temporary, tree, named, replaced, rfl, rfl⟩ := saveAs_eq_ok.mp saved
  have done := replaced_of_replaceText replaced
  obtain ⟨location, writable⟩ := done.writable
  exact ⟨done.content, temporary, location, named, writable⟩

/-! ## Saving and loading -/

/-- The second key file has the same groups, keys and values as the first, in the same order. -/
structure ShowsSame (keyFile again : KeyFile) : Prop where
  groups : again.groupNames = keyFile.groupNames
  keys : ∀ group, again.keysOf group = keyFile.keysOf group
  values : ∀ group key, again.value? group key = keyFile.value? group key

/-- A loaded file survives saving: it is saved under its own path, loaded again from there into a
catalog with the same content, and saved once more with the same text. -/
def SurvivesSaving (workspace : Workspace) (file : LoadedFile) (number : Nat) (name : Text) :
    Prop :=
  ∃ saved handles reopened again final text,
    workspace.saveFile file none = (.ok file.path, saved) ∧
      saved.parse number name = (.ok handles, reopened) ∧
      reopened.fileAt? saved.files.length = some again ∧
      ShowsSame file.keyFile again.keyFile ∧
      reopened.saveFile again none = (.ok again.path, final) ∧
      saved.tree.readExact file.path.toText = .ok text ∧
      final.tree.readExact file.path.toText = .ok text

/-- A sound file survives saving exactly when its values stand on one line each and the temporary
file can be written. -/
theorem survivesSaving_of_sound {workspace : Workspace} {file : LoadedFile} {name text : Text}
    (sound : file.keyFile.Sound) (named : Files.Path.ofText name = file.path)
    (stands : workspace.tree.readExact file.path.toText = .ok text) (number : Nat) :
    workspace.SurvivesSaving file number name ↔
      file.keyFile.SingleLined ∧ CanWriteBeside workspace.tree file.path := by
  constructor
  · rintro ⟨saved, handles, reopened, again, -, -, saved_eq, parsed, found, same, -⟩
    refine ⟨?_, (exists_saveFile_iff file stands).mp ⟨saved, saved_eq⟩⟩
    obtain ⟨keyFile, loaded, registered⟩ := registered_of_parse parsed
    rw [registered.fileAt?] at found
    obtain rfl := Option.some.inj found
    rw [named] at loaded
    exact (sound.loads_again_iff (stored_of_saveFile saved_eq).1).mp ⟨keyFile, loaded, same.values⟩
  · rintro ⟨single, writable⟩
    obtain ⟨saved, saved_eq⟩ := (exists_saveFile_iff file stands).mpr writable
    obtain ⟨stored, writable_again⟩ := stored_of_saveFile saved_eq
    obtain ⟨keyFile, parsed, reprints⟩ := KeyFile.parse_print sound.toProper single
    have loaded := (sound.loadFile_eq_ok stored).mpr parsed
    rw [← named] at loaded
    obtain ⟨handles, reopened, parsed_eq, registered⟩ := parse_of_loadFile loaded number
    rw [named] at registered
    have stored_again : reopened.tree.readExact file.path.toText = .ok file.keyFile.print := by
      rw [registered.tree, stored]
    obtain ⟨final, final_eq⟩ := (exists_saveFile_iff { path := file.path, keyFile }
      stored_again).mpr (by rwa [registered.tree])
    have final_stored := (stored_of_saveFile final_eq).1
    refine ⟨saved, handles, reopened, _, final, _, saved_eq, parsed_eq, registered.fileAt?, ?_,
      final_eq, stored, ?_⟩
    · exact ⟨reprints.groupNames, reprints.keysOf, reprints.value?⟩
    · rw [← reprints.print]
      exact final_stored

/-- What was loaded from a file stands in it and is sound. -/
theorem sound_of_parse {workspace opened : Workspace} {number : Nat} {name : Text}
    {handles : List Nat} {file : LoadedFile}
    (loaded : workspace.parse number name = (.ok handles, opened))
    (found : opened.fileAt? workspace.files.length = some file) :
    file.keyFile.Sound ∧ Files.Path.ofText name = file.path ∧
      ∃ text, opened.tree.readExact file.path.toText = .ok text := by
  obtain ⟨keyFile, key_file_loaded, registered⟩ := registered_of_parse loaded
  rw [registered.fileAt?] at found
  obtain rfl := Option.some.inj found
  obtain ⟨text, read, -⟩ := KeyFile.loadFile_eq_ok.mp key_file_loaded
  obtain ⟨stored, stands, -⟩ := KeyFile.readText_eq_ok.mp read
  exact ⟨KeyFile.sound_of_loadFile key_file_loaded, rfl, stored, registered.tree ▸ stands⟩

/-- A loaded file survives saving exactly when its values stand on one line each and the temporary
file can be written. -/
theorem survivesSaving_iff {workspace opened : Workspace} {number : Nat} {name : Text}
    {handles : List Nat} {file : LoadedFile}
    (loaded : workspace.parse number name = (.ok handles, opened))
    (found : opened.fileAt? workspace.files.length = some file) (other : Nat) :
    opened.SurvivesSaving file other name ↔
      file.keyFile.SingleLined ∧ CanWriteBeside opened.tree file.path := by
  obtain ⟨sound, named, text, stands⟩ := sound_of_parse loaded found
  exact survivesSaving_of_sound sound named stands other

/-! ## Two files -/

/-- A workspace with one file in its tree. -/
def withFile (name text : Text) : Workspace :=
  { tree := { nodes := OrderedMap.insert ∅ [name] (.file (Utf8.encode text)) } }

/-- The name of the file. -/
def sampleName : Text := Text.of "a.repo"

theorem readText_withFile {text : Text} (returnless : '\r' ∉ text) :
    (withFile sampleName text).tree.readText (Files.Path.ofText sampleName).toText = .ok text :=
  KeyFile.readText_eq_ok.mpr
    ⟨text, KeyFile.readExact_holding text, Text.unifyNewlines_of_not_mem returnless⟩

/-- A file that stands alone is loaded as the text that it holds. -/
theorem parse_withFile {text : Text} {keyFile : KeyFile} (returnless : '\r' ∉ text)
    (parsed : KeyFile.parse (Folding.fold text) = .ok keyFile) :
    ∃ handles opened, (withFile sampleName text).parse 0 sampleName = (.ok handles, opened) ∧
      Registered (withFile sampleName text) 0 (Files.Path.ofText sampleName) keyFile handles
        opened := by
  obtain ⟨handles, opened, loaded, registered⟩ := parse_of_loadFile
    (KeyFile.loadFile_eq_ok.mpr ⟨text, readText_withFile returnless, parsed⟩) 0
  exact ⟨handles, opened, loaded, registered⟩

/-- The temporary file beside it can be written. -/
theorem canWriteBeside_withFile (text : Text) :
    CanWriteBeside (withFile sampleName text).tree (Files.Path.ofText sampleName) :=
  ⟨Files.Path.ofText (Text.of "a.repo.tmp"), [Text.of "a.repo.tmp"], by decide, rfl⟩

/-- A text whose values stand on one line each. -/
def plainText : Text := Text.of "[r]\nk = a\n"

theorem plain_text_survivesSaving : ∃ handles opened file,
    (withFile sampleName plainText).parse 0 sampleName = (.ok handles, opened) ∧
      opened.fileAt? 0 = some file ∧ opened.SurvivesSaving file 0 sampleName := by
  obtain ⟨keyFile, parsed⟩ : ∃ keyFile, KeyFile.parse (Folding.fold plainText) = .ok keyFile :=
    ⟨_, rfl⟩
  obtain ⟨handles, opened, loaded, registered⟩ := parse_withFile (by decide) parsed
  have single := KeyFile.singleLined_of_hasContinuation parsed (by decide)
  have writable := canWriteBeside_withFile plainText
  rw [← registered.tree] at writable
  exact ⟨handles, opened, _, loaded, registered.fileAt?,
    (survivesSaving_iff loaded registered.fileAt? 0).mpr ⟨single, writable⟩⟩

/-- The plain text is loaded with one entry. -/
theorem registered_plainText : ∃ keyFile handles, keyFile.groupNames = [Text.of "r"] ∧
    Registered (withFile sampleName plainText) 0 (Files.Path.ofText sampleName) keyFile handles
      ((withFile sampleName plainText).run [.parse 0 sampleName]) := by
  obtain ⟨keyFile, parsed, groups⟩ : ∃ keyFile,
      KeyFile.parse (Folding.fold plainText) = .ok keyFile ∧
        keyFile.groupNames = [Text.of "r"] :=
    ⟨_, rfl, rfl⟩
  obtain ⟨handles, opened, loaded, registered⟩ := parse_withFile (by decide) parsed
  refine ⟨keyFile, handles, groups, ?_⟩
  rw [run, List.foldl_cons, List.foldl_nil, perform, loaded]
  exact registered

theorem entryAt?_plainText :
    ((withFile sampleName plainText).run [.parse 0 sampleName]).entryAt? 0 =
      some { id := Text.of "r", file := some 0 } := by
  obtain ⟨keyFile, handles, groups, registered⟩ := registered_plainText
  rw [entryAt?, registered.entries, groups]
  rfl

/-- A text in which a line goes on with a value although neither a space nor a tab stands before it:
another blank does. -/
def continuedText : Text := Text.of "[r]\nk = a\n\u00a0b\n"

/-- A continued value is printed with its newline, and what it becomes in the saved file cannot be
loaded. -/
theorem continued_text_is_damaged : ∃ handles opened file saved,
    (withFile sampleName continuedText).parse 0 sampleName = (.ok handles, opened) ∧
      opened.fileAt? 0 = some file ∧ opened.saveFile file none = (.ok file.path, saved) ∧
      (∀ number handles reopened, saved.parse number sampleName ≠ (.ok handles, reopened)) ∧
      ¬opened.SurvivesSaving file 0 sampleName := by
  obtain ⟨keyFile, parsed, fault, damaged⟩ : ∃ keyFile,
      KeyFile.parse (Folding.fold continuedText) = .ok keyFile ∧
        ∃ fault, KeyFile.parse keyFile.print = .error fault :=
    ⟨_, rfl, _, rfl⟩
  obtain ⟨handles, opened, loaded, registered⟩ := parse_withFile (by decide) parsed
  have found := registered.fileAt?
  have writable := canWriteBeside_withFile continuedText
  rw [← registered.tree] at writable
  obtain ⟨sound, named, text, stands⟩ := sound_of_parse loaded found
  obtain ⟨saved, saved_eq⟩ := (exists_saveFile_iff _ stands).mpr writable
  have lost : ∀ number handles reopened,
      saved.parse number sampleName ≠ (.ok handles, reopened) := by
    intro number handles reopened again
    obtain ⟨found_again, loaded_again, -⟩ := registered_of_parse again
    rw [named] at loaded_again
    have parsed_again := (sound.loadFile_eq_ok (stored_of_saveFile saved_eq).1).mp loaded_again
    simp [damaged] at parsed_again
  refine ⟨handles, opened, _, saved, loaded, found, saved_eq, lost, ?_⟩
  rintro ⟨saved_again, again_handles, reopened, -, -, -, saved_again_eq, again, -⟩
  obtain rfl : saved = saved_again := by
    rw [saved_eq] at saved_again_eq
    exact (Prod.mk.inj saved_again_eq).2
  exact lost _ _ _ again

end Workspace
end PackageRepos
