import PackageRepos.Proofs.Files.Malformed
import PackageRepos.Proofs.Text.Lines
import PackageRepos.Proofs.Text.Utf8
import PackageRepos.Settings.Basic

/-!
# Overriding packaged settings

The settings of a section are the packaged ones with the entries of the user's mapping in place, and
a user's file bears upon its own section only. This holds as long as no user's file makes the
loading fail: one whose path cannot be looked up, one that is no text, and one whose document is
neither a mapping nor nothing.
-/

namespace PackageRepos
namespace Settings

/-- The entries of a mapping; other documents have none. -/
def entriesIn : Value → List (Text × Value)
  | .mapping entries => entries
  | _ => []

namespace Source

/-- The path of the user's file with a name. -/
def userPath (source : Source) (filename : Text) : Text :=
  (source.userDirectory.append (.ofText filename)).toText

/-- The document in the user's file with a name, if there is such a file and it can be read. -/
def document? (source : Source) (filename : Text) : Option Value :=
  (source.tree.readText (source.userPath filename)).toOption.bind fun text =>
    (source.parser.read text).toOption

/-- The entries of the mapping in the user's file with a name; anything else there has none. -/
def entries (source : Source) (filename : Text) : List (Text × Value) :=
  (source.document? filename).elim [] entriesIn

/-- What the packaged file with a name holds, if there is such a file and it can be read. -/
def packaged? (source : Source) (filename : Text) : Option (OrderedMap Text Value) :=
  (packagedText? filename).bind fun text =>
    (source.parser.read text).toOption.bind fun document =>
      (additions document).toOption.map .ofList

/-- Every section has packaged settings. -/
def IsPackaged (source : Source) : Prop :=
  ∀ part filename, source.filenames.get? part = some filename →
    ∃ packaged, source.packaged? filename = some packaged

end Source

/-- The packaged settings with exactly the given entries replaced or added. -/
structure IsOverridden (packaged : OrderedMap Text Value) (entries : List (Text × Value))
    (merged : OrderedMap Text Value) : Prop where
  values : ∀ key, merged.get? key = ((OrderedMap.ofList entries).get? key).or (packaged.get? key)
  keys : merged.keys =
    packaged.keys ++ (OrderedMap.ofList entries).keys.filter fun key => !packaged.contains key

/-- The settings are the packaged ones of all sections, overridden by the mappings in the user's
files. -/
structure Overrides (source : Source) (settings : Settings) : Prop where
  parts : settings.sections.keys = source.filenames.keys
  sections : ∀ part filename packaged, source.filenames.get? part = some filename →
    source.packaged? filename = some packaged →
      ∃ merged, settings.sections.get? part = some merged ∧
        IsOverridden packaged (source.entries filename) merged

/-- The document leaves the packaged settings as they are, unless it is a mapping. -/
inductive IsBenign (packaged : OrderedMap Text Value) : Value → Prop
  | mapping (entries : List (Text × Value)) : IsBenign packaged (.mapping entries)
  | void {document : Value} (untrue : document.isTrue = false) : IsBenign packaged document
  /-- A list of pairs is taken for a mapping, which may say what is packaged anyway. -/
  | pairs {items : List Value} {added : List (Text × Value)}
      (paired : entriesOfPairs items = .ok added)
      (unchanged : packaged.insertAll added = packaged) : IsBenign packaged (.list items)

/-- The user's file with a name does not keep the settings from being loaded, and does not change
them unless it holds a mapping. -/
structure Source.Spares (source : Source) (filename : Text) (packaged : OrderedMap Text Value) :
    Prop where
  found : source.tree.locate (source.userPath filename) ≠ .error .tooLong
  decodable : ∀ fault,
    source.tree.readText (source.userPath filename) ≠ .error (.undecodable fault)
  benign : ∀ document, source.document? filename = some document → IsBenign packaged document

/-! ## Merging -/

theorem isOverridden_insertAll (packaged : OrderedMap Text Value) (entries : List (Text × Value)) :
    IsOverridden packaged entries (packaged.insertAll entries) :=
  ⟨packaged.get?_insertAll entries, packaged.keys_insertAll entries⟩

theorem IsOverridden.eq_insertAll {packaged merged : OrderedMap Text Value}
    {entries : List (Text × Value)} (overridden : IsOverridden packaged entries merged) :
    merged = packaged.insertAll entries := by
  refine OrderedMap.ext_get? ?_ fun key => ?_
  · rw [overridden.keys, packaged.keys_insertAll]
  · rw [overridden.values, packaged.get?_insertAll]

/-- A text is no list of pairs, however its characters are taken. -/
theorem exists_entriesOfPairs_eq_error {text : Text} (nonempty : text ≠ []) :
    ∃ fault, entriesOfPairs (text.map fun char => .text [char]) = .error fault := by
  cases text with
  | nil => exact absurd rfl nonempty
  | cons char rest => exact ⟨_, rfl⟩

/-- A document is benign when it adds to the packaged settings what its entries add to them. -/
theorem isBenign_iff {packaged : OrderedMap Text Value} {document : Value} :
    IsBenign packaged document ↔
      ∃ added, additions document = .ok added ∧
        packaged.insertAll added = packaged.insertAll (entriesIn document) := by
  constructor
  · intro benign
    cases benign with
    | mapping entries => cases entries <;> exact ⟨_, rfl, rfl⟩
    | void untrue =>
      refine ⟨[], by simp [additions, untrue], ?_⟩
      cases document with
      | mapping entries =>
        have empty : entries = [] := by simpa [Value.isTrue] using untrue
        rw [entriesIn, empty]
      | _ => rfl
    | @pairs items added paired unchanged =>
      cases items with
      | nil => exact ⟨[], rfl, rfl⟩
      | cons item rest => exact ⟨added, paired, unchanged⟩
  · rintro ⟨added, adds, same⟩
    cases isTrue : document.isTrue with
    | false => exact .void isTrue
    | true =>
      simp only [additions, isTrue, if_true] at adds
      split at adds
      · exact .mapping _
      · exact .pairs adds same
      · rename_i text
        have nonempty : text ≠ [] := by
          rintro rfl
          cases isTrue
        obtain ⟨fault, failed⟩ := exists_entriesOfPairs_eq_error nonempty
        cases failed.symm.trans adds
      · cases adds

/-- A mapping in the user's file overrides what is packaged. -/
theorem spares_of_mapping {source : Source} {filename : Text} {entries : List (Text × Value)}
    (held : source.document? filename = some (.mapping entries))
    (packaged : OrderedMap Text Value) : source.Spares filename packaged := by
  obtain ⟨text, read⟩ : ∃ text, source.tree.readText (source.userPath filename) = .ok text := by
    cases read : source.tree.readText (source.userPath filename) with
    | ok text => exact ⟨text, rfl⟩
    | error fault => simp [Source.document?, read, Except.toOption] at held
  refine ⟨fun tooLong => ?_, fun fault => by simp [read], fun document found => ?_⟩
  · simp [Files.Tree.readText, Files.Tree.readExact, Files.Tree.read, tooLong, Except.map] at read
  · cases held.symm.trans found
    exact .mapping entries

/-- Where the user has no file, what is packaged stays. -/
theorem spares_of_absent {source : Source} {filename : Text} {location : Files.Location}
    (place : source.tree.locate (source.userPath filename) = .ok location)
    (absent : source.tree.node? location = none) (packaged : OrderedMap Text Value) :
    source.Spares filename packaged := by
  have missing : source.tree.find? (source.userPath filename) = none := by
    simp only [Files.Tree.find?, place, absent]
  obtain ⟨fault, unread⟩ := Files.Tree.readText_of_find?_eq_none missing
  refine ⟨by simp [place], fun other => by simp [unread], fun document found => ?_⟩
  simp [Source.document?, unread, Except.toOption] at found

/-! ## Reading the user's files -/

/-- The user's document is taken as it is read, unless the file makes the loading fail. -/
theorem userDocument_eq_ok_iff {source : Source} {filename : Text} {document : Option Value} :
    (userDocument source filename).1 = .ok document ↔
      source.tree.locate (source.userPath filename) ≠ .error .tooLong ∧
        (∀ fault, source.tree.readText (source.userPath filename) ≠ .error (.undecodable fault)) ∧
          document = source.document? filename := by
  have examined := @Files.Tree.examine_eq_ok_iff source.tree (source.userPath filename)
  have path_eq : (source.userDirectory.append (.ofText filename)).toText =
      source.userPath filename := rfl
  simp only [userDocument, Source.document?, path_eq]
  cases looked : source.tree.examine (source.userPath filename) with
  | error fault =>
    refine iff_of_false (by simp) ?_
    rintro ⟨found, -⟩
    cases looked.symm.trans (examined.mpr ⟨found, rfl⟩)
  | ok node =>
    obtain ⟨found, rfl⟩ := examined.mp looked
    rw [and_iff_right found]
    cases there : source.tree.find? (source.userPath filename) with
    | none =>
      obtain ⟨fault, failed⟩ := Files.Tree.readText_of_find?_eq_none there
      simp [failed, Except.toOption, @eq_comm _ document]
    | some node =>
      cases read : source.tree.readText (source.userPath filename) with
      | error fault => cases fault <;> simp [Except.toOption, @eq_comm _ document]
      | ok text =>
        cases held : source.parser.read text <;>
          simp [held, Except.toOption, @eq_comm _ document]

/-- The settings of a section cannot be loaded when nothing can be made of the user's document. -/
theorem loadUser_of_additions {source : Source} {filename : Text} {document : Value}
    {fault : ArgumentFault}
    (found : source.tree.locate (source.userPath filename) ≠ .error .tooLong)
    (held : source.document? filename = some document)
    (failed : additions document = .error fault) (packaged : OrderedMap Text Value)
    (status : Status) :
    (loadUser source filename packaged status).1 = .error (.argument fault) := by
  have decodable : ∀ fault,
      source.tree.readText (source.userPath filename) ≠ .error (.undecodable fault) := by
    intro fault undecodable
    simp [Source.document?, undecodable, Except.toOption] at held
  have taken := userDocument_eq_ok_iff.mpr ⟨found, decodable, held.symm⟩
  unfold loadUser
  cases read : userDocument source filename with
  | mk outcome events =>
    rw [read] at taken
    rw [show outcome = .ok (some document) from taken]
    simp only [failed]

/-- Settings with the user's document put in place. Where there is no document, nothing is. -/
theorem loadUser_eq_ok_iff {source : Source} {filename : Text}
    {packaged merged : OrderedMap Text Value} {status : Status} :
    (∃ after, (loadUser source filename packaged status).1 = .ok (merged, after)) ↔
      source.tree.locate (source.userPath filename) ≠ .error .tooLong ∧
        (∀ fault, source.tree.readText (source.userPath filename) ≠ .error (.undecodable fault)) ∧
          ∃ added, additions ((source.document? filename).getD .absent) = .ok added ∧
            merged = packaged.insertAll added := by
  have taken := @userDocument_eq_ok_iff source filename
  unfold loadUser
  cases read : userDocument source filename with
  | mk outcome events =>
    rw [read] at taken
    cases outcome with
    | error failure =>
      refine iff_of_false (by simp) ?_
      rintro ⟨found, decodable, -⟩
      cases taken.mpr ⟨found, decodable, rfl⟩
    | ok document =>
      obtain ⟨found, decodable, rfl⟩ := taken.mp rfl
      rw [and_iff_right found, and_iff_right decodable]
      cases held : source.document? filename with
      | none => simp [additions, Value.isTrue, OrderedMap.insertAll, eq_comm]
      | some document =>
        cases adds : additions document with
        | error fault => simp [adds]
        | ok added => simp [adds, @eq_comm _ merged]

theorem contains_of_packagedText? {filename text : Text}
    (packaged : packagedText? filename = some text) : filename.contains '\x00' = false := by
  obtain ⟨⟨name, content⟩, member, same⟩ := List.exists_of_findSome?_eq_some packaged
  have proper : ∀ file ∈ packagedFiles, (Text.of file.1).contains '\x00' = false := by decide
  obtain ⟨rfl, -⟩ : filename = Text.of name ∧ content = text := by simpa using same
  exact proper _ member

/-- What a packaged file holds is loaded. -/
theorem loadPackaged_of_packaged? {source : Source} (part : Text) {filename : Text}
    {packaged : OrderedMap Text Value} (isPackaged : source.packaged? filename = some packaged) :
    loadPackaged source part filename = (.ok (packaged, .loaded), []) := by
  obtain ⟨text, found, holds⟩ := Option.bind_eq_some_iff.mp isPackaged
  obtain ⟨document, read, adds⟩ := Option.bind_eq_some_iff.mp holds
  obtain ⟨added, added_eq, rfl⟩ := Option.map_eq_some_iff.mp adds
  have read_eq : source.parser.read text = .ok document := by
    cases outcome : source.parser.read text <;> simp_all [Except.toOption]
  have additions_eq : additions document = .ok added := by
    cases outcome : additions document <;> simp_all [Except.toOption]
  simp only [loadPackaged, contains_of_packagedText? found, found, read_eq, additions_eq]
  rfl

/-- The settings of a section are the packaged ones overridden by the user's entries exactly when
the user's file spares them. -/
theorem spares_iff {source : Source} (part : Text) {filename : Text}
    {packaged : OrderedMap Text Value} (isPackaged : source.packaged? filename = some packaged) :
    source.Spares filename packaged ↔
      ∃ merged after, (loadSection source part filename).1 = .ok (merged, after) ∧
        IsOverridden packaged (source.entries filename) merged := by
  have section_eq : (loadSection source part filename).1 =
      (loadUser source filename packaged .loaded).1 := by
    rw [loadSection, loadPackaged_of_packaged? part isPackaged]
  have benign_iff : (∀ document, source.document? filename = some document →
      IsBenign packaged document) ↔
      ∃ added, additions ((source.document? filename).getD .absent) = .ok added ∧
        packaged.insertAll added = packaged.insertAll (source.entries filename) := by
    unfold Source.entries
    cases source.document? filename with
    | none => simp [additions, Value.isTrue]
    | some document => simp [isBenign_iff]
  rw [section_eq]
  constructor
  · rintro ⟨found, decodable, benign⟩
    obtain ⟨added, adds, same⟩ := benign_iff.mp benign
    obtain ⟨after, merged⟩ := loadUser_eq_ok_iff.mpr ⟨found, decodable, added, adds, rfl⟩
    exact ⟨_, after, merged, same ▸ isOverridden_insertAll packaged _⟩
  · rintro ⟨merged, after, merges, overridden⟩
    obtain ⟨found, decodable, added, adds, rfl⟩ := loadUser_eq_ok_iff.mp ⟨after, merges⟩
    exact ⟨found, decodable, benign_iff.mpr ⟨added, adds, overridden.eq_insertAll⟩⟩

/-! ## Loading all sections -/

theorem loadSections_cons {source : Source} {part filename : Text} {rest : List (Text × Text)}
    {loaded : List (Text × OrderedMap Text Value × Status)} :
    (loadSections source ((part, filename) :: rest)).1 = .ok loaded ↔
      ∃ result others, (loadSection source part filename).1 = .ok result ∧
        (loadSections source rest).1 = .ok others ∧ loaded = (part, result) :: others := by
  rw [loadSections]
  cases read : loadSection source part filename with
  | mk outcome events =>
    cases outcome with
    | error failure => simp
    | ok result =>
      cases later : (loadSections source rest).1 with
      | error failure => simp [later, Except.map]
      | ok others => simp [later, Except.map, eq_comm]

/-- Sections that are all loaded are loaded in order. -/
theorem of_loadSections {source : Source} {parts : List (Text × Text)}
    {loaded : List (Text × OrderedMap Text Value × Status)}
    (all : (loadSections source parts).1 = .ok loaded) :
    loaded.map Prod.fst = parts.map Prod.fst ∧
      ∀ part ∈ parts, ∃ result, (part.1, result) ∈ loaded ∧
        (loadSection source part.1 part.2).1 = .ok result := by
  induction parts generalizing loaded with
  | nil =>
    cases all
    simp
  | cons part rest ih =>
    obtain ⟨result, others, first, later, rfl⟩ := loadSections_cons.mp all
    obtain ⟨names, results⟩ := ih later
    refine ⟨by rw [List.map_cons, List.map_cons, names], List.forall_mem_cons.mpr ⟨?_, ?_⟩⟩
    · exact ⟨result, List.mem_cons_self, first⟩
    · intro next member
      obtain ⟨found, listed, read⟩ := results next member
      exact ⟨found, List.mem_cons_of_mem _ listed, read⟩

theorem exists_loadSections (source : Source) {parts : List (Text × Text)}
    (each : ∀ part ∈ parts, ∃ result, (loadSection source part.1 part.2).1 = .ok result) :
    ∃ loaded, (loadSections source parts).1 = .ok loaded := by
  induction parts with
  | nil => exact ⟨[], rfl⟩
  | cons part rest ih =>
    obtain ⟨⟨result, first⟩, others⟩ := List.forall_mem_cons.mp each
    obtain ⟨loaded, later⟩ := ih others
    exact ⟨_, loadSections_cons.mpr ⟨result, loaded, first, later, rfl⟩⟩

theorem load_eq_ok_iff {source : Source} {settings : Settings} :
    (load source).1 = .ok settings ↔
      ∃ loaded, (loadSections source source.filenames.toList).1 = .ok loaded ∧
        settings.sections = .ofList (loaded.map fun (part, entries, _) => (part, entries)) := by
  obtain ⟨sections⟩ := settings
  unfold load
  cases all : loadSections source source.filenames.toList with
  | mk outcome events => cases outcome <;> simp [@eq_comm _ sections]

/-- The first section that cannot be loaded keeps all of them from being loaded. -/
theorem load_of_first {source : Source} {part filename : Text} {rest : List (Text × Text)}
    {failure : Failure} (listed : source.filenames.toList = (part, filename) :: rest)
    (failed : (loadSection source part filename).1 = .error failure) :
    (load source).1 = .error failure := by
  rw [load, listed, loadSections]
  cases read : loadSection source part filename with
  | mk outcome events =>
    rw [read] at failed
    rw [show outcome = .error failure from failed]

/-- Loaded settings hold every section as it is loaded by itself. -/
theorem sections_of_load {source : Source} {settings : Settings}
    (loaded : (load source).1 = .ok settings) :
    settings.sections.keys = source.filenames.keys ∧
      ∀ part filename, source.filenames.get? part = some filename →
        ∃ merged after, (loadSection source part filename).1 = .ok (merged, after) ∧
          settings.sections.get? part = some merged := by
  obtain ⟨results, all, sections_eq⟩ := load_eq_ok_iff.mp loaded
  obtain ⟨names, each⟩ := of_loadSections all
  have parts_eq : (results.map fun (part, entries, _) => (part, entries)).map Prod.fst =
      source.filenames.keys := by
    rw [List.map_map]
    exact names
  have distinct := parts_eq ▸ source.filenames.keys_nodup
  have listed := OrderedMap.toList_ofList distinct
  rw [← sections_eq] at listed
  refine ⟨by rw [OrderedMap.keys, listed, parts_eq], fun part filename found => ?_⟩
  obtain ⟨⟨merged, after⟩, member, read⟩ :=
    each (part, filename) (OrderedMap.get?_eq_some_iff.mp found)
  refine ⟨merged, after, read, OrderedMap.get?_eq_some_iff.mpr ?_⟩
  rw [listed]
  exact List.mem_map.mpr ⟨_, member, rfl⟩

theorem exists_load {source : Source}
    (each : ∀ part filename, source.filenames.get? part = some filename →
      ∃ result, (loadSection source part filename).1 = .ok result) :
    ∃ settings, (load source).1 = .ok settings := by
  obtain ⟨loaded, all⟩ := exists_loadSections source fun part member =>
    each part.1 part.2 (OrderedMap.get?_eq_some_iff.mpr member)
  exact ⟨_, load_eq_ok_iff.mpr ⟨loaded, all, rfl⟩⟩

/-- The settings are loaded and overridden exactly when every user's file spares them. -/
theorem overrides_iff {source : Source} (packaged : source.IsPackaged) :
    (∃ settings, (load source).1 = .ok settings ∧ Overrides source settings) ↔
      ∀ part filename packaged, source.filenames.get? part = some filename →
        source.packaged? filename = some packaged → source.Spares filename packaged := by
  constructor
  · rintro ⟨settings, loaded, overrides⟩ part filename packaged named isPackaged
    obtain ⟨-, each⟩ := sections_of_load loaded
    obtain ⟨merged, after, read, found⟩ := each part filename named
    obtain ⟨other, other_found, overridden⟩ :=
      overrides.sections part filename packaged named isPackaged
    cases found.symm.trans other_found
    exact (spares_iff part isPackaged).mpr ⟨merged, after, read, overridden⟩
  · intro spares
    obtain ⟨settings, loaded⟩ : ∃ settings, (load source).1 = .ok settings := by
      refine exists_load fun part filename named => ?_
      obtain ⟨entries, isPackaged⟩ := packaged part filename named
      obtain ⟨merged, after, read, -⟩ :=
        (spares_iff part isPackaged).mp (spares part filename entries named isPackaged)
      exact ⟨_, read⟩
    obtain ⟨parts, each⟩ := sections_of_load loaded
    refine ⟨settings, loaded, parts, fun part filename packaged named isPackaged => ?_⟩
    obtain ⟨merged, after, read, overridden⟩ :=
      (spares_iff part isPackaged).mp (spares part filename packaged named isPackaged)
    obtain ⟨other, later, other_read, found⟩ := each part filename named
    cases read.symm.trans other_read
    exact ⟨merged, found, overridden⟩

/-- The section of a user's mapping has what is packaged with the user's entries put in place, as
long as the other files spare what is packaged for them. -/
theorem exists_load_of_mapping {source : Source} {part filename : Text}
    {packaged : OrderedMap Text Value} {entries : List (Text × Value)}
    (all : source.IsPackaged) (named : source.filenames.get? part = some filename)
    (isPackaged : source.packaged? filename = some packaged)
    (document : source.document? filename = some (.mapping entries))
    (spared : ∀ other file more, file ≠ filename → source.filenames.get? other = some file →
      source.packaged? file = some more → source.Spares file more) :
    ∃ settings, (load source).1 = .ok settings ∧
      settings.sections.get? part = some (packaged.insertAll entries) := by
  obtain ⟨settings, loaded, overrides⟩ := (overrides_iff all).mpr fun other file more other_named
      other_packaged => by
    by_cases same : file = filename
    · exact same ▸ spares_of_mapping document more
    · exact spared other file more same other_named other_packaged
  obtain ⟨merged, found, overridden⟩ := overrides.sections part filename packaged named isPackaged
  refine ⟨settings, loaded, ?_⟩
  rw [found, overridden.eq_insertAll, Source.entries, document]
  rfl

/-- The settings of a section depend on the user's file of this section only. -/
theorem section_eq_of_readText_eq {source other : Source} {part filename : Text}
    {merged otherMerged : OrderedMap Text Value} {after otherAfter : Status}
    (parser_eq : other.parser = source.parser)
    (same : source.tree.readText (source.userPath filename) =
      other.tree.readText (other.userPath filename))
    (loaded : (loadSection source part filename).1 = .ok (merged, after))
    (otherLoaded : (loadSection other part filename).1 = .ok (otherMerged, otherAfter)) :
    merged = otherMerged := by
  have document_eq : source.document? filename = other.document? filename := by
    rw [Source.document?, Source.document?, same, parser_eq]
  have packaged_eq : loadPackaged other part filename = loadPackaged source part filename := by
    simp only [loadPackaged, parser_eq]
  unfold loadSection at loaded otherLoaded
  cases packs : loadPackaged source part filename with
  | mk outcome events =>
    rw [packs] at loaded
    rw [packaged_eq, packs] at otherLoaded
    cases outcome with
    | error failure => cases loaded
    | ok result =>
      obtain ⟨-, -, added, adds, rfl⟩ := loadUser_eq_ok_iff.mp ⟨after, loaded⟩
      obtain ⟨-, -, otherAdded, otherAdds, rfl⟩ := loadUser_eq_ok_iff.mp ⟨otherAfter, otherLoaded⟩
      rw [document_eq, otherAdds] at adds
      cases adds
      rfl

/-- Settings that are not there yet are loaded. -/
theorem obtain_of_fresh {cache : Cache} (fresh : cache.current = none) (source : Source) :
    (cache.obtain source).1.1 = (load source).1 := by
  unfold Cache.obtain
  rw [fresh]
  cases load source with
  | mk outcome events => cases outcome <;> rfl

theorem obtain_reset (cache : Cache) (source : Source) :
    (cache.reset.obtain source).1.1 = (load source).1 :=
  obtain_of_fresh rfl source

/-- Settings that are made anew are the packaged ones overridden by the user's mappings exactly when
no user's file keeps them from being loaded; and then no user's file bears upon another section. -/
theorem overrides_only {source : Source} (packaged : source.IsPackaged) (cache : Cache) :
    ((∃ settings, (cache.reset.obtain source).1.1 = .ok settings ∧ Overrides source settings) ↔
        ∀ part filename packaged, source.filenames.get? part = some filename →
          source.packaged? filename = some packaged → source.Spares filename packaged) ∧
      ∀ other settings otherSettings, other.filenames = source.filenames →
        other.parser = source.parser →
        (cache.reset.obtain source).1.1 = .ok settings →
        (cache.reset.obtain other).1.1 = .ok otherSettings →
          ∀ part filename, source.filenames.get? part = some filename →
            source.tree.readText (source.userPath filename) =
              other.tree.readText (other.userPath filename) →
            settings.sections.get? part = otherSettings.sections.get? part := by
  simp only [obtain_reset]
  refine ⟨overrides_iff packaged, ?_⟩
  intro other settings otherSettings filenames_eq parser_eq loaded otherLoaded part filename named
    same
  obtain ⟨merged, after, read, found⟩ := (sections_of_load loaded).2 part filename named
  obtain ⟨otherMerged, otherAfter, otherRead, otherFound⟩ :=
    (sections_of_load otherLoaded).2 part filename (filenames_eq ▸ named)
  rw [found, otherFound, section_eq_of_readText_eq parser_eq same read otherRead]

/-! ## Two users -/

theorem read_ofDocuments {documents : List (Text × Value)} {text : Text} {document : Value}
    (known : documents.lookup text = some document) :
    (Document.Parser.ofDocuments documents).read text = .ok document := by
  simp only [Document.Parser.ofDocuments, known]

theorem beq_repositoryText_loggingText : (repositoryText == loggingText) = false := by decide

/-- A parser that knows the packaged files reads them, whatever else it knows. -/
theorem readsPackaged_ofDocuments (more : List (Text × Value)) :
    (Document.Parser.ofDocuments (packagedDocuments ++ more)).ReadsPackaged where
  logging := read_ofDocuments List.lookup_cons_self
  repositories := by
    apply read_ofDocuments
    rw [packagedDocuments, List.cons_append, List.lookup_cons, beq_repositoryText_loggingText]
    exact List.lookup_cons_self

/-- A further document is read as well, unless it is in the place of a packaged one. -/
theorem read_packagedDocuments_append {content : Text} {document : Value}
    (first : content ≠ loggingText) (second : content ≠ repositoryText) :
    (Document.Parser.ofDocuments (packagedDocuments ++ [(content, document)])).read content =
      .ok document := by
  have apart : (content == loggingText) = false := beq_false_of_ne first
  have another : (content == repositoryText) = false := beq_false_of_ne second
  apply read_ofDocuments
  simp [packagedDocuments, List.lookup_cons, apart, another]

/-- The usual sections, with a user's file in the user's directory, which holds a document. -/
def sourceWith (filename content : Text) (document : Value) : Source where
  tree :=
    { current := [Text.of "work"]
      nodes := .ofList
        [([Text.of "u"], .directory),
          ([Text.of "u", filename], .file (Utf8.encode content))] }
  userDirectory := .ofText (Text.of "/u")
  filenames := defaultFilenames
  parser := .ofDocuments (packagedDocuments ++ [(content, document)])

theorem toList_defaultFilenames :
    defaultFilenames.toList =
      [(Text.of "logging", Text.of "logging.yml"), (Text.of "repoconf", Text.of "repoconf.yml")] :=
  OrderedMap.toList_ofList (by decide)

theorem eq_of_get?_defaultFilenames {part filename : Text}
    (named : defaultFilenames.get? part = some filename) :
    part = Text.of "logging" ∧ filename = Text.of "logging.yml" ∨
      part = Text.of "repoconf" ∧ filename = Text.of "repoconf.yml" := by
  rw [OrderedMap.get?_eq_some_iff, toList_defaultFilenames] at named
  simpa using named

theorem get?_defaultFilenames_logging :
    defaultFilenames.get? (Text.of "logging") = some (Text.of "logging.yml") := by
  rw [OrderedMap.get?_eq_some_iff, toList_defaultFilenames]
  exact List.mem_cons_self

theorem get?_defaultFilenames_repositories :
    defaultFilenames.get? (Text.of "repoconf") = some (Text.of "repoconf.yml") := by
  rw [OrderedMap.get?_eq_some_iff, toList_defaultFilenames]
  exact List.mem_cons_of_mem _ List.mem_cons_self

theorem Source.packaged?_logging {source : Source} (reads : source.parser.ReadsPackaged) :
    source.packaged? (Text.of "logging.yml") = some (entriesOf loggingEntries) := by
  have found : packagedText? (Text.of "logging.yml") = some loggingText := rfl
  have adds : additions (mappingOf loggingEntries) = .ok (entriesOf loggingEntries).toList := rfl
  simp [packaged?, found, reads.logging, adds, Except.toOption, OrderedMap.ofList_toList]

theorem Source.packaged?_repositories {source : Source} (reads : source.parser.ReadsPackaged) :
    source.packaged? (Text.of "repoconf.yml") = some (entriesOf repositoryEntries) := by
  have found : packagedText? (Text.of "repoconf.yml") = some repositoryText := rfl
  have adds : additions (mappingOf repositoryEntries) = .ok (entriesOf repositoryEntries).toList :=
    rfl
  simp [packaged?, found, reads.repositories, adds, Except.toOption, OrderedMap.ofList_toList]

theorem isPackaged_of_default {source : Source} (usual : source.filenames = defaultFilenames)
    (reads : source.parser.ReadsPackaged) : source.IsPackaged := by
  intro part filename named
  rw [usual] at named
  obtain ⟨rfl, rfl⟩ | ⟨rfl, rfl⟩ := eq_of_get?_defaultFilenames named
  · exact ⟨_, Source.packaged?_logging reads⟩
  · exact ⟨_, Source.packaged?_repositories reads⟩

theorem readText_of_read {tree : Files.Tree} {path text : Text} (returnless : '\r' ∉ text)
    (bytes : tree.read path = .ok (Utf8.encode text)) : tree.readText path = .ok text := by
  simp only [Files.Tree.readText, Files.Tree.readExact, bytes, Utf8.decode_encode]
  exact congrArg Except.ok (Text.unifyNewlines_of_not_mem returnless)

theorem Source.document?_of_read {source : Source} {filename text : Text} {document : Value}
    (read : source.tree.readText (source.userPath filename) = .ok text)
    (held : source.parser.read text = .ok document) :
    source.document? filename = some document := by
  simp [document?, read, held, Except.toOption]

/-- The text of a user's file that names another directory. -/
def adaptingText : Text := Text.of "reposdir:\n  - /srv/repos\n"

/-- A user who looks for repositories in another directory. -/
def adapting : Source :=
  sourceWith (Text.of "repoconf.yml") adaptingText
    (mappingOf [("reposdir", .list [word "/srv/repos"])])

theorem readText_adapting :
    adapting.tree.readText (adapting.userPath (Text.of "repoconf.yml")) = .ok adaptingText :=
  readText_of_read (by decide) rfl

theorem document?_adapting :
    adapting.document? (Text.of "repoconf.yml") =
      some (mappingOf [("reposdir", .list [word "/srv/repos"])]) :=
  Source.document?_of_read readText_adapting (read_packagedDocuments_append (by decide) (by decide))

theorem adapting_overrides :
    ∃ settings, ((Cache.reset {}).obtain adapting).1.1 = .ok settings ∧
      Overrides adapting settings := by
  refine (overrides_only (isPackaged_of_default rfl (readsPackaged_ofDocuments _)) {}).1.mpr ?_
  intro part filename packaged named isPackaged
  obtain ⟨-, rfl⟩ | ⟨-, rfl⟩ := eq_of_get?_defaultFilenames named
  · have place : adapting.tree.locate (adapting.userPath (Text.of "logging.yml")) =
        .ok [Text.of "u", Text.of "logging.yml"] := rfl
    exact spares_of_absent place rfl packaged
  · exact spares_of_mapping document?_adapting packaged

/-- A user whose settings for logging are a number. -/
def mistaken : Source := sourceWith (Text.of "logging.yml") (Text.of "5\n") (.int 5)

/-- A number keeps all settings from being loaded, those of the other section as well. -/
theorem number_breaks_all_sections :
    mistaken.IsPackaged ∧
      mistaken.document? (Text.of "logging.yml") = some (.int 5) ∧
      ((Cache.reset {}).obtain mistaken).1.1 = .error (.argument (.notIterable "int")) := by
  have reads : mistaken.parser.ReadsPackaged := readsPackaged_ofDocuments _
  have read : mistaken.tree.readText (mistaken.userPath (Text.of "logging.yml")) =
      .ok (Text.of "5\n") := readText_of_read (by decide) rfl
  have held := Source.document?_of_read read (read_packagedDocuments_append (by decide) (by decide))
  have place : mistaken.tree.locate (mistaken.userPath (Text.of "logging.yml")) =
      .ok [Text.of "u", Text.of "logging.yml"] := rfl
  refine ⟨isPackaged_of_default rfl reads, held, ?_⟩
  rw [obtain_reset]
  refine load_of_first toList_defaultFilenames ?_
  rw [loadSection, loadPackaged_of_packaged? _ (Source.packaged?_logging reads)]
  exact loadUser_of_additions (by simp [place]) held rfl _ _

end Settings
end PackageRepos
