import Mathlib.Data.List.Sort
import Wordbook.Proofs.Build
import Wordbook.Proofs.Sources.Loading

/-! Building again. What a build reads is settled by where the paths of its configuration lead, which data files lie in
the directories there, and what those files and the tables hold. Writing one file changes the ways of no path. So a
build whose output is none of the files that it reads finds everything as before when it is run again, and writes the
same text to the same place. -/
namespace Wordbook
open FileTree

/-- Every name in the tree is one that a file can have. -/
def FileTree.Proper (tree : FileTree) : Prop :=
  ∀ location, tree.get? location ≠ none → ∀ name ∈ location, ProperName name

/-- A place that a build does not read from: it is not that of a table, and not that of a data file right inside one of
the class directories. -/
structure ApartFromInputs (config : Config) (tree : FileTree) (place : Location) : Prop where
  tables : ∀ table ∈ config.tablePaths, tree.locate table ≠ .ok place
  classes : ∀ dir ∈ config.classPaths, ∀ around name, tree.locate dir = .ok around → FileName.isData name = true →
    place ≠ name :: around

variable {α β ι : Type} {config : Config} {tree after : FileTree} {output dir file : Path} {place : Location}
variable {name : FileName} {summary : Summary}

/-! ## What a load depends on -/

theorem readData_congr (found : after.find file = tree.find file) (ofJson? : Json → Option α) :
    readData after ofJson? file = readData tree ofJson? file := by
  rw [readData_eq, readData_eq, found]

theorem result_bind_congr {run run' : Run α} {next next' : α → Run β} (same : run.result = run'.result)
    (sameNext : ∀ value, (next value).result = (next' value).result) :
    (run >>= next).result = (run' >>= next').result := by
  simp only [Run.result_bind, same, sameNext]

theorem mapM_congr {items : List ι} {read read' : ι → Except Failure β}
    (same : ∀ item ∈ items, read item = read' item) : items.mapM read = items.mapM read' := by
  induction items with
  | nil => rfl
  | cons item rest ih =>
    obtain ⟨here, later⟩ := List.forall_mem_cons.1 same
    rw [List.mapM_cons, List.mapM_cons, here, ih later]

theorem readNamed_congr {listed : List FileName}
    (found : ∀ name ∈ listed, after.find (fileIn dir name) = tree.find (fileIn dir name)) (ofJson? : Json → Option α) :
    (readNamed after ofJson? dir listed).result = (readNamed tree ofJson? dir listed).result := by
  induction listed with
  | nil => rfl
  | cons name rest ih =>
    obtain ⟨here, later⟩ := List.forall_mem_cons.1 found
    rw [readNamed, readNamed]
    cases FileName.className? name with
    | none => exact result_bind_congr rfl fun _ => ih later
    | some cls =>
      refine result_bind_congr (readData_congr here ofJson?) fun value => ?_
      exact result_bind_congr (ih later) fun entries => rfl

section Directory
variable (names : reachedNames after dir = reachedNames tree dir)
variable (found : ∀ file ∈ filesIn (reachedNames tree) dir, after.find file = tree.find file)
include names found

theorem loadClasses_congr (ofJson? : Json → Option α) :
    (loadClasses after ofJson? dir).result = (loadClasses tree ofJson? dir).result := by
  simp only [loadClasses, Run.result_bind, result_scanDirectory, Run.result_ofExcept, names]
  exact mapM_congr fun name member => readData_congr (found _ (List.mem_map_of_mem member)) ofJson?

theorem loadNamedClasses_congr (ofJson? : Json → Option α) :
    (loadNamedClasses after ofJson? dir).result = (loadNamedClasses tree ofJson? dir).result := by
  have read := readNamed_congr (fun name member => found _ (List.mem_map_of_mem member)) ofJson?
  rw [loadNamedClasses, loadNamedClasses, Run.result_bind, Run.result_bind, result_scanDirectory, result_scanDirectory,
    names]
  exact result_bind_congr read fun entries => rfl

end Directory

theorem loadAllClasses_congr {dirs : List Path} (names : ∀ dir ∈ dirs, reachedNames after dir = reachedNames tree dir)
    (found : ∀ file ∈ dirs.flatMap (filesIn (reachedNames tree)), after.find file = tree.find file)
    (ofJson? : Json → Option α) :
    (loadAllClasses after ofJson? dirs).result = (loadAllClasses tree ofJson? dirs).result := by
  induction dirs with
  | nil => rfl
  | cons dir rest ih =>
    obtain ⟨here, later⟩ := List.forall_mem_cons.1 names
    rw [List.flatMap_cons, List.forall_mem_append] at found
    simp only [loadAllClasses, Run.result_bind, loadClasses_congr here found.1, ih later found.2]

/-- A load comes to the same in two trees in which the same data files are reached in the class directories, and in
which all paths that are read lead to the same. -/
theorem load_congr (names : ∀ dir ∈ config.classPaths, reachedNames after dir = reachedNames tree dir)
    (tables : ∀ table ∈ config.tablePaths, after.find table = tree.find table)
    (classes : ∀ dir ∈ config.classPaths, ∀ file ∈ filesIn (reachedNames tree) dir, after.find file = tree.find file) :
    (Sources.load config after).result = (Sources.load config tree).result := by
  simp only [Config.tablePaths, Config.classPaths, List.forall_mem_append, List.forall_mem_cons] at names tables classes
  obtain ⟨tableNouns, tableVerbs, tableIndeclinable, _⟩ := tables
  obtain ⟨namesVerbs, namesAdjectives, namesAdverbs, namesPrepositions, namesNouns, _⟩ := names
  obtain ⟨classesVerbs, classesAdjectives, classesAdverbs, classesPrepositions, classesNouns, _⟩ := classes
  have filesVerbs : ∀ file ∈ config.verbPaths.flatMap (filesIn (reachedNames tree)),
      after.find file = tree.find file := by
    intro file listed
    obtain ⟨dir, member, within⟩ := List.mem_flatMap.1 listed
    exact classesVerbs dir member file within
  unfold Sources.load
  refine result_bind_congr (readData_congr tableNouns _) fun irregularNouns => ?_
  refine result_bind_congr (readData_congr tableVerbs _) fun irregularVerbs => ?_
  refine result_bind_congr (readData_congr tableIndeclinable _) fun indeclinable => ?_
  refine result_bind_congr (loadAllClasses_congr namesVerbs filesVerbs _) fun verbs => ?_
  refine result_bind_congr (loadClasses_congr namesAdjectives classesAdjectives _) fun adjectives => ?_
  refine result_bind_congr (loadClasses_congr namesAdverbs classesAdverbs _) fun adverbs => ?_
  refine result_bind_congr (loadClasses_congr namesPrepositions classesPrepositions _) fun prepositions => ?_
  exact result_bind_congr (loadNamedClasses_congr namesNouns classesNouns _) fun nouns => rfl

/-! ## What a write leaves as it was -/

theorem ProperName.of_mem_presentNames (proper : tree.Proper) (present : name ∈ presentNames tree dir) :
    ProperName name := by
  obtain ⟨around, content, _, _, found, _⟩ := mem_presentNames.1 present
  exact proper (name :: around) (by simp [found]) name List.mem_cons_self

/-- The path of a file that a scan comes to leads right into the directory. -/
theorem locate_reached (proper : tree.Proper) (reached : name ∈ reachedNames tree dir) :
    ∃ around, tree.locate dir = .ok around ∧ tree.locate (fileIn dir name) = .ok (name :: around) := by
  obtain ⟨present, isFile⟩ := List.mem_filter.1 reached
  obtain ⟨around, content, located, there, _, _⟩ := mem_presentNames.1 present
  have properName := ProperName.of_mem_presentNames proper present
  refine ⟨around, located, locate_fileIn located there properName (isData_of_mem present) ?_⟩
  by_contra long
  simp [(isFile_fileIn_iff present properName).2 (Nat.lt_of_not_le long)] at isFile

section Put
variable (content : ByteArray) (nonroot : place ≠ []) (free : tree.get? place ≠ some .directory)
include nonroot free

/-- A path that leads elsewhere leads to what it led to before. -/
theorem find_put {location : Location} (located : tree.locate file = .ok location) (elsewhere : place ≠ location) :
    (tree.put place (.file content)).find file = tree.find file := by
  rw [find, find, located, (sameWays_put content nonroot free).locate located]
  simp only [bind, Except.bind, get?_put nonroot, if_neg elsewhere]

variable (apart : ApartFromInputs config tree place)
include apart

theorem presentNames_put (member : dir ∈ config.classPaths) :
    presentNames (tree.put place (.file content)) dir = presentNames tree dir := by
  have same := sameWays_put content nonroot free
  refine (presentNames_ascending _ _).eq_of_mem_iff (presentNames_ascending _ _) fun name => ?_
  rw [mem_presentNames, mem_presentNames]
  constructor
  · rintro ⟨around, held, located, there, found, data⟩
    have located := same.symm.locate located
    have elsewhere := apart.classes dir member around name located (by simp [FileName.isData, data])
    rw [get?_put nonroot, if_neg elsewhere] at found
    exact ⟨around, held, located, (same.directories around).1 there, found, data⟩
  · rintro ⟨around, held, located, there, found, data⟩
    have elsewhere := apart.classes dir member around name located (by simp [FileName.isData, data])
    refine ⟨around, held, same.locate located, (same.directories around).2 there, ?_, data⟩
    rw [get?_put nonroot, if_neg elsewhere, found]

/-- A file that was passed over is so again, as its path is no shorter. -/
theorem reachedNames_put (proper : tree.Proper) (member : dir ∈ config.classPaths) :
    reachedNames (tree.put place (.file content)) dir = reachedNames tree dir := by
  have names := presentNames_put content nonroot free apart member
  rw [reachedNames, reachedNames, names]
  refine List.filter_congr fun name present => ?_
  have properName := ProperName.of_mem_presentNames proper present
  have before := isFile_fileIn_iff present properName
  have after := isFile_fileIn_iff (names ▸ present) properName
  rw [Bool.eq_iff_iff, ← not_iff_not, Bool.not_eq_true, Bool.not_eq_true, before, after]

/-- A load that has succeeded succeeds again with the same sources. -/
theorem load_put (proper : tree.Proper) {sources : Sources} (loads : (Sources.load config tree).result = .ok sources) :
    (Sources.load config (tree.put place (.file content))).result = .ok sources := by
  have loaded := loaded_of_load loads
  have located : ∀ table ∈ config.tablePaths, ∃ location, tree.locate table = .ok location := by
    simp only [Config.tablePaths, List.forall_mem_cons]
    exact ⟨loaded.irregularNouns.located, loaded.irregularVerbs.located, loaded.indeclinable.located, by simp⟩
  rw [← loads]
  apply load_congr
  · intro dir member
    exact reachedNames_put content nonroot free apart proper member
  · intro table member
    obtain ⟨location, located⟩ := located table member
    refine find_put content nonroot free located ?_
    rintro rfl
    exact apart.tables table member located
  · intro dir member file listed
    obtain ⟨name, reached, rfl⟩ := List.mem_map.1 listed
    obtain ⟨around, located, locatedFile⟩ := locate_reached proper reached
    have data := isData_of_mem (List.mem_of_mem_filter reached)
    exact find_put content nonroot free locatedFile (apart.classes dir member around name located data)

end Put

/-- A build whose output is none of the files that it reads can be run again, with the same summary, and leaves the tree
as it is from then on, the output byte for byte. -/
theorem build_again (proper : tree.Proper) (done : ((buildLexicon config output).run tree).result = .ok summary)
    (apart : ∀ place, tree.locate output = .ok place → ApartFromInputs config tree place) :
    ((buildLexicon config output).run ((buildLexicon config output).run tree).tree).result = .ok summary ∧
    ((buildLexicon config output).run ((buildLexicon config output).run tree).tree).tree =
      ((buildLexicon config output).run tree).tree ∧
    ∃ text, ((buildLexicon config output).run tree).tree.readText output = .ok text ∧
      ((buildLexicon config output).run ((buildLexicon config output).run tree).tree).tree.readText output =
        .ok text := by
  obtain ⟨sources, lexicon, stats, loads, assembled, rfl, written⟩ := ok_of_buildLexicon done
  generalize ((buildLexicon config output).run tree).tree = after at written ⊢
  have again := write_again written
  have text := readText_of_find (find_write written)
  obtain ⟨place, found, put⟩ := ok_of_bind written
  cases put
  obtain ⟨located, nonroot, free⟩ := target_spec found
  have reloads := load_put lexicon.savedText.toUTF8 nonroot free (apart place located) proper loads
  have redone := buildLexicon_ok_iff.2 ⟨sources, lexicon, stats, _, reloads, assembled, rfl, again⟩
  obtain ⟨_, _, _, reload, reassembled, _, rewritten⟩ := ok_of_buildLexicon redone
  cases reload.symm.trans reloads
  cases reassembled.symm.trans assembled
  have same := Except.ok.inj (rewritten.symm.trans again)
  exact ⟨redone, same, _, text, by rw [same, text]⟩

theorem FileTree.proper_iff : tree.Proper ↔ ∀ location ∈ tree.entries.keys, ∀ name ∈ location, ProperName name := by
  constructor
  · intro proper location listed
    cases location with
    | nil => simp
    | cons name parent => exact proper (name :: parent) (by simpa [get?] using listed)
  · intro proper location there
    cases location with
    | nil => simp
    | cons name parent => exact proper (name :: parent) (by simpa [get?] using there)

/-- A configuration that takes the root of the source tree for the directory of the nouns, so that the tables are read
as noun classes too. -/
def overlapping : Config where
  nounsDir := ⟨"."⟩

/-- A file that is written right beside the noun classes is none of them under this name. -/
theorem shelf_apart (place : Location) (located : shelf.locate ⟨"english.txt"⟩ = .ok place) :
    ApartFromInputs overlapping shelf place := by
  have here : shelf.locate ⟨"english.txt"⟩ = .ok ["english.txt"] := by decide +kernel
  cases here.symm.trans located
  constructor
  · decide +kernel
  · rintro _ _ _ _ _ data same
    cases same
    exact absurd data (by decide)

theorem shelf_built_again : ∃ summary, shelf.Proper ∧
    ((buildLexicon overlapping ⟨"english.txt"⟩).run shelf).result = .ok summary ∧
    ((buildLexicon overlapping ⟨"english.txt"⟩).run
      ((buildLexicon overlapping ⟨"english.txt"⟩).run shelf).tree).result = .ok summary ∧
    ((buildLexicon overlapping ⟨"english.txt"⟩).run
      ((buildLexicon overlapping ⟨"english.txt"⟩).run shelf).tree).tree =
        ((buildLexicon overlapping ⟨"english.txt"⟩).run shelf).tree := by
  have proper : shelf.Proper := proper_iff.2 (by decide +kernel)
  cases result : ((buildLexicon overlapping ⟨"english.txt"⟩).run shelf).result with
  | error failure =>
    have succeeds : ((buildLexicon overlapping ⟨"english.txt"⟩).run shelf).result.isOk = true := by decide +kernel
    simp [result, Except.isOk, Except.toBool] at succeeds
  | ok summary =>
    obtain ⟨redone, same, _⟩ := build_again proper result shelf_apart
    exact ⟨summary, proper, rfl, redone, same⟩

end Wordbook
