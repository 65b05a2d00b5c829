import Wordbook.Proofs.Sources.Listing
import Wordbook.Proofs.Sources.Reading
import Wordbook.Proofs.Table

/-! Loading the sources. What a configuration names is read file after file: the tables, the verb directories as they
are listed, and the other directories, each by ascending file name. So the loading comes to what the files stand for if
all of them are sound, and otherwise to the fault of the first one that is not. The files of a directory are here those
that its scan comes to; but of the directory of the nouns only the files of classes are read, and each other one is
reported instead. -/
namespace Wordbook

/-- The paths of the files of a directory, given the names that count. -/
def filesIn (names : Path → List FileName) (dir : Path) : List Path := (names dir).map (fileIn dir)

/-- The tables, in the order in which they are read. -/
def Config.tableInputs (config : Config) : List Input :=
  [.of (Json.table? IrregularNoun.ofJson?) config.irregularNounsPath,
    .of (Json.table? IrregularVerb.ofJson?) config.irregularVerbsPath,
    .of (Json.table? Json.keys?) config.indeclinablePath]

/-- The class files, in the order in which they are read, given the names that count in each directory, and those that
count in the directory of the nouns. -/
def Config.classInputs (config : Config) (names nounNames : Path → List FileName) : List Input :=
  (config.verbPaths.flatMap (filesIn names)).map (.of VerbClass.ofJson?) ++
    (filesIn names config.adjectivesPath).map (.of WordClass.ofJson?) ++
    (filesIn names config.adverbsPath).map (.of WordClass.ofJson?) ++
    (filesIn names config.prepositionsPath).map (.of WordClass.ofJson?) ++
    (filesIn nounNames config.nounsPath).map (.of NounClass.ofJson?)

/-- The class directories but that of the nouns, whose files are read whatever they are called. -/
def Config.otherPaths (config : Config) : List Path :=
  config.verbPaths ++ [config.adjectivesPath, config.adverbsPath, config.prepositionsPath]

/-- All files, in the order in which they are read. -/
def Config.inputs (config : Config) (names nounNames : Path → List FileName) : List Input :=
  config.tableInputs ++ config.classInputs names nounNames

/-- The sources are what the files stand for: the tables, the records of each kind in the order of their files, and the
noun classes under the stems of the names of theirs. -/
structure Loaded (config : Config) (tree : FileTree) (names nounNames : Path → List FileName) (sources : Sources) :
    Prop where
  irregularNouns : StandsFor tree (Json.table? IrregularNoun.ofJson?) config.irregularNounsPath sources.irregular.nouns
  irregularVerbs : StandsFor tree (Json.table? IrregularVerb.ofJson?) config.irregularVerbsPath sources.irregular.verbs
  indeclinable : StandsFor tree (Json.table? Json.keys?) config.indeclinablePath sources.indeclinable
  verbs : List.Forall₂ (StandsFor tree VerbClass.ofJson?) (config.verbPaths.flatMap (filesIn names)) sources.verbs
  adjectives : List.Forall₂ (StandsFor tree WordClass.ofJson?) (filesIn names config.adjectivesPath) sources.adjectives
  adverbs : List.Forall₂ (StandsFor tree WordClass.ofJson?) (filesIn names config.adverbsPath) sources.adverbs
  prepositions :
    List.Forall₂ (StandsFor tree WordClass.ofJson?) (filesIn names config.prepositionsPath) sources.prepositions
  nouns : ∀ stem cls, sources.nouns[stem]? = some cls ↔ ∃ name ∈ nounNames config.nounsPath,
    FileName.stem name = .ofText stem ∧ StandsFor tree NounClass.ofJson? (fileIn config.nounsPath name) cls

/-- Loading is exact with the names that count: it succeeds if all inputs are sound, with what they stand for, and
otherwise fails with the fault of the first one that is not. -/
structure LoadsExactly (config : Config) (tree : FileTree) (names nounNames : Path → List FileName) : Prop where
  succeeds_iff : (∃ sources, (Sources.load config tree).result = .ok sources) ↔
    ∀ input ∈ config.inputs names nounNames, Sound tree input
  loaded : ∀ sources, (Sources.load config tree).result = .ok sources → Loaded config tree names nounNames sources
  firstFault : ∀ failure, (Sources.load config tree).result = .error failure →
    FirstFault tree (config.inputs names nounNames) failure

variable {α : Type} {config : Config} {tree : FileTree} {names nounNames : Path → List FileName}
variable {ofJson? : Json → Option α}

theorem exists_of_forall₂ {α β : Type} {R : α → β → Prop} {first : List α} {second : List β} {item : β}
    (all : List.Forall₂ R first second) (member : item ∈ second) : ∃ other ∈ first, R other item := by
  induction all with
  | nil => cases member
  | cons related _ ih =>
    rcases List.mem_cons.1 member with rfl | member
    · exact ⟨_, List.mem_cons_self, related⟩
    · obtain ⟨other, found, related⟩ := ih member
      exact ⟨other, List.mem_cons_of_mem _ found, related⟩

theorem nounFile_mem_inputs {name : FileName} (listed : name ∈ nounNames config.nounsPath) :
    .of NounClass.ofJson? (fileIn config.nounsPath name) ∈ config.inputs names nounNames :=
  List.mem_append_right _ (List.mem_append_right _ (List.mem_map_of_mem (List.mem_map_of_mem listed)))

/-! ## Directories -/

section Directory
variable {dir : Path} (same : names dir = reachedNames tree dir)
include same

/-- A scan reads no file. -/
theorem answers_scanDirectory : Answers tree [] (scanDirectory tree dir).result (· = names dir) := by
  rw [result_scanDirectory, same]
  exact answers_pure rfl

theorem answers_loadClasses (ofJson? : Json → Option α) :
    Answers tree ((filesIn names dir).map (.of ofJson?)) (loadClasses tree ofJson? dir).result
      (List.Forall₂ (StandsFor tree ofJson?) (filesIn names dir)) := by
  refine (answers_scanDirectory same).run_bind ?_
  rintro _ rfl
  rw [filesIn, List.map_map]
  refine (answers_mapM (fun name => answers_readData tree ofJson? (fileIn dir name)) _).mono fun values all => ?_
  exact List.forall₂_map_left_iff.2 all

end Directory

section Named
variable {dir : Path}

/-- Which class a data file is the file of, if it is that of one. -/
theorem FileName.className?_eq_some_iff {name : FileName} {cls : String} :
    className? name = some cls ↔ stem name = .ofText cls := Bytes.text?_eq_some_iff

/-- A file of a directory stands for an entry of a table: a value, under the stem of its name. -/
def StandsForEntry (tree : FileTree) (ofJson? : Json → Option α) (dir : Path) (name : FileName) (entry : String × α) :
    Prop :=
  FileName.stem name = .ofText entry.1 ∧ StandsFor tree ofJson? (fileIn dir name) entry.2

/-- What is read of a list of files is what those stand for that are files of classes. -/
theorem answers_readNamed (tree : FileTree) (ofJson? : Json → Option α) (dir : Path) (listed : List FileName) :
    Answers tree ((filesIn (classNames fun _ => listed) dir).map (.of ofJson?))
      (readNamed tree ofJson? dir listed).result
      (List.Forall₂ (StandsForEntry tree ofJson? dir) (classNames (fun _ => listed) dir)) := by
  induction listed with
  | nil => exact answers_pure .nil
  | cons name rest ih =>
    rw [readNamed]
    cases named : FileName.className? name with
    | none =>
      have passed : classNames (fun _ => name :: rest) dir = classNames (fun _ => rest) dir :=
        List.filter_cons_of_neg (by simp [named])
      rw [filesIn, passed]
      exact ih
    | some cls =>
      have kept : classNames (fun _ => name :: rest) dir = name :: classNames (fun _ => rest) dir :=
        List.filter_cons_of_pos (by simp [named])
      rw [filesIn, kept, List.map_cons, List.map_cons, ← List.singleton_append]
      dsimp only
      refine .run_bind (answers_readData tree ofJson? (fileIn dir name)) fun value stands => ?_
      rw [← List.append_nil (List.map _ _)]
      exact .run_bind ih fun entries all => answers_pure (.cons ⟨FileName.className?_eq_some_iff.1 named, stands⟩ all)

/-- Records under the stems of the names of their files. No two names of data files have the same stem. -/
theorem getElem?_stems {entries : List (String × α)}
    (all : List.Forall₂ (StandsForEntry tree ofJson? dir) (classNames (reachedNames tree) dir) entries)
    (stem : String) (value : α) : (Std.ExtTreeMap.ofList entries)[stem]? = some value ↔
      ∃ name ∈ classNames (reachedNames tree) dir,
        FileName.stem name = .ofText stem ∧ StandsFor tree ofJson? (fileIn dir name) value := by
  have stems : (classNames (reachedNames tree) dir).map FileName.stem = entries.map fun entry => .ofText entry.1 := by
    rw [← List.forall₂_eq_eq_eq, List.forall₂_map_left_iff, List.forall₂_map_right_iff]
    exact all.imp fun _ _ related => related.1
  have distinct : entries.Pairwise fun first second => first.1 ≠ second.1 := by
    have apart := nodup_classStems tree dir
    rw [stems, List.Nodup, List.pairwise_map] at apart
    exact apart.imp fun different same => different (congrArg Bytes.ofText same)
  rw [getElem?_ofList_iff distinct]
  constructor
  · intro member
    obtain ⟨name, found, key, stands⟩ := exists_of_forall₂ all member
    exact ⟨name, found, key, stands⟩
  · rintro ⟨name, found, named, stands⟩
    obtain ⟨⟨_, _⟩, member, named', stands'⟩ := exists_of_forall₂ all.flip found
    cases stands.unique stands'
    cases Bytes.ofText_injective (named.symm.trans named')
    exact member

theorem answers_loadNamedClasses (ofJson? : Json → Option α)
    (same : nounNames dir = classNames (reachedNames tree) dir) :
    Answers tree ((filesIn nounNames dir).map (.of ofJson?)) (loadNamedClasses tree ofJson? dir).result
      fun table => ∀ stem value, table[stem]? = some value ↔ ∃ name ∈ nounNames dir,
        FileName.stem name = .ofText stem ∧ StandsFor tree ofJson? (fileIn dir name) value := by
  refine .run_bind (answers_scanDirectory rfl) ?_
  rintro _ rfl
  rw [filesIn, same, ← List.append_nil (List.map _ _)]
  exact .run_bind (answers_readNamed tree ofJson? dir _) fun entries all => answers_pure (getElem?_stems all)

end Named

theorem answers_loadAllClasses (ofJson? : Json → Option α) {dirs : List Path}
    (same : ∀ dir ∈ dirs, names dir = reachedNames tree dir) :
    Answers tree ((dirs.flatMap (filesIn names)).map (.of ofJson?)) (loadAllClasses tree ofJson? dirs).result
      (List.Forall₂ (StandsFor tree ofJson?) (dirs.flatMap (filesIn names))) := by
  induction dirs with
  | nil => exact answers_pure .nil
  | cons dir rest ih =>
    obtain ⟨here, later⟩ := List.forall_mem_cons.1 same
    rw [loadAllClasses, List.flatMap_cons, List.map_append]
    refine (answers_loadClasses here ofJson?).run_bind fun first allFirst => ?_
    rw [← List.append_nil (List.map _ (rest.flatMap _))]
    refine (ih later).run_bind fun more allMore => answers_pure ?_
    exact List.rel_append allFirst allMore

/-! ## All sources -/

/-- Everything is read one after the other, and the sources are made of what is read. -/
theorem answers_load (same : ∀ dir ∈ config.otherPaths, names dir = reachedNames tree dir)
    (sameNouns : nounNames config.nounsPath = classNames (reachedNames tree) config.nounsPath) :
    Answers tree (config.inputs names nounNames) (Sources.load config tree).result
      (Loaded config tree names nounNames) := by
  have order : config.inputs names nounNames =
      [.of (Json.table? IrregularNoun.ofJson?) config.irregularNounsPath] ++
      ([.of (Json.table? IrregularVerb.ofJson?) config.irregularVerbsPath] ++
      ([.of (Json.table? Json.keys?) config.indeclinablePath] ++
      ((config.verbPaths.flatMap (filesIn names)).map (.of VerbClass.ofJson?) ++
      ((filesIn names config.adjectivesPath).map (.of WordClass.ofJson?) ++
      ((filesIn names config.adverbsPath).map (.of WordClass.ofJson?) ++
      ((filesIn names config.prepositionsPath).map (.of WordClass.ofJson?) ++
      ((filesIn nounNames config.nounsPath).map (.of NounClass.ofJson?) ++ []))))))) := by
    simp only [Config.inputs, Config.tableInputs, Config.classInputs, List.append_assoc, List.append_nil,
      List.cons_append, List.nil_append]
  simp only [Config.otherPaths, List.forall_mem_append, List.forall_mem_cons] at same
  obtain ⟨sameVerbs, sameAdjectives, sameAdverbs, samePrepositions, _⟩ := same
  rw [order]
  -- Each step reads the files that stand in front of what is left of the list.
  unfold Sources.load
  refine .run_bind (answers_readData _ _ _) fun irregularNouns readNouns => ?_
  refine .run_bind (answers_readData _ _ _) fun irregularVerbs readVerbs => ?_
  refine .run_bind (answers_readData _ _ _) fun indeclinable readIndeclinable => ?_
  refine .run_bind (answers_loadAllClasses _ sameVerbs) fun verbs allVerbs => ?_
  refine .run_bind (answers_loadClasses sameAdjectives _) fun adjectives allAdjectives => ?_
  refine .run_bind (answers_loadClasses sameAdverbs _) fun adverbs allAdverbs => ?_
  refine .run_bind (answers_loadClasses samePrepositions _) fun prepositions allPrepositions => ?_
  refine .run_bind (answers_loadNamedClasses _ sameNouns) fun nouns namedNouns => ?_
  exact answers_pure ⟨readNouns, readVerbs, readIndeclinable, allVerbs, allAdjectives, allAdverbs, allPrepositions,
    namedNouns⟩

theorem loadsExactly_of_same (same : ∀ dir ∈ config.otherPaths, names dir = reachedNames tree dir)
    (sameNouns : nounNames config.nounsPath = classNames (reachedNames tree) config.nounsPath) :
    LoadsExactly config tree names nounNames := by
  have answers := answers_load same sameNouns
  exact ⟨answers.ok_iff, fun _ => answers.of_ok, fun _ => answers.of_error⟩

/-- What was loaded is what the files stand for that the scans come to. -/
theorem loaded_of_load {sources : Sources} (loads : (Sources.load config tree).result = .ok sources) :
    Loaded config tree (reachedNames tree) (classNames (reachedNames tree)) sources :=
  (loadsExactly_of_same (fun _ _ => rfl) rfl).loaded sources loads

/-! ## Trees without irregular and indeclinable words -/

/-- A tree with three empty tables and what else there is. -/
def withEmptyTables (others : List (Location × Entry)) : FileTree := .ofList (
  (["irregular_noun_forms.json"], .file "\x7b\x7d".toUTF8) ::
  (["irregular_verb_forms.json"], .file "\x7b\x7d".toUTF8) ::
  (["indeclinable.json"], .file "\x7b\x7d".toUTF8) :: others)

end Wordbook
