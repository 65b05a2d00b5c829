import Mathlib.Data.List.TakeWhile
import Wordbook.CommandLine.Execution
import Wordbook.Proofs.Sources.Loading

/-! The paths that a run reads. A configuration file is written with paths of its own; the root among them is seen from
the directory of the file, unless a root is given by option, and all others are seen from that root. What is absolute
means itself at every stage. Only the root that comes out in the end has to be a directory, so one that is replaced
leaves no trace, whatever it is. -/
namespace Wordbook
open CommandLine

/-- What a document states of a path: the one under the key, or the conventional one if it does not have the key. -/
def StatesPath (entries : Toml.Entries) (key : String) (conventional path : Path) : Prop :=
  (∃ text, entries.lookup key = some (.string text) ∧ path = .mk text) ∨
    (entries.lookup key = none ∧ path = conventional)

/-- And so for a list of paths. -/
def StatesPaths (entries : Toml.Entries) (key : String) (conventional paths : List Path) : Prop :=
  (∃ texts : List String, entries.lookup key = some (.array (texts.map .string)) ∧ paths = texts.map .mk) ∨
    (entries.lookup key = none ∧ paths = conventional)

/-- A document states a configuration, setting by setting. -/
structure States (entries : Toml.Entries) (written : Config) : Prop where
  sourceDir : StatesPath entries "source_dir" ⟨"."⟩ written.sourceDir
  nounsDir : StatesPath entries "nouns_dir" ⟨"nouns"⟩ written.nounsDir
  adjectivesDir : StatesPath entries "adjectives_dir" ⟨"adjectives"⟩ written.adjectivesDir
  adverbsDir : StatesPath entries "adverbs_dir" ⟨"adverbs"⟩ written.adverbsDir
  prepositionsDir : StatesPath entries "prepositions_dir" ⟨"prepositions"⟩ written.prepositionsDir
  verbDirs : StatesPaths entries "verb_dirs" [⟨"verb_verbnet"⟩, ⟨"verb_custom"⟩] written.verbDirs
  irregularNouns : StatesPath entries "irregular_nouns" ⟨"irregular_noun_forms.json"⟩ written.irregularNouns
  irregularVerbs : StatesPath entries "irregular_verbs" ⟨"irregular_verb_forms.json"⟩ written.irregularVerbs
  indeclinable : StatesPath entries "indeclinable" ⟨"indeclinable.json"⟩ written.indeclinable

/-- A file holds a configuration as it is written, seen from nowhere yet. -/
def HoldsConfig (tree : FileTree) (file : Path) (written : Config) : Prop :=
  ∃ text entries, tree.readText file = .ok text ∧ Toml.parse? text = some entries ∧ States entries written

/-- The path that a written one means when it is seen from a directory. -/
def Path.seenFrom (path directory : Path) : Path := if path.isAbsolute then path else directory.join path

/-- What is read under a configuration are the written paths, each seen from the root. -/
structure ReadsFrom (root : Path) (written used : Config) : Prop where
  sourceDir : used.sourceDir = root
  nouns : used.nounsPath = written.nounsDir.seenFrom root
  adjectives : used.adjectivesPath = written.adjectivesDir.seenFrom root
  adverbs : used.adverbsPath = written.adverbsDir.seenFrom root
  prepositions : used.prepositionsPath = written.prepositionsDir.seenFrom root
  verbs : used.verbPaths = written.verbDirs.map (Path.seenFrom · root)
  irregularNouns : used.irregularNounsPath = written.irregularNouns.seenFrom root
  irregularVerbs : used.irregularVerbsPath = written.irregularVerbs.seenFrom root
  indeclinable : used.indeclinablePath = written.indeclinable.seenFrom root

/-- A run goes by a root and a written configuration: it stops if the root is no directory, and that is the only way in
which its configuration fails; otherwise it is the build of a configuration under which the written paths are seen from
the root, and it loads what is at those paths. -/
structure GoesBy (options : Options) (tree : FileTree) (root : Path) (written : Config) : Prop where
  succeeds : tree.isDirectory root = true → ∃ used, options.configuration tree = .ok used
  fails_iff : (∃ path, options.configuration tree = .error (.invalidSourceDir path)) ↔ tree.isDirectory root = false
  failure : ∀ failure, options.configuration tree = .error failure → failure = .invalidSourceDir root ∧
    options.build.run tree = { log := [], result := .error failure, tree := tree }
  reads : ∀ used, options.configuration tree = .ok used → ReadsFrom root written used ∧
    LoadsExactly used tree (reachedNames tree) (classNames (reachedNames tree)) ∧
    options.build.run tree = (buildLexicon used options.outputPath).run tree

variable {entries : Toml.Entries} {key : String} {conventional path file root : Path} {paths : List Path}
variable {written config : Config} {tree : FileTree} {options : Options} {location next : Location}
variable {pieces : List FileName}

/-! ## Settings as they are written -/

theorem path?_eq_some_iff {value : Toml.Value} :
    value.path? = some path ↔ ∃ text, value = .string text ∧ path = .mk text := by
  cases value with
  | string text => simp [Toml.Value.path?, eq_comm]
  | _ => simp [Toml.Value.path?]

theorem mapM_path?_eq_some_iff {items : List Toml.Value} :
    items.mapM Toml.Value.path? = some paths ↔
      ∃ texts : List String, items = texts.map .string ∧ paths = texts.map .mk := by
  induction items generalizing paths with
  | nil => simp [eq_comm]
  | cons item rest ih =>
    simp only [List.mapM_cons, Option.bind_eq_bind, Option.bind_eq_some_iff, path?_eq_some_iff, ih, Option.pure_def,
      Option.some.injEq]
    constructor
    · rintro ⟨_, ⟨text, rfl, rfl⟩, _, ⟨texts, rfl, rfl⟩, rfl⟩
      exact ⟨text :: texts, rfl, rfl⟩
    · rintro ⟨texts, spelled, rfl⟩
      cases texts with
      | nil => cases spelled
      | cons text texts =>
        rw [List.map_cons, List.cons.injEq] at spelled
        exact ⟨_, ⟨text, spelled.1, rfl⟩, _, ⟨texts, spelled.2, rfl⟩, rfl⟩

theorem paths?_eq_some_iff {value : Toml.Value} :
    value.paths? = some paths ↔ ∃ texts : List String, value = .array (texts.map .string) ∧ paths = texts.map .mk := by
  cases value with
  | array items => simp only [Toml.Value.paths?, mapM_path?_eq_some_iff, Toml.Value.array.injEq]
  | _ => simp [Toml.Value.paths?]

theorem setting?_path_iff :
    entries.setting? key Toml.Value.path? conventional = some path ↔ StatesPath entries key conventional path := by
  unfold Toml.Entries.setting? StatesPath
  cases entries.lookup key with
  | none => simp [eq_comm]
  | some value => simp [path?_eq_some_iff]

theorem setting?_paths_iff {conventional : List Path} :
    entries.setting? key Toml.Value.paths? conventional = some paths ↔ StatesPaths entries key conventional paths := by
  unfold Toml.Entries.setting? StatesPaths
  cases entries.lookup key with
  | none => simp [eq_comm]
  | some value => simp [paths?_eq_some_iff]

theorem ofToml?_eq_some_iff : Config.ofToml? entries = some written ↔ States entries written := by
  simp only [Config.ofToml?, Option.bind_eq_bind, Option.bind_eq_some_iff, setting?_path_iff, setting?_paths_iff]
  constructor
  · rintro ⟨_, sourceDir, _, nounsDir, _, adjectivesDir, _, adverbsDir, _, prepositionsDir, _, verbDirs,
      _, irregularNouns, _, irregularVerbs, _, indeclinable, ⟨⟩⟩
    exact ⟨sourceDir, nounsDir, adjectivesDir, adverbsDir, prepositionsDir, verbDirs, irregularNouns, irregularVerbs,
      indeclinable⟩
  · intro states
    exact ⟨_, states.sourceDir, _, states.nounsDir, _, states.adjectivesDir, _, states.adverbsDir,
      _, states.prepositionsDir, _, states.verbDirs, _, states.irregularNouns, _, states.irregularVerbs,
      _, states.indeclinable, rfl⟩

theorem holdsConfig_iff : HoldsConfig tree file written ↔
    ∃ text, tree.readText file = .ok text ∧ (Toml.parse? text).bind Config.ofToml? = some written := by
  simp only [HoldsConfig, ← ofToml?_eq_some_iff, Option.bind_eq_some_iff]
  exact exists_congr fun _ => ⟨fun ⟨entries, read, parsed, states⟩ => ⟨read, entries, parsed, states⟩,
    fun ⟨read, entries, parsed, states⟩ => ⟨entries, read, parsed, states⟩⟩

/-- A file that holds a configuration is read as it, seen from the file. -/
theorem HoldsConfig.read (holds : HoldsConfig tree file written) :
    Config.read tree file = .ok (written.seenFrom file) := by
  obtain ⟨text, read, parsed⟩ := holdsConfig_iff.1 holds
  simp [Config.read, read, parsed, Except.mapError, bind, Except.bind]

/-! ## The directory of a file -/

/-- Pieces that lead nowhere stay where they start, which is a directory. -/
theorem foldlM_idle (idle : ∀ piece ∈ pieces, Path.isIdle piece = true) (nonempty : pieces ≠ [])
    (followed : pieces.foldlM tree.advance location = .ok next) :
    next = location ∧ tree.get? location = some .directory := by
  induction pieces with
  | nil => exact absurd rfl nonempty
  | cons first rest ih =>
    obtain ⟨firstIdle, restIdle⟩ := List.forall_mem_cons.1 idle
    rw [List.foldlM_cons] at followed
    obtain ⟨middle, advanced, onward⟩ := FileTree.ok_of_bind followed
    obtain ⟨there, rfl⟩ := (advance_idle_iff firstIdle).1 advanced
    by_cases last : rest = []
    · subst last
      cases onward
      exact ⟨rfl, there⟩
    · exact ih restIdle last onward

/-- Only the pieces of a path that lead somewhere are kept, apart from the first one. -/
theorem idle_of_trimIdle_eq {first : FileName} {rest : List FileName}
    (trimmed : Path.trimIdle (first :: rest) = [[]]) : ∀ piece ∈ first :: rest, Path.isIdle piece = true := by
  simp only [Path.trimIdle, List.cons.injEq, List.reverse_eq_nil_iff, List.dropWhile_eq_nil_iff,
    List.mem_reverse] at trimmed
  obtain ⟨rfl, idle⟩ := trimmed
  exact List.forall_mem_cons.2 ⟨rfl, idle⟩

/-- A path without a directory part has no piece that leads anywhere. -/
theorem idle_of_parent?_eq_none (orphan : path.parent? = none) : ∀ piece ∈ path.segments, Path.isIdle piece = true := by
  cases pieces : path.segments with
  | nil => simp
  | cons first rest =>
    simp only [Path.parent?, pieces] at orphan
    split at orphan
    · rename_i trimmed
      cases trimmed
    · rename_i trimmed
      exact idle_of_trimIdle_eq trimmed
    · cases orphan
    · cases orphan

/-- A path that leads to a configuration file, or to any file, has a directory part. -/
theorem HoldsConfig.exists_parent (holds : HoldsConfig tree file written) :
    ∃ directory, file.parent? = some directory := by
  obtain ⟨_, _, read, _⟩ := holds
  refine Option.ne_none_iff_exists'.1 fun orphan => ?_
  have idle := idle_of_parent?_eq_none orphan
  obtain ⟨_, bytes, _⟩ := FileTree.ok_of_bind read
  obtain ⟨_, found, isFile⟩ := FileTree.ok_of_bind bytes
  obtain ⟨_, located, there⟩ := FileTree.ok_of_bind found
  obtain ⟨_, _, followed⟩ := FileTree.ok_of_bind located
  -- Without a directory part the path ends where it starts, and what is there is a directory and no file.
  obtain ⟨rfl, around⟩ := foldlM_idle idle (List.splitOn_ne_nil _ _) followed
  rw [around] at there
  cases there
  cases isFile

/-! ## Roots -/

theorem join_eq_seenFrom (directory path : Path) : directory.join path = path.seenFrom directory := by
  unfold Path.seenFrom
  split
  · rename_i absolute
    rw [Path.join, if_pos absolute]
  · rfl

theorem readsFrom (root : Path) (written : Config) : ReadsFrom root written { written with sourceDir := root } := by
  have resolves : ∀ path, Config.resolve { written with sourceDir := root } path = path.seenFrom root :=
    join_eq_seenFrom root
  exact ⟨rfl, resolves _, resolves _, resolves _, resolves _, List.map_congr_left fun path _ => resolves path,
    resolves _, resolves _, resolves _⟩

theorem seenFrom_of_parent {directory : Path} (parent : file.parent? = some directory) :
    written.seenFrom file = { written with sourceDir := written.sourceDir.seenFrom directory } := by
  unfold Config.seenFrom Path.seenFrom
  rw [parent]
  split <;> rfl

theorem settings_of_holds {directory : Path} (given : options.config = some file)
    (holds : HoldsConfig tree file written) (parent : file.parent? = some directory) : options.settings tree =
      .ok { written with sourceDir := options.sourceDir.getD (written.sourceDir.seenFrom directory) } := by
  have read := holds.read
  rw [seenFrom_of_parent parent] at read
  simp only [Options.settings, given, read, bind, Except.bind, pure, Except.pure]
  cases options.sourceDir <;> rfl

theorem settings_of_none (given : options.config = none) :
    options.settings tree = .ok { sourceDir := options.sourceDir.getD ⟨"."⟩ } := by
  simp only [Options.settings, given, bind, Except.bind, pure, Except.pure]
  cases options.sourceDir <;> rfl

/-- Settings become the configuration if their root is a directory. -/
theorem configuration_of_settings (settings : options.settings tree = .ok config) :
    options.configuration tree =
      if tree.isDirectory config.sourceDir then .ok config else .error (.invalidSourceDir config.sourceDir) := by
  rw [Options.configuration, settings]
  rfl

/-- A run whose settings are those of a configuration with another root goes by that root. -/
theorem goesBy_of_settings (settings : options.settings tree = .ok { written with sourceDir := root }) :
    GoesBy options tree root written := by
  have outcome := configuration_of_settings settings
  have build : options.build = Job.consult (fun tree => .ofExcept (options.configuration tree)) >>= fun config =>
    buildLexicon config options.outputPath := rfl
  cases there : tree.isDirectory root with
  | false =>
    simp only [there, Bool.false_eq_true, if_false] at outcome
    refine ⟨by simp [there], by simp [outcome, there], fun failure failed => ?_, fun used done => ?_⟩
    · cases outcome.symm.trans failed
      exact ⟨rfl, build ▸ Job.run_bind_of_error outcome⟩
    · cases outcome.symm.trans done
  | true =>
    simp only [there, if_true] at outcome
    refine ⟨fun _ => ⟨_, outcome⟩, by simp [outcome, there], fun failure failed => ?_, fun used done => ?_⟩
    · cases outcome.symm.trans failed
    · cases outcome.symm.trans done
      exact ⟨readsFrom root written, loadsExactly_of_same (fun _ _ => rfl) rfl, build ▸ Job.run_bind_of_ok outcome⟩

/-- A root given by option is the root of the settings, wherever the configuration is and whatever root it has. -/
theorem settings_of_root (given : options.sourceDir = some root) (holds : HoldsConfig tree file written) :
    Options.settings { options with config := some file } tree = .ok { written with sourceDir := root } := by
  obtain ⟨directory, parent⟩ := holds.exists_parent
  exact (settings_of_holds rfl holds parent).trans (by simp only [given, Option.getD_some])

/-- The paths that a run reads. With a configuration file, all written paths are seen from one root: the one given by
option, as it is given, or else the written one, seen from the directory part of the file. Without a file the
conventional paths are seen from the root given by option, or from where the run starts. What is absolute means itself
throughout. The run stops just if this root is no directory. With a root given by option, neither the written root nor
the place of the file makes any difference. -/
theorem effective_input_paths (options : Options) (tree : FileTree) :
    (∀ file written, options.config = some file → HoldsConfig tree file written →
      ∃ directory, file.parent? = some directory ∧
        GoesBy options tree (options.sourceDir.getD (written.sourceDir.seenFrom directory)) written) ∧
    (options.config = none → GoesBy options tree (options.sourceDir.getD ⟨"."⟩) {}) ∧
    ∀ root, options.sourceDir = some root → ∀ file file' tree' written stale, HoldsConfig tree file written →
      HoldsConfig tree' file' { written with sourceDir := stale } → tree'.isDirectory root = tree.isDirectory root →
        Options.configuration { options with config := some file' } tree' =
          Options.configuration { options with config := some file } tree := by
  refine ⟨fun file written given holds => ?_, fun absent => goesBy_of_settings (settings_of_none absent),
    fun root given file file' tree' written stale holds holds' same => ?_⟩
  · obtain ⟨directory, parent⟩ := holds.exists_parent
    exact ⟨directory, parent, goesBy_of_settings (settings_of_holds given holds parent)⟩
  · -- Both runs have the same settings, and of the trees only the root is looked at after that.
    rw [configuration_of_settings (settings_of_root given holds),
      configuration_of_settings (settings_of_root given holds'), same]

/-- A tree with a configuration whose root is not there any more, and the same configuration without a root. -/
def household : FileTree := .ofList [
  (["conf"], Entry.directory),
  (["lexicon.toml", "conf"], Entry.file
    "source_dir = \"moved_away\"\nnouns_dir = \"/shared/nouns\"\nverb_dirs = [\"frames\"]\n".toUTF8),
  (["lexicon.toml"], Entry.file "nouns_dir = \"/shared/nouns\"\nverb_dirs = [\"frames\"]\n".toUTF8),
  (["data"], Entry.directory)]

/-- The configuration in it, as it is written. -/
def householdConfig : Config where
  sourceDir := ⟨"moved_away"⟩
  nounsDir := ⟨"/shared/nouns"⟩
  verbDirs := [⟨"frames"⟩]

theorem household_holds : HoldsConfig household ⟨"conf/lexicon.toml"⟩ householdConfig ∧
    HoldsConfig household ⟨"lexicon.toml"⟩ { householdConfig with sourceDir := ⟨"."⟩ } := by
  constructor
  · exact holdsConfig_iff.2 ⟨_, FileTree.readText_of_find rfl, by decide +kernel⟩
  · exact holdsConfig_iff.2 ⟨_, FileTree.readText_of_find rfl, by decide +kernel⟩

/-- The stale root stops a run that goes by it, and makes no difference to one that is given another root. -/
theorem household_paths :
    parse ["-c", "conf/lexicon.toml", "-s", "data"] =
      .ok (.build { config := some ⟨"conf/lexicon.toml"⟩, sourceDir := some ⟨"data"⟩ }) ∧
    (∃ used, Options.configuration { config := some ⟨"conf/lexicon.toml"⟩, sourceDir := some ⟨"data"⟩ } household =
        .ok used ∧ used.nounsPath = ⟨"/shared/nouns"⟩ ∧ used.verbPaths = [⟨"data/frames"⟩] ∧
      used.adverbsPath = ⟨"data/adverbs"⟩) ∧
    Options.configuration { config := some ⟨"lexicon.toml"⟩, sourceDir := some ⟨"data"⟩ } household =
      Options.configuration { config := some ⟨"conf/lexicon.toml"⟩, sourceDir := some ⟨"data"⟩ } household ∧
    ∃ path, Options.configuration { config := some ⟨"conf/lexicon.toml"⟩ } household =
      .error (.invalidSourceDir path) := by
  obtain ⟨holds, holdsRootless⟩ := household_holds
  obtain ⟨withFile, _, anyRoot⟩ := effective_input_paths
    { config := some ⟨"conf/lexicon.toml"⟩, sourceDir := some ⟨"data"⟩ } household
  obtain ⟨fromFile, _, _⟩ := effective_input_paths { config := some ⟨"conf/lexicon.toml"⟩ } household
  refine ⟨by decide +kernel, ?_, ?_, ?_⟩
  · obtain ⟨_, _, goes⟩ := withFile _ _ rfl holds
    change GoesBy _ household ⟨"data"⟩ householdConfig at goes
    obtain ⟨used, done⟩ := goes.succeeds (by decide +kernel)
    obtain ⟨reads, _⟩ := goes.reads used done
    exact ⟨used, done, reads.nouns.trans (by decide), reads.verbs.trans (by decide), reads.adverbs.trans (by decide)⟩
  · exact anyRoot _ rfl _ _ _ _ _ holds holdsRootless rfl
  · obtain ⟨directory, parent, goes⟩ := fromFile _ _ rfl holds
    cases (show Path.parent? ⟨"conf/lexicon.toml"⟩ = some ⟨"conf"⟩ by decide).symm.trans parent
    exact goes.fails_iff.2 (by decide +kernel)

end Wordbook
