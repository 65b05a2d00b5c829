import Wordbook.Proofs.Sources.Loading
import Wordbook.Proofs.Sources.Skipping

/-! Data files that are passed over. A build skips a data file of the nouns if it is the file of no class, and says so.
But it skips a data file without a word if the path to it is too long, even though the path to its directory is not, and
so it may miss a fault, or report a later one in its place. Where that happens is settled here: for every other tree,
loading is exact with all the data files that there are, save those that it warns of. -/
namespace Wordbook

variable {config : Config} {tree : FileTree} {input : Input} {dir : Path} {name : FileName}

theorem mem_classNames {names : Path → List FileName} :
    name ∈ classNames names dir ↔ name ∈ names dir ∧ ∃ cls, FileName.stem name = .ofText cls := by
  simp only [classNames, List.mem_filter, Option.isSome_iff_exists, FileName.className?_eq_some_iff]

/-- The files whose names are left when only those count that are reached are the files that are reached. -/
theorem filesIn_of_reached {names reached : Path → List FileName}
    (same : ∀ dir, reached dir = (names dir).filter fun name => tree.isFile (fileIn dir name)) :
    filesIn reached = fun dir => (filesIn names dir).filter tree.isFile := by
  funext dir
  rw [filesIn, filesIn, same, List.filter_map]
  rfl

theorem classNames_reachedNames (tree : FileTree) (dir : Path) :
    classNames (reachedNames tree) dir =
      (classNames (presentNames tree) dir).filter fun name => tree.isFile (fileIn dir name) := by
  simp [classNames, reachedNames, List.filter_filter, Bool.and_comm]

theorem classInputs_reachedNames (config : Config) (tree : FileTree) :
    config.classInputs (reachedNames tree) (classNames (reachedNames tree)) =
      (config.classInputs (presentNames tree) (classNames (presentNames tree))).filter
        fun input => tree.isFile input.file := by
  have files : filesIn (reachedNames tree) = fun dir => (filesIn (presentNames tree) dir).filter tree.isFile :=
    filesIn_of_reached fun _ => rfl
  have classFiles := filesIn_of_reached (classNames_reachedNames tree)
  simp [Config.classInputs, files, classFiles, List.filter_append, List.filter_map, List.filter_flatMap,
    Function.comp_def, Input.of]

theorem files_classInputs (config : Config) (names nounNames : Path → List FileName) :
    (config.classInputs names nounNames).map Input.file =
      config.otherPaths.flatMap (filesIn names) ++ filesIn nounNames config.nounsPath := by
  simp [Config.classInputs, Config.otherPaths, Input.of, Function.comp_def]

/-- Where all inputs are sound, the path of each leads to it. -/
theorem reached_of_sound
    (sound : ∀ input ∈ config.inputs (presentNames tree) (classNames (presentNames tree)), Sound tree input) :
    (∀ dir ∈ config.otherPaths, presentNames tree dir = reachedNames tree dir) ∧
      classNames (presentNames tree) config.nounsPath = classNames (reachedNames tree) config.nounsPath := by
  have leads {file : Path} (listed : file ∈ config.otherPaths.flatMap (filesIn (presentNames tree)) ++
      filesIn (classNames (presentNames tree)) config.nounsPath) : tree.isFile file = true := by
    rw [← files_classInputs] at listed
    obtain ⟨input, among, rfl⟩ := List.mem_map.1 listed
    exact (sound input (List.mem_append_right _ among)).isFile
  constructor
  · refine fun dir member => (List.filter_eq_self.2 fun name present => ?_).symm
    exact leads (List.mem_append_left _ (List.mem_flatMap.2 ⟨dir, member, List.mem_map_of_mem present⟩))
  · rw [classNames_reachedNames]
    refine (List.filter_eq_self.2 fun name present => ?_).symm
    exact leads (List.mem_append_right _ (List.mem_map_of_mem present))

/-- A table is opened whatever its path leads to, a class file only if its path leads to a file. -/
def Noticed (config : Config) (tree : FileTree) (input : Input) : Prop :=
  input ∈ config.tableInputs ∨ tree.isFile input.file = true

/-- The first input that is not sound is so among the reached ones too, unless it is passed over. -/
theorem firstUnsound_reached
    (first : FirstUnsound tree (config.inputs (presentNames tree) (classNames (presentNames tree))) input)
    (noticed : Noticed config tree input) :
    FirstUnsound tree (config.inputs (reachedNames tree) (classNames (reachedNames tree))) input := by
  rw [Config.inputs, classInputs_reachedNames]
  rcases first.of_append with table | ⟨tablesSound, cls⟩
  · exact table.append_left
  · have there : tree.isFile input.file = true := by
      rcases noticed with table | there
      · exact absurd (tablesSound input table) first.not_sound
      · exact there
    exact .append_right tablesSound (cls.filter (fun _ sound => sound.isFile) there)

theorem loadsExactly_reachedNames (config : Config) (tree : FileTree) :
    LoadsExactly config tree (reachedNames tree) (classNames (reachedNames tree)) :=
  loadsExactly_of_same (fun _ _ => rfl) rfl

/-- Loading is exact with all data files that there are just if the first one with a fault is noticed. -/
theorem loadsExactly_presentNames_iff :
    LoadsExactly config tree (presentNames tree) (classNames (presentNames tree)) ↔
      ∀ input, FirstUnsound tree (config.inputs (presentNames tree) (classNames (presentNames tree))) input →
        Noticed config tree input := by
  have reached := loadsExactly_reachedNames config tree
  constructor
  · intro present input first
    by_contra passed
    obtain ⟨notTable, lost⟩ := not_or.1 passed
    cases result : (Sources.load config tree).result with
    | ok sources => exact first.not_sound (present.succeeds_iff.1 ⟨sources, result⟩ input first.mem)
    | error failure =>
      obtain ⟨_, first', faulty⟩ := present.firstFault failure result
      cases first.unique first'
      -- The failure names one file, so the input that it is really about has the path of the one passed over.
      obtain ⟨other, firstOther, faultyOther⟩ := reached.firstFault failure result
      rcases List.mem_append.1 firstOther.mem with table | cls
      · rcases first.of_append with inTables | ⟨tablesSound, _⟩
        · exact notTable inTables.mem
        · exact firstOther.not_sound (tablesSound other table)
      · rw [classInputs_reachedNames, List.mem_filter, ← faulty.file_eq faultyOther] at cls
        exact lost cls.2
  · intro noticed
    by_cases sound : ∀ input ∈ config.inputs (presentNames tree) (classNames (presentNames tree)), Sound tree input
    · obtain ⟨same, sameNouns⟩ := reached_of_sound sound
      exact loadsExactly_of_same same sameNouns
    · obtain ⟨input, first⟩ := exists_firstUnsound sound
      have firstReached := firstUnsound_reached first (noticed input first)
      have fails : ¬ ∃ sources, (Sources.load config tree).result = .ok sources := fun done =>
        first.not_sound (reached.succeeds_iff.1 done input firstReached.mem)
      refine ⟨⟨fun done => absurd done fails, fun all => absurd all sound⟩,
        fun sources result => absurd ⟨sources, result⟩ fails, fun failure result => ?_⟩
      obtain ⟨other, firstOther, faulty⟩ := reached.firstFault failure result
      cases firstReached.unique firstOther
      exact ⟨input, first, faulty⟩

/-- No file of a directory is passed over if the path of none is too long. -/
theorem reachedNames_of_fit (fit : ∀ name ∈ presentNames tree dir,
    ProperName name ∧ (fileIn dir name).bytes.length ≤ FileTree.pathLimit) :
    reachedNames tree dir = presentNames tree dir := by
  refine List.filter_eq_self.2 fun name present => ?_
  obtain ⟨proper, fits⟩ := fit name present
  by_contra lost
  have long := (isFile_fileIn_iff present proper).1 (Bool.eq_false_iff.2 lost)
  omega

/-- Loading the sources is exact with the data files that their paths lead to: all of them, but of those of the nouns
only the files of classes. The others are skipped, and each is reported. The data files of a directory are the files
right inside it with the right extension, in ascending order, and of those that have proper names only the ones are
passed over whose paths are too long. So loading is exact with all data files that there are, too, if no path is too
long; and in general it is just if the first input with a fault is noticed, if there is any. -/
theorem load_exact (config : Config) (tree : FileTree) :
    (∀ dir, (presentNames tree dir).Pairwise (· < ·) ∧ ∀ name, name ∈ presentNames tree dir ↔
      ∃ place content, tree.locate dir = .ok place ∧ tree.get? place = some .directory ∧
        tree.get? (name :: place) = some (.file content) ∧ FileName.extension? name = some ("json" : FileName)) ∧
    (∀ dir, ∀ name ∈ presentNames tree dir, ProperName name →
      (name ∉ reachedNames tree dir ↔ FileTree.pathLimit < (fileIn dir name).bytes.length)) ∧
    LoadsExactly config tree (reachedNames tree) (classNames (reachedNames tree)) ∧
    Skips (Sources.load config tree) (nameless (reachedNames tree) config.nounsPath) ∧
    (LoadsExactly config tree (presentNames tree) (classNames (presentNames tree)) ↔
      ∀ input, FirstUnsound tree (config.inputs (presentNames tree) (classNames (presentNames tree))) input →
        Noticed config tree input) ∧
    ((∀ dir ∈ config.classPaths, ∀ name ∈ presentNames tree dir,
        ProperName name ∧ (fileIn dir name).bytes.length ≤ FileTree.pathLimit) →
      LoadsExactly config tree (presentNames tree) (classNames (presentNames tree)) ∧
        Skips (Sources.load config tree) (nameless (presentNames tree) config.nounsPath)) := by
  refine ⟨fun dir => ⟨presentNames_ascending tree dir, fun name => mem_presentNames⟩, fun dir name present proper => ?_,
    loadsExactly_reachedNames config tree, skips_load tree config, loadsExactly_presentNames_iff, fun fit => ?_⟩
  · rw [← isFile_fileIn_iff present proper]
    simp [reachedNames, present]
  · have same {dir : Path} (member : dir ∈ config.classPaths) : reachedNames tree dir = presentNames tree dir :=
      reachedNames_of_fit (fit dir member)
    have nouns : reachedNames tree config.nounsPath = presentNames tree config.nounsPath :=
      same (by simp [Config.classPaths])
    have skips := skips_load tree config
    rw [nameless, nouns] at skips
    refine ⟨loadsExactly_of_same (fun dir member => (same ?_).symm) ?_, skips⟩
    · simp only [Config.otherPaths, Config.classPaths, List.mem_append, List.mem_cons] at member ⊢
      tauto
    · rw [classNames, classNames, nouns]

/-! ## A file that is skipped -/

/-- A load succeeds if the tables are empty and there is no class file. -/
theorem loads_of_empty (tables : config.tablePaths.map tree.find = .replicate 3 (.ok (.file "\x7b\x7d".toUTF8)))
    (others : config.otherPaths.flatMap (reachedNames tree) = [])
    (nouns : classNames (reachedNames tree) config.nounsPath = []) :
    ∃ sources, (Sources.load config tree).result = .ok sources := by
  have noFiles : config.otherPaths.flatMap (filesIn (reachedNames tree)) = [] := by
    refine List.flatMap_eq_nil_iff.2 fun dir member => ?_
    rw [filesIn, List.flatMap_eq_nil_iff.1 others dir member, List.map_nil]
  have files := files_classInputs config (reachedNames tree) (classNames (reachedNames tree))
  rw [noFiles, filesIn, nouns, List.map_nil, List.append_nil, List.map_eq_nil_iff] at files
  refine (loadsExactly_reachedNames config tree).succeeds_iff.2 ?_
  simp only [Config.tablePaths, List.map_cons, List.replicate_succ, List.cons.injEq] at tables
  obtain ⟨irregularNouns, irregularVerbs, indeclinable, _⟩ := tables
  rw [Config.inputs, files, List.append_nil]
  simp only [Config.tableInputs, List.forall_mem_cons]
  exact ⟨sound_of_find irregularNouns (by decide +kernel), sound_of_find irregularVerbs (by decide +kernel),
    sound_of_find indeclinable (by decide +kernel), by simp⟩

/-- A name that is no text. -/
def accented : FileName := Bytes.ofText "caf" ++ [0xE9] ++ Bytes.ofText ".json"

/-- A tree with three empty tables, and a file with such a name where the noun classes are. -/
def foreign (content : String) : FileTree := withEmptyTables [
  (["nouns"], .directory), ([accented, "nouns"], .file content.toUTF8)]

theorem presentNames_foreign (content : String) :
    presentNames (foreign content) ({} : Config).nounsPath = [accented] := rfl

/-- The loading succeeds whatever the file holds. -/
theorem load_foreign (content : String) :
    classNames (reachedNames (foreign content)) ({} : Config).nounsPath = [] ∧
      ∃ sources, (Sources.load {} (foreign content)).result = .ok sources := by
  have nouns : classNames (reachedNames (foreign content)) ({} : Config).nounsPath = [] := rfl
  exact ⟨nouns, loads_of_empty rfl rfl nouns⟩

/-- A load that succeeds is not exact with a data file of the nouns that is no good. -/
theorem not_loadsExactly_of_unsound {names nounNames : Path → List FileName}
    (loads : ∃ sources, (Sources.load config tree).result = .ok sources) (listed : name ∈ nounNames config.nounsPath)
    (unsound : ¬ Sound tree (.of NounClass.ofJson? (fileIn config.nounsPath name))) :
    ¬ LoadsExactly config tree names nounNames := by
  intro exact
  exact unsound (exact.succeeds_iff.1 loads _ (nounFile_mem_inputs listed))

/-! ## A file that is passed over -/

/-- A path to a directory of nouns that first stays where it is, a number of times. -/
def detour : Nat → Path
  | 0 => ⟨"nouns"⟩
  | steps + 1 => ⟨[Path.dot, Path.slash] ++ (detour steps).bytes⟩

/-- The name of a data file. -/
def unfinished : FileName := "unfinished_class_of_nouns_that_nobody_reads.json"

/-- A tree with three empty tables and a file of this name where the noun classes are. -/
def unread (content : String) : FileTree := withEmptyTables [
  (["nouns"], .directory), ([unfinished, "nouns"], .file content.toUTF8)]

theorem segments_detour (steps : Nat) : (detour (steps + 1)).segments = [Path.dot] :: (detour steps).segments := by
  have dot : [Path.dot].splitOn Path.slash = [[Path.dot]] := List.splitOn_eq_singleton (by decide)
  have pieces := List.splitOn_append_cons_self [Path.dot] (detour steps).bytes (a := Path.slash)
  simpa [Path.segments, detour, dot] using pieces

theorem length_detour (steps : Nat) : (detour steps).bytes.length = 2 * steps + 5 := by
  induction steps with
  | zero => rfl
  | succ steps ih =>
    rw [detour, List.length_append, ih, List.length_cons, List.length_singleton]
    omega

theorem locate_detour (content : String) {steps : Nat} (fits : 2 * steps + 5 ≤ FileTree.pathLimit) :
    (unread content).locate (detour steps) = .ok ["nouns"] := by
  have nul : 0 ∉ (detour steps).bytes := by
    clear fits
    induction steps with
    | zero => decide
    | succ steps ih => simp [detour, ih, Path.dot, Path.slash]
  have needed : FileTree.needPath (detour steps) = .ok () := by
    refine needPath_eq_ok_iff.2 ⟨nul, by rwa [length_detour], fun bare => ?_⟩
    have size := length_detour steps
    rw [bare] at size
    simp at size
  have followed : (detour steps).segments.foldlM (unread content).advance [] = .ok ["nouns"] := by
    clear fits nul needed
    induction steps with
    | zero => rfl
    | succ steps ih =>
      rw [segments_detour, List.foldlM_cons, (advance_idle_iff rfl).2 ⟨rfl, rfl⟩]
      exact ih
  have relative : (unread content).origin (detour steps) = [] := by
    unfold FileTree.origin
    split <;> rfl
  rw [FileTree.locate, needed, relative]
  exact followed

theorem presentNames_detour (content : String) {steps : Nat} (fits : 2 * steps + 5 ≤ FileTree.pathLimit) :
    presentNames (unread content) (detour steps) = [unfinished] := by
  have located := locate_detour content fits
  rw [presentNames, if_pos (isDirectory_iff.2 ⟨_, located, rfl⟩), fileNames_eq located]
  rfl

theorem properName_unfinished : ProperName unfinished := by decide

theorem length_fileIn_detour (steps : Nat) : 2 * steps + 53 ≤ (fileIn (detour steps) unfinished).bytes.length := by
  obtain ⟨joint, _, spelled⟩ := bytes_fileIn (detour steps) properName_unfinished.slash
  have name : unfinished.length = 48 := rfl
  rw [spelled, List.length_append, List.length_append, length_detour, name]
  omega

/-- A path may fit as long as it leads to the directory, and be too long once the name of the file is behind it. -/
theorem reachedNames_detour (content : String) {steps : Nat} (fits : 2 * steps + 5 ≤ FileTree.pathLimit)
    (long : FileTree.pathLimit < 2 * steps + 53) : reachedNames (unread content) (detour steps) = [] := by
  have present := presentNames_detour content fits
  have lost : (unread content).isFile (fileIn (detour steps) unfinished) = false := by
    rw [isFile_fileIn_iff (by simp [present]) properName_unfinished]
    exact Nat.lt_of_lt_of_le long (length_fileIn_detour steps)
  rw [reachedNames, present, List.filter_cons_of_neg (by simp [lost]), List.filter_nil]

/-- A configuration that takes a detour to the nouns. -/
def roundabout (steps : Nat) : Config where
  nounsDir := detour steps

theorem nounsPath_roundabout (steps : Nat) : (roundabout steps).nounsPath = detour (steps + 1) := by
  have relative : (detour steps).isAbsolute = false := by
    cases steps with
    | zero => decide
    | succ steps => rfl
  simp only [roundabout, Config.nounsPath, Config.resolve, Path.join, relative, Bool.false_eq_true, if_false]
  rfl

/-- The directory of the nouns is reached and the file in it is not, so the loading succeeds whatever the file holds. -/
theorem load_roundabout (content : String) {steps : Nat} (fits : 2 * (steps + 1) + 5 ≤ FileTree.pathLimit)
    (long : FileTree.pathLimit < 2 * (steps + 1) + 53) :
    presentNames (unread content) (roundabout steps).nounsPath = [unfinished] ∧
      reachedNames (unread content) (roundabout steps).nounsPath = [] ∧
      ∃ sources, (Sources.load (roundabout steps) (unread content)).result = .ok sources := by
  rw [nounsPath_roundabout]
  have reached := reachedNames_detour content fits long
  refine ⟨presentNames_detour content fits, reached, loads_of_empty rfl rfl ?_⟩
  rw [nounsPath_roundabout, classNames, reached, List.filter_nil]

/-- So it misses a fault in that file. -/
theorem not_loadsExactly_roundabout {steps : Nat} (fits : 2 * (steps + 1) + 5 ≤ FileTree.pathLimit)
    (long : FileTree.pathLimit < 2 * (steps + 1) + 53) :
    (∃ sources, (Sources.load (roundabout steps) (unread "\x7b")).result = .ok sources) ∧
      ¬ LoadsExactly (roundabout steps) (unread "\x7b") (presentNames (unread "\x7b"))
        (presentNames (unread "\x7b")) := by
  obtain ⟨present, reached, loads⟩ := load_roundabout "\x7b" fits long
  have listed : unfinished ∈ presentNames (unread "\x7b") (roundabout steps).nounsPath := by simp [present]
  refine ⟨loads, not_loadsExactly_of_unsound loads listed fun sound => ?_⟩
  have there : unfinished ∈ reachedNames (unread "\x7b") (roundabout steps).nounsPath :=
    List.mem_filter.2 ⟨listed, sound.isFile⟩
  rw [reached] at there
  cases there

/-- Neither fault is noticed: not the one in the file whose name is no text, and not the one in the file whose path is
too long. -/
theorem unread_not_loadsExactly :
    ((∃ sources, (Sources.load {} (foreign "\x7b")).result = .ok sources) ∧
      ¬ LoadsExactly {} (foreign "\x7b") (presentNames (foreign "\x7b")) (presentNames (foreign "\x7b"))) ∧
    (∃ sources, (Sources.load (roundabout 2030) (unread "\x7b")).result = .ok sources) ∧
      ¬ LoadsExactly (roundabout 2030) (unread "\x7b") (presentNames (unread "\x7b"))
        (presentNames (unread "\x7b")) := by
  obtain ⟨_, loads⟩ := load_foreign "\x7b"
  have listed : accented ∈ presentNames (foreign "\x7b") ({} : Config).nounsPath := by simp [presentNames_foreign]
  have malformed : (readData (foreign "\x7b") NounClass.ofJson? (fileIn ({} : Config).nounsPath accented)).isOk =
      false := by decide +kernel
  refine ⟨⟨loads, not_loadsExactly_of_unsound loads listed ?_⟩, not_loadsExactly_roundabout (by decide) (by decide)⟩
  simp [sound_iff_isOk, malformed]

end Wordbook
