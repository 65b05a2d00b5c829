import Wordbook.Proofs.Build
import Wordbook.Proofs.Sources.Loading
import Wordbook.Proofs.Verb.Families

/-! Which files a build cannot tell apart. What an assembly gathers only ever adds up, so it makes no difference in
which order records come, how often one comes, or which file it comes from. Two trees whose tables, noun classes and
records of each kind are the same come to the same lexicon, byte for byte, or to the same contradiction. -/
namespace Wordbook

/-- Sources with the same tables and noun classes and, of each other kind, the same records, in whatever order and
however often. -/
structure SameRecords (sources other : Sources) : Prop where
  indeclinable : other.indeclinable = sources.indeclinable
  irregular : other.irregular = sources.irregular
  nouns : other.nouns = sources.nouns
  adjectives : ∀ record, record ∈ other.adjectives ↔ record ∈ sources.adjectives
  adverbs : ∀ record, record ∈ other.adverbs ↔ record ∈ sources.adverbs
  prepositions : ∀ record, record ∈ other.prepositions ↔ record ∈ sources.prepositions
  verbs : ∀ record, record ∈ other.verbs ↔ record ∈ sources.verbs

/-- One of the files stands for a record. -/
def RecordAmong {α : Type} (tree : FileTree) (ofJson? : Json → Option α) (files : List Path) (record : α) : Prop :=
  ∃ file ∈ files, StandsFor tree ofJson? file record

/-- The files that a configuration leads to in one tree say the same as those that another one leads to in another
tree: the three tables have the same values, the noun classes are the same under the same names, and the records of
each other kind are the same, the verb directories taken together. -/
structure SameContents (config config' : Config) (tree tree' : FileTree) : Prop where
  irregularNouns : ∀ table, StandsFor tree' (Json.table? IrregularNoun.ofJson?) config'.irregularNounsPath table ↔
    StandsFor tree (Json.table? IrregularNoun.ofJson?) config.irregularNounsPath table
  irregularVerbs : ∀ table, StandsFor tree' (Json.table? IrregularVerb.ofJson?) config'.irregularVerbsPath table ↔
    StandsFor tree (Json.table? IrregularVerb.ofJson?) config.irregularVerbsPath table
  indeclinable : ∀ table, StandsFor tree' (Json.table? Json.keys?) config'.indeclinablePath table ↔
    StandsFor tree (Json.table? Json.keys?) config.indeclinablePath table
  nouns : ∀ stem cls,
    (∃ name ∈ classNames (reachedNames tree') config'.nounsPath, FileName.stem name = .ofText stem ∧
      StandsFor tree' NounClass.ofJson? (fileIn config'.nounsPath name) cls) ↔
    ∃ name ∈ classNames (reachedNames tree) config.nounsPath, FileName.stem name = .ofText stem ∧
      StandsFor tree NounClass.ofJson? (fileIn config.nounsPath name) cls
  adjectives : ∀ record,
    RecordAmong tree' WordClass.ofJson? (filesIn (reachedNames tree') config'.adjectivesPath) record ↔
    RecordAmong tree WordClass.ofJson? (filesIn (reachedNames tree) config.adjectivesPath) record
  adverbs : ∀ record,
    RecordAmong tree' WordClass.ofJson? (filesIn (reachedNames tree') config'.adverbsPath) record ↔
    RecordAmong tree WordClass.ofJson? (filesIn (reachedNames tree) config.adverbsPath) record
  prepositions : ∀ record,
    RecordAmong tree' WordClass.ofJson? (filesIn (reachedNames tree') config'.prepositionsPath) record ↔
    RecordAmong tree WordClass.ofJson? (filesIn (reachedNames tree) config.prepositionsPath) record
  verbs : ∀ record,
    RecordAmong tree' VerbClass.ofJson? (config'.verbPaths.flatMap (filesIn (reachedNames tree'))) record ↔
    RecordAmong tree VerbClass.ofJson? (config.verbPaths.flatMap (filesIn (reachedNames tree))) record

variable {sources other : Sources} {filings others : List Filing} {nouns verbs : Table WordSet} {filing : Filing}
variable {config config' : Config} {tree tree' : FileTree}

/-! ## What adds up -/

/-- A category map depends on what is filed, and not on the order or on repetition. -/
theorem ofFilings_eq_of_mem_iff (same : ∀ filing, filing ∈ others ↔ filing ∈ filings) :
    CategoryMap.ofFilings others = CategoryMap.ofFilings filings := by
  have categories : (CategoryMap.ofFilings others).categories = (CategoryMap.ofFilings filings).categories := by
    apply eq_of_holds_iff
    · intro category
      simp only [mem_ofFilings, same]
    · intro category word
      simp only [holds_ofFilings, Puts, same]
  exact congrArg CategoryMap.mk categories

theorem verbCategories_eq_of_mem_iff {classes others : List VerbClass}
    (same : ∀ record, record ∈ others ↔ record ∈ classes) : verbCategories others = verbCategories classes := by
  have holds (tag verb : String) :
      Holds (verbCategories others) tag verb ↔ Holds (verbCategories classes) tag verb := by
    simp only [holds_verbCategories, verbFindings, List.mem_flatMap, same]
  apply eq_of_holds_iff
  · intro tag
    simp only [mem_verbCategories, holds]
  · exact holds

theorem carriedWords_eq_of_mem_iff {classes others : List WordClass}
    (same : ∀ record, record ∈ others ↔ record ∈ classes) : carriedWords others = carriedWords classes := by
  apply Std.ExtTreeSet.ext_mem
  intro word
  simp only [mem_carriedWords, same]

namespace SameRecords

theorem mem_filings (same : SameRecords sources other) :
    filing ∈ other.filings nouns verbs ↔ filing ∈ sources.filings nouns verbs := by
  simp only [Sources.filings, List.mem_append, List.mem_flatMap, same.indeclinable, same.irregular, same.nouns,
    same.adjectives, same.adverbs, same.prepositions, carriedWords_eq_of_mem_iff same.adjectives]

/-- An assembly depends on the records alone. -/
theorem result_assemble (same : SameRecords sources other) : (assemble other).result = (assemble sources).result := by
  have resolution : resolveNouns other.nouns = resolveNouns sources.nouns := by rw [same.nouns]
  cases outcome : (resolveNouns sources.nouns).outcome with
  | error mismatch =>
    rw [result_assemble_of_error outcome, result_assemble_of_error (resolution ▸ outcome)]
  | ok nouns =>
    rw [result_assemble_of_ok outcome, result_assemble_of_ok (resolution ▸ outcome),
      verbCategories_eq_of_mem_iff same.verbs, ofFilings_eq_of_mem_iff fun _ => same.mem_filings]

end SameRecords

/-! ## What files say -/

section Files
variable {α : Type} {ofJson? : Json → Option α}

/-- The records that were read are those that some file stands for. -/
theorem mem_iff_recordAmong {files : List Path} {records : List α} {record : α}
    (all : List.Forall₂ (StandsFor tree ofJson?) files records) :
    record ∈ records ↔ RecordAmong tree ofJson? files record := by
  constructor
  · exact exists_of_forall₂ all
  · rintro ⟨file, listed, stands⟩
    obtain ⟨read, member, stands'⟩ := exists_of_forall₂ all.flip listed
    exact stands.unique stands' ▸ member

/-- Files stand for the same records just if the same records were read from them. -/
theorem recordAmong_same_iff {files files' : List Path} {records records' : List α}
    (all : List.Forall₂ (StandsFor tree ofJson?) files records)
    (all' : List.Forall₂ (StandsFor tree' ofJson?) files' records') :
    (∀ record, RecordAmong tree' ofJson? files' record ↔ RecordAmong tree ofJson? files record) ↔
      ∀ record, record ∈ records' ↔ record ∈ records := by
  simp only [mem_iff_recordAmong all, mem_iff_recordAmong all']

/-- Two files stand for the same value just if the same value was read from them. -/
theorem standsFor_same_iff {file file' : Path} {value value' : α} (stands : StandsFor tree ofJson? file value)
    (stands' : StandsFor tree' ofJson? file' value') :
    (∀ found, StandsFor tree' ofJson? file' found ↔ StandsFor tree ofJson? file found) ↔ value' = value := by
  constructor
  · exact fun same => ((same value').1 stands').unique stands
  · rintro rfl found
    exact ⟨fun other => other.unique stands' ▸ stands, fun other => other.unique stands ▸ stands'⟩

end Files

/-- Two loads come to the same records just if the files say the same. -/
theorem sameContents_iff (loaded : Loaded config tree (reachedNames tree) (classNames (reachedNames tree)) sources)
    (loaded' : Loaded config' tree' (reachedNames tree') (classNames (reachedNames tree')) other) :
    SameContents config config' tree tree' ↔ SameRecords sources other := by
  have irregularNouns := standsFor_same_iff loaded.irregularNouns loaded'.irregularNouns
  have irregularVerbs := standsFor_same_iff loaded.irregularVerbs loaded'.irregularVerbs
  have indeclinable := standsFor_same_iff loaded.indeclinable loaded'.indeclinable
  have adjectives := recordAmong_same_iff loaded.adjectives loaded'.adjectives
  have adverbs := recordAmong_same_iff loaded.adverbs loaded'.adverbs
  have prepositions := recordAmong_same_iff loaded.prepositions loaded'.prepositions
  have verbs := recordAmong_same_iff loaded.verbs loaded'.verbs
  have irregular : other.irregular = sources.irregular ↔
      other.irregular.nouns = sources.irregular.nouns ∧ other.irregular.verbs = sources.irregular.verbs := by
    cases other.irregular
    cases sources.irregular
    simp
  constructor
  · intro same
    refine ⟨indeclinable.1 same.indeclinable,
      irregular.2 ⟨irregularNouns.1 same.irregularNouns, irregularVerbs.1 same.irregularVerbs⟩, ?_,
      adjectives.1 same.adjectives, adverbs.1 same.adverbs, prepositions.1 same.prepositions, verbs.1 same.verbs⟩
    refine Std.ExtTreeMap.ext_getElem? fun stem => Option.ext fun cls => ?_
    rw [loaded.nouns, loaded'.nouns]
    exact same.nouns stem cls
  · intro same
    obtain ⟨sameNouns, sameVerbs⟩ := irregular.1 same.irregular
    refine ⟨irregularNouns.2 sameNouns, irregularVerbs.2 sameVerbs, indeclinable.2 same.indeclinable,
      fun stem cls => ?_, adjectives.2 same.adjectives, adverbs.2 same.adverbs, prepositions.2 same.prepositions,
      verbs.2 same.verbs⟩
    rw [← loaded.nouns, ← loaded'.nouns, same.nouns]

/-- Two trees that can be loaded and whose files say the same, whatever the names of the files are, in how many copies
they come and which directories they lie in. What is loaded from them cannot be told apart: both assemblies fail with
the same contradiction between noun classes, or both come to the same lexicon and the same numbers, and two builds
write the same text. -/
theorem assemble_of_sameContents (same : SameContents config config' tree tree')
    (loads : (Sources.load config tree).result = .ok sources)
    (loads' : (Sources.load config' tree').result = .ok other) :
    ((∃ mismatch, (assemble sources).result = .error (.countability mismatch) ∧
        (assemble other).result = .error (.countability mismatch)) ∨
      ∃ lexicon stats, (assemble sources).result = .ok (lexicon, stats) ∧
        (assemble other).result = .ok (lexicon, stats)) ∧
    ∀ output output' summary summary', ((buildLexicon config output).run tree).result = .ok summary →
      ((buildLexicon config' output').run tree').result = .ok summary' →
      summary'.stats = summary.stats ∧ ∃ text : String,
        ((buildLexicon config output).run tree).tree.readText output = .ok text ∧
        ((buildLexicon config' output').run tree').tree.readText output' = .ok text := by
  have records := (sameContents_iff (loaded_of_load loads) (loaded_of_load loads')).1 same
  have results := records.result_assemble
  constructor
  · cases outcome : (resolveNouns sources.nouns).outcome with
    | error mismatch =>
      have failed := result_assemble_of_error outcome
      exact .inl ⟨mismatch, failed, results.trans failed⟩
    | ok nouns =>
      have done := result_assemble_of_ok outcome
      exact .inr ⟨_, _, done, results.trans done⟩
  · intro output output' summary summary' done done'
    obtain ⟨_, lexicon, stats, reload, assembled, rfl, written⟩ := ok_of_buildLexicon done
    obtain ⟨_, lexicon', stats', reload', assembled', rfl, written'⟩ := ok_of_buildLexicon done'
    cases loads.symm.trans reload
    cases loads'.symm.trans reload'
    cases assembled'.symm.trans (results.trans assembled)
    exact ⟨rfl, _, FileTree.readText_of_find (FileTree.find_write written),
      FileTree.readText_of_find (FileTree.find_write written')⟩

/-! ## One larder, kept in two ways -/

def freshFile : Entry := .file "\x7b\"words\":\x7b\"fresh\":1\x7d,\"classes\":[\"adj\"]\x7d".toUTF8

def eatFile : Entry :=
  .file "\x7b\"members\":[\"eat\"],\"frames\":[\x7b\"primary\":[\"NP\",\"V\",\"NP\"]\x7d]\x7d".toUTF8

def boilFile : Entry :=
  .file "\x7b\"members\":[\"boil\"],\"frames\":[\x7b\"primary\":[\"NP\",\"V\"]\x7d]\x7d".toUTF8

/-- Every file is there once, and the verbs are in the two directories where they conventionally are. -/
def tidy : FileTree := withEmptyTables [
  (["adjectives"], .directory), (["fresh.json", "adjectives"], freshFile),
  (["verb_custom"], .directory), (["boil.json", "verb_custom"], boilFile),
  (["verb_verbnet"], .directory), (["eat.json", "verb_verbnet"], eatFile)]

/-- The same files under other names, one of them twice, with all verbs in one directory. -/
def untidy : FileTree := withEmptyTables [
  (["adjectives"], .directory), (["a.json", "adjectives"], freshFile), (["b.json", "adjectives"], freshFile),
  (["verbs"], .directory), (["a.json", "verbs"], boilFile), (["b.json", "verbs"], eatFile)]

/-- A configuration that names its only verb directory twice. -/
def repeating : Config where
  verbDirs := [⟨"verbs"⟩, ⟨"verbs"⟩]

def freshRecord : WordClass where
  words := .ofList ["fresh"]
  categories := ["adj"]

def eatRecord : VerbClass where
  members := ["eat"]
  frames := [{ primary := ["NP", "V", "NP"] }]

def boilRecord : VerbClass where
  members := ["boil"]
  frames := [{ primary := ["NP", "V"] }]

def tidySources : Sources where
  adjectives := [freshRecord]
  verbs := [eatRecord, boilRecord]

def untidySources : Sources where
  adjectives := [freshRecord, freshRecord]
  verbs := [boilRecord, eatRecord, boilRecord, eatRecord]

theorem sameRecords_untidy : SameRecords tidySources untidySources := by
  refine ⟨rfl, rfl, rfl, by simp [tidySources, untidySources], by simp [tidySources, untidySources],
    by simp [tidySources, untidySources], fun record => ?_⟩
  simp only [tidySources, untidySources, List.mem_cons, List.not_mem_nil, or_false]
  tauto

/-- However the files are kept, the same comes of them. -/
theorem untidy_assembled : (Sources.load {} tidy).result = .ok tidySources ∧
    (Sources.load repeating untidy).result = .ok untidySources ∧ SameContents {} repeating tidy untidy ∧
    ∃ lexicon stats, (assemble tidySources).result = .ok (lexicon, stats) ∧
      (assemble untidySources).result = .ok (lexicon, stats) := by
  have loads : (Sources.load {} tidy).result = .ok tidySources := by decide +kernel
  have loads' : (Sources.load repeating untidy).result = .ok untidySources := by decide +kernel
  have same := (sameContents_iff (loaded_of_load loads) (loaded_of_load loads')).2 sameRecords_untidy
  refine ⟨loads, loads', same, ?_⟩
  rcases (assemble_of_sameContents same loads loads').1 with ⟨mismatch, failed, _⟩ | both
  · cases (result_assemble_of_ok resolveNouns_empty).symm.trans failed
  · exact both

end Wordbook
