import Wordbook.FileTree

/-! The configuration of a build: the root of the source tree, and where in it the class directories and
the tables are. Every path but the root is seen from the root unless it is absolute. -/
namespace Wordbook

/-- Where the sources of a build are. What is not set has the place that it conventionally has. -/
structure Config where
  sourceDir : Path := ⟨"."⟩
  nounsDir : Path := ⟨"nouns"⟩
  adjectivesDir : Path := ⟨"adjectives"⟩
  adverbsDir : Path := ⟨"adverbs"⟩
  prepositionsDir : Path := ⟨"prepositions"⟩
  verbDirs : List Path := [⟨"verb_verbnet"⟩, ⟨"verb_custom"⟩]
  irregularNouns : Path := ⟨"irregular_noun_forms.json"⟩
  irregularVerbs : Path := ⟨"irregular_verb_forms.json"⟩
  indeclinable : Path := ⟨"indeclinable.json"⟩
deriving DecidableEq, Repr

namespace Config

/-- The path that a configured path means. -/
def resolve (config : Config) (path : Path) : Path := config.sourceDir.join path

/-- The directory of the noun classes. -/
def nounsPath (config : Config) : Path := config.resolve config.nounsDir

/-- The directory of the adjectives. -/
def adjectivesPath (config : Config) : Path := config.resolve config.adjectivesDir

/-- The directory of the adverbs. -/
def adverbsPath (config : Config) : Path := config.resolve config.adverbsDir

/-- The directory of the prepositions. -/
def prepositionsPath (config : Config) : Path := config.resolve config.prepositionsDir

/-- The directories of the verb classes, in the order in which they are read. -/
def verbPaths (config : Config) : List Path := config.verbDirs.map config.resolve

/-- The table of irregular nouns. -/
def irregularNounsPath (config : Config) : Path := config.resolve config.irregularNouns

/-- The table of irregular verbs. -/
def irregularVerbsPath (config : Config) : Path := config.resolve config.irregularVerbs

/-- The table of indeclinable words. -/
def indeclinablePath (config : Config) : Path := config.resolve config.indeclinable

/-- The tables, which must be there. -/
def tablePaths (config : Config) : List Path :=
  [config.irregularNounsPath, config.irregularVerbsPath, config.indeclinablePath]

/-- The class directories, each of which may be missing. -/
def classPaths (config : Config) : List Path :=
  config.verbPaths ++
    [config.adjectivesPath, config.adverbsPath, config.prepositionsPath, config.nounsPath]

/-- The configuration itself, provided that its root is a directory. -/
def validate (config : Config) (tree : FileTree) : Except Failure Config :=
  if tree.isDirectory config.sourceDir then .ok config else .error (.invalidSourceDir config.sourceDir)

end Config

end Wordbook
