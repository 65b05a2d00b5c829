import Wordbook.Config.Basic
import Wordbook.Toml.Document

/-! Configuration files. A file sets what it names and leaves the rest as it conventionally is. A root that
is not absolute is seen from the directory that holds the file, so a configuration keeps its meaning
wherever the program is started. -/
namespace Wordbook

namespace Toml

/-- A value as a path. -/
def Value.path? : Value → Option Path
  | .string text => some (.mk text)
  | _ => none

/-- A value as a list of paths. -/
def Value.paths? : Value → Option (List Path)
  | .array items => items.mapM Value.path?
  | _ => none

/-- The setting under a key, or what holds when there is none. A value of another kind is a fault. -/
def Entries.setting? {α : Type} (entries : Entries) (key : String) (read : Value → Option α)
    (fallback : α) : Option α :=
  match entries.lookup key with
  | none => some fallback
  | some value => read value

end Toml

namespace Config

/-- The configuration that the settings of a file make. Keys that mean nothing here are passed over. -/
def ofToml? (entries : Toml.Entries) : Option Config := do
  let conventional : Config := {}
  return {
    sourceDir := ← entries.setting? "source_dir" Toml.Value.path? conventional.sourceDir
    nounsDir := ← entries.setting? "nouns_dir" Toml.Value.path? conventional.nounsDir
    adjectivesDir := ← entries.setting? "adjectives_dir" Toml.Value.path? conventional.adjectivesDir
    adverbsDir := ← entries.setting? "adverbs_dir" Toml.Value.path? conventional.adverbsDir
    prepositionsDir := ←
      entries.setting? "prepositions_dir" Toml.Value.path? conventional.prepositionsDir
    verbDirs := ← entries.setting? "verb_dirs" Toml.Value.paths? conventional.verbDirs
    irregularNouns := ← entries.setting? "irregular_nouns" Toml.Value.path? conventional.irregularNouns
    irregularVerbs := ← entries.setting? "irregular_verbs" Toml.Value.path? conventional.irregularVerbs
    indeclinable := ← entries.setting? "indeclinable" Toml.Value.path? conventional.indeclinable }

/-- The configuration as it is seen from the file that holds it. -/
def seenFrom (config : Config) (file : Path) : Config :=
  if config.sourceDir.isAbsolute then config
  else match file.parent? with
    | some directory => { config with sourceDir := directory.join config.sourceDir }
    | none => config

/-- The configuration that a file holds. Whether its root is a directory is left open. -/
def read (tree : FileTree) (file : Path) : Except Failure Config := do
  let text ← (tree.readText file).mapError (.unreadable file)
  match (Toml.parse? text).bind ofToml? with
  | some config => .ok (config.seenFrom file)
  | none => .error (.malformedConfig file)

/-- The configuration that a file holds, provided that its root is a directory. -/
def load (tree : FileTree) (file : Path) : Except Failure Config := do
  (← read tree file).validate tree

end Config

end Wordbook
