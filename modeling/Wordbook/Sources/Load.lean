import Wordbook.Config.Basic
import Wordbook.Run
import Wordbook.Sources.FileName
import Wordbook.Sources.Records

/-! Loading the sources of a build. The three tables must be there; a class directory may be missing, which
is reported and then taken as an empty one. The files are read in a fixed order and the first one that
cannot be read ends the loading. -/
namespace Wordbook

/-- The value of a data file. -/
def readData {α : Type} (tree : FileTree) (ofJson? : Json → Option α) (file : Path) :
    Except Failure α := do
  let text ← (tree.readText file).mapError (.unreadable file)
  match (Json.parse? text).bind ofJson? with
  | some value => .ok value
  | none => .error (.malformedJson file)

/-- The lexicon that a file holds. The text of the file is taken as JSON from the first byte on, so
anything that a file can hold is either a lexicon or no good JSON, and so is a directory. -/
def Lexicon.load (tree : FileTree) (file : Path) : Except Failure Lexicon :=
  match tree.find file with
  | .error fault => .error (.unreadable file fault)
  | .ok .directory => .error (.malformedJson file)
  | .ok (.file content) =>
    match (String.fromUTF8? content).bind fun text => (Json.parse? text).bind Lexicon.ofJson? with
    | some lexicon => .ok lexicon
    | none => .error (.malformedJson file)

/-- The path of a file of a directory. -/
def fileIn (dir : Path) (name : FileName) : Path := dir.join ⟨name⟩

/-- The names of the data files right inside a directory, in ascending order. Files whose path through the
directory is too long to be followed are passed over. -/
def dataFileNames (tree : FileTree) (dir : Path) : List FileName :=
  (tree.fileNames dir).filter fun name => FileName.isData name && tree.isFile (fileIn dir name)

/-- The names of the data files of a directory that may be missing. -/
def scanDirectory (tree : FileTree) (dir : Path) : Run (List FileName) :=
  if tree.isDirectory dir then pure (dataFileNames tree dir)
  else do
    .report [.directoryMissing dir]
    return []

/-- The values of the data files of a directory, by ascending file name. -/
def loadClasses {α : Type} (tree : FileTree) (ofJson? : Json → Option α) (dir : Path) :
    Run (List α) := do
  let names ← scanDirectory tree dir
  .ofExcept (names.mapM fun name => readData tree ofJson? (fileIn dir name))

/-- The values of files of a directory, each with the class that it is the file of. A file that is the file of
no class is reported and passed over, whatever it holds. -/
def readNamed {α : Type} (tree : FileTree) (ofJson? : Json → Option α) (dir : Path) :
    List FileName → Run (List (String × α))
  | [] => pure []
  | name :: rest =>
    match FileName.className? name with
    | none => do
      .report [.fileSkipped (fileIn dir name)]
      readNamed tree ofJson? dir rest
    | some cls => do
      let value ← .ofExcept (readData tree ofJson? (fileIn dir name))
      return (cls, value) :: (← readNamed tree ofJson? dir rest)

/-- The values of the data files of a directory, under the stems of their names. -/
def loadNamedClasses {α : Type} (tree : FileTree) (ofJson? : Json → Option α) (dir : Path) :
    Run (Table α) := do
  let names ← scanDirectory tree dir
  return Std.ExtTreeMap.ofList (← readNamed tree ofJson? dir names)

/-- The values of the data files of several directories, one directory after the other. -/
def loadAllClasses {α : Type} (tree : FileTree) (ofJson? : Json → Option α) :
    List Path → Run (List α)
  | [] => pure []
  | dir :: rest => do
    let here ← loadClasses tree ofJson? dir
    return here ++ (← loadAllClasses tree ofJson? rest)

/-- The sources that a configuration names. -/
def Sources.load (config : Config) (tree : FileTree) : Run Sources := do
  let irregularNouns ←
    .ofExcept (readData tree (Json.table? IrregularNoun.ofJson?) config.irregularNounsPath)
  let irregularVerbs ←
    .ofExcept (readData tree (Json.table? IrregularVerb.ofJson?) config.irregularVerbsPath)
  let indeclinable ← .ofExcept (readData tree (Json.table? Json.keys?) config.indeclinablePath)
  let verbs ← loadAllClasses tree VerbClass.ofJson? config.verbPaths
  let adjectives ← loadClasses tree WordClass.ofJson? config.adjectivesPath
  let adverbs ← loadClasses tree WordClass.ofJson? config.adverbsPath
  let prepositions ← loadClasses tree WordClass.ofJson? config.prepositionsPath
  let nouns ← loadNamedClasses tree NounClass.ofJson? config.nounsPath
  .report [.sourcesLoaded nouns.size adjectives.length adverbs.length prepositions.length verbs.length]
  return {
    indeclinable := indeclinable
    adjectives := adjectives
    adverbs := adverbs
    prepositions := prepositions
    nouns := nouns
    verbs := verbs
    irregular := { nouns := irregularNouns, verbs := irregularVerbs } }

end Wordbook
