import Wordbook.CommandLine.Execution
import Wordbook.FileTree.Growth

/-! The program. It takes a picture of the files that a run may look at, lets the library work out what the
run comes to, writes the lexicon if there is one, and prints the log. -/
namespace Wordbook.CommandLine

/-- Puts what there is on the way to a path, and under the path itself, into the picture. A file comes
without its content. -/
def survey (tree : FileTree) (path : Path) : IO FileTree := do
  let here ← IO.currentDir
  let ways := (List.range path.segments.length).map fun count =>
    Path.ofSegments (path.segments.take (count + 1))
  ways.foldlM (fun tree way => do
    match tree.find way with
    | .ok _ => return tree
    | .error _ =>
      let place := here / way.text
      if ← place.isDir then return tree.withDirectory way
      else if ← place.pathExists then return tree.withFile way .empty
      else return tree) tree

/-- Puts a file into the picture, with its content. -/
def surveyFile (tree : FileTree) (path : Path) : IO FileTree := do
  let tree ← survey tree path
  match tree.find path with
  | .ok (.file _) => return tree.withFile path (← IO.FS.readBinFile ((← IO.currentDir) / path.text))
  | _ => return tree

/-- Puts a directory into the picture, with its data files. -/
def surveyDirectory (tree : FileTree) (path : Path) : IO FileTree := do
  let tree ← survey tree path
  if tree.isDirectory path then
    let entries ← ((← IO.currentDir) / path.text).readDir
    -- The system hands out names as texts here, so that files whose names are none do not come into the picture.
    let names := (entries.toList.map fun entry => Bytes.ofText entry.fileName).filter FileName.isData
    names.foldlM (fun tree name => surveyFile tree (fileIn path name)) tree
  else return tree

/-- The picture of all that a build with the given options looks at. -/
def Options.picture (options : Options) : IO FileTree := do
  let here := (((← IO.currentDir).components.filter (· != "")).map Bytes.ofText).reverse
  let tree ← survey (.empty here) options.outputPath
  let tree ← options.config.toList.foldlM surveyFile tree
  match options.settings tree with
  | .error _ => return tree
  | .ok config =>
    let tree ← survey tree config.sourceDir
    let tree ← config.tablePaths.foldlM surveyFile tree
    config.classPaths.foldlM surveyDirectory tree

/-- Carries out a build and prints its log. -/
def Options.run (options : Options) (arguments : List String) : IO UInt32 := do
  let outcome := execute arguments (← IO.getEnv "RUST_LOG") (← options.picture)
  if outcome.exitCode = 0 then
    match outcome.tree.readBytes options.outputPath with
    | .ok content => IO.FS.writeBinFile options.outputPath.text content
    | .error _ => pure ()
  for event in outcome.log do
    IO.println event.line
  return outcome.exitCode.toUInt32

end Wordbook.CommandLine

/-- The program. Texts for the user go to the standard output, and complaints about the arguments to the
standard error. -/
def main (arguments : List String) : IO UInt32 := do
  match Wordbook.CommandLine.parse arguments with
  | .ok (.build options) =>
    try options.run arguments
    catch error =>
      IO.println ("ERROR " ++ toString error)
      return 1
  | _ =>
    let outcome := Wordbook.CommandLine.execute arguments none {}
    if outcome.exitCode = 0 then IO.print outcome.notice else IO.eprint outcome.notice
    return outcome.exitCode.toUInt32
