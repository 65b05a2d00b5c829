import Wordbook.FileTree

/-! Growing a file tree. Files and directories are put in by their paths, and the directories on the way
are made where they are missing. What is in the way stays as it is. -/
namespace Wordbook.FileTree

/-- Goes one piece of a path further, making a directory there if there is nothing. -/
def openWay (state : FileTree × Location) (segment : FileName) : FileTree × Location :=
  let (tree, location) := state
  if Path.isIdle segment then (tree, location)
  else if segment = [Path.dot, Path.dot] then (tree, location.tail)
  else
    let next := segment :: location
    ((tree.get? next).elim (tree.put next .directory) fun _ => tree, next)

/-- The tree with a directory under a path. -/
def withDirectory (tree : FileTree) (path : Path) : FileTree :=
  (path.segments.foldl openWay (tree, tree.origin path)).1

/-- The tree with a file under a path. -/
def withFile (tree : FileTree) (path : Path) (content : ByteArray) : FileTree :=
  let (tree, directory) := path.segments.dropLast.foldl openWay (tree, tree.origin path)
  match path.segments.getLast? with
  | some name => tree.put (name :: directory) (.file content)
  | none => tree

/-- A tree with nothing but the working directory and the directories around it. -/
def empty (workingDirectory : Location) : FileTree :=
  let root : FileTree := { workingDirectory := workingDirectory }
  (workingDirectory.foldr (fun name (tree, location) =>
    (tree.put (name :: location) .directory, name :: location)) (root, ([] : Location))).1

end Wordbook.FileTree
