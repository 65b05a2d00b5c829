import Std.Data.ExtTreeMap
import Wordbook.Failure
import Wordbook.Path

/-! A tree of files and directories, seen from a working directory. A place in the tree is given by the
names that lead to it from the root, the innermost first; the root itself is always a directory. A path
is followed piece by piece, and every piece but the last must be a directory. Names and paths have a
greatest length, and no path can hold a NUL character. -/
namespace Wordbook

/-- The names that lead from the root to a file or directory, the innermost first. -/
abbrev Location := List FileName

/-- What there is at a location. -/
inductive Entry where
  | file (content : ByteArray)
  | directory

/-- The files and directories, and the directory that relative paths start from. -/
structure FileTree where
  entries : Std.ExtTreeMap Location Entry := ∅
  workingDirectory : Location := []

namespace FileTree

/-- The tree with the given entries, seen from its root. -/
def ofList (entries : List (Location × Entry)) : FileTree where
  entries := .ofList entries

/-- What there is at a location, if anything. -/
def get? (tree : FileTree) : Location → Option Entry
  | [] => some .directory
  | location => tree.entries[location]?

/-- Fails unless there is a directory at the location. -/
def needDirectory (tree : FileTree) (location : Location) : Except Fault Unit :=
  match tree.get? location with
  | some .directory => .ok ()
  | some (.file _) => .error .notADirectory
  | none => .error .notFound

/-- The most bytes that a name can have. -/
def nameLimit : Nat := 255

/-- The most bytes that a path can have. -/
def pathLimit : Nat := 4095

/-- The piece of a path itself, provided that it may be a name. -/
def nameOf (segment : FileName) : Except Fault FileName :=
  if nameLimit < segment.length then .error .nameTooLong else .ok segment

/-- Fails unless the path may name anything. -/
def needPath (path : Path) : Except Fault Unit :=
  if path.bytes.contains 0 then .error .nulCharacter
  else if pathLimit < path.bytes.length then .error .nameTooLong
  else if path.bytes = [] then .error .notFound
  else .ok ()

/-- Goes one piece of a path further. An empty piece and a dot stay, two dots go up, and the root is above
itself. -/
def advance (tree : FileTree) (location : Location) (segment : FileName) : Except Fault Location := do
  tree.needDirectory location
  if Path.isIdle segment then return location
  else if segment = [Path.dot, Path.dot] then return location.tail
  else return (← nameOf segment) :: location

/-- The location that a path starts from. -/
def origin (tree : FileTree) (path : Path) : Location :=
  if path.isAbsolute then [] else tree.workingDirectory

/-- The location that a path names, which need not hold anything. -/
def locate (tree : FileTree) (path : Path) : Except Fault Location := do
  needPath path
  path.segments.foldlM tree.advance (tree.origin path)

/-- What a path names. -/
def find (tree : FileTree) (path : Path) : Except Fault Entry := do
  let location ← tree.locate path
  match tree.get? location with
  | some entry => .ok entry
  | none => .error .notFound

/-- Whether a path names a directory. -/
def isDirectory (tree : FileTree) (path : Path) : Bool :=
  match tree.find path with
  | .ok .directory => true
  | _ => false

/-- Whether a path names a file. -/
def isFile (tree : FileTree) (path : Path) : Bool :=
  match tree.find path with
  | .ok (.file _) => true
  | _ => false

/-- The bytes of the file that a path names. -/
def readBytes (tree : FileTree) (path : Path) : Except Fault ByteArray := do
  match ← tree.find path with
  | .file content => .ok content
  | .directory => .error .isADirectory

/-- The text of the file that a path names. -/
def readText (tree : FileTree) (path : Path) : Except Fault String := do
  match String.fromUTF8? (← tree.readBytes path) with
  | some text => .ok text
  | none => .error .invalidText

/-- The names of the files right inside a directory, in ascending order. -/
def fileNames (tree : FileTree) (path : Path) : List FileName :=
  match tree.locate path with
  | .error _ => []
  | .ok directory => tree.entries.toList.filterMap fun entry =>
    match entry with
    | (name :: parent, .file _) => if parent = directory then some name else none
    | _ => none

/-- The location that a file can be written to under a path. The directory around it must be there, and
the path must end in a name that is not the name of a directory. -/
def target (tree : FileTree) (path : Path) : Except Fault Location := do
  needPath path
  let reversed := path.segments.reverse.dropWhile (· == [])
  match reversed with
  | [] => .error .isADirectory
  | last :: outer =>
    let directory ← outer.reverse.foldlM tree.advance (tree.origin path)
    tree.needDirectory directory
    if path.segments.getLast? = some [] || last = [Path.dot] || last = [Path.dot, Path.dot] then .error .isADirectory
    let location := (← nameOf last) :: directory
    match tree.get? location with
    | some .directory => .error .isADirectory
    | _ => .ok location

/-- The tree with one entry put in or replaced. -/
def put (tree : FileTree) (location : Location) (entry : Entry) : FileTree :=
  { tree with entries := tree.entries.insert location entry }

/-- Writes a file, in place of the one that is there. -/
def write (tree : FileTree) (path : Path) (text : String) : Except Fault FileTree := do
  return tree.put (← tree.target path) (.file text.toUTF8)

/-- Reading a location that was put gives the entry, and every other location keeps its own. -/
theorem get?_put {tree : FileTree} {location other : Location} {entry : Entry} (h : location ≠ []) :
    (tree.put location entry).get? other =
      if location = other then some entry else tree.get? other := by
  cases other with
  | nil => simp [get?, h]
  | cons name rest => simp [get?, put, Std.ExtTreeMap.getElem?_insert]

end FileTree

end Wordbook
