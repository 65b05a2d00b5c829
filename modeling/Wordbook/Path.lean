import Wordbook.Text.Bytes

/-! Paths as bytes. A path is kept as it was given and as it was joined, never made absolute and never
tidied up, since messages show it in that form. The names in it need not be texts. -/
namespace Wordbook

/-- The name of a file or directory, and any other piece of a path. -/
abbrev FileName := Bytes

/-- The bytes of a path. -/
structure Path where
  ofBytes ::
  bytes : Bytes
deriving DecidableEq, Repr

namespace Path

/-- The path that a text spells. -/
def mk (text : String) : Path := ⟨text⟩

/-- The path as a text that shows it. -/
def text (path : Path) : String := path.bytes.shown

/-- The path between double quotes. -/
def quoted (path : Path) : String := path.bytes.quoted

/-- The byte between the pieces of a path. -/
def slash : UInt8 := 0x2F

/-- The byte that dots consist of. -/
def dot : UInt8 := 0x2E

/-- Whether the path starts at the root of the file system. -/
def isAbsolute (path : Path) : Bool := path.bytes.head? == some slash

/-- Whether a name put behind the path needs a slash in between. -/
def needsSlash (path : Path) : Bool := path.bytes.getLast?.any (· != slash)

/-- The path that `path` means when it is seen from the directory `base`. An absolute path means itself. -/
def join (base path : Path) : Path :=
  if path.isAbsolute then path
  else if base.needsSlash then ⟨base.bytes ++ [slash] ++ path.bytes⟩
  else ⟨base.bytes ++ path.bytes⟩

/-- The pieces of the path between its slashes. An absolute path has an empty piece in front. -/
def segments (path : Path) : List FileName := path.bytes.splitOn slash

/-- Whether a piece leads nowhere: it stands between two slashes, at the end, or is a dot. -/
def isIdle (segment : FileName) : Bool := segment == [] || segment == [dot]

/-- The pieces without those at the end that lead nowhere. The first piece always stays, as it tells an
absolute path from a relative one. -/
def trimIdle : List FileName → List FileName
  | [] => []
  | first :: rest => first :: (rest.reverse.dropWhile isIdle).reverse

/-- The path that pieces spell. A lone empty piece is the root. -/
def ofSegments : List FileName → Path
  | [[]] => ⟨[slash]⟩
  | segments => ⟨[slash].intercalate segments⟩

/-- The directory that holds what the path names. The root and the empty path have none. -/
def parent? (path : Path) : Option Path :=
  match trimIdle path.segments with
  | [] | [[]] => none
  | [_] => some ⟨[]⟩
  | segments => some (ofSegments (trimIdle segments.dropLast))

end Path

end Wordbook
