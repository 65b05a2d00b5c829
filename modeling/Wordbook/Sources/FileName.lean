import Wordbook.Path

/-! The names of data files. The last dot of a name parts its stem from its extension. A name whose only
dot stands in front has no extension, and is all stem. A class is named by a text, so a file whose stem is
none cannot be the file of a class. -/
namespace Wordbook.FileName

/-- The part of a name before its last dot and the part behind it, if there is a dot. -/
def splitAtLastDot (name : FileName) : Option (FileName × FileName) :=
  match name.reverse.span (· != Path.dot) with
  | (after, _ :: before) => some (before.reverse, after.reverse)
  | (_, []) => none

/-- The extension of a name. -/
def extension? (name : FileName) : Option FileName :=
  match splitAtLastDot name with
  | some ([], _) | none => none
  | some (_, after) => some after

/-- The stem of a name. -/
def stem (name : FileName) : FileName :=
  match splitAtLastDot name with
  | some ([], _) | none => name
  | some (before, _) => before

/-- Whether a file of this name holds data. -/
def isData (name : FileName) : Bool := extension? name == some ("json" : FileName)

/-- The class that a data file of this name is the file of, if its stem is a text. -/
def className? (name : FileName) : Option String := (stem name).text?

end Wordbook.FileName
