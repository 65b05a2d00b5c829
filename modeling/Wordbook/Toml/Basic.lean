/-! TOML values. A table remembers how it came about, since that decides which later lines may add to it.
Of the values that no setting can have, floating-point numbers and moments in time, only the kind is kept. -/
namespace Wordbook.Toml

/-- How a table came about. -/
inductive Origin where
  /-- By a header of its own. -/
  | header
  /-- By the header of a table inside it. -/
  | implied
  /-- By a dotted key. -/
  | dotted
deriving DecidableEq, Repr

/-- A TOML value. -/
inductive Value where
  | string (text : String)
  | integer (value : Int)
  | float
  | boolean (value : Bool)
  | moment
  | array (items : List Value)
  /-- A table written in braces, which is complete as it stands. -/
  | inline (entries : List (String × Value))
  | table (origin : Origin) (entries : List (String × Value))
  /-- The tables under a header in double brackets, the first one first. -/
  | tables (elements : List (List (String × Value)))
deriving Repr, Inhabited

/-- The entries of a table, in the order in which their keys came up. -/
abbrev Entries := List (String × Value)

/-- Puts a value under a key, in place of the value that is there. -/
def Entries.set (entries : Entries) (key : String) (value : Value) : Entries :=
  if entries.any (·.1 == key) then entries.map fun entry => if entry.1 = key then (key, value) else entry
  else entries ++ [(key, value)]

end Wordbook.Toml
