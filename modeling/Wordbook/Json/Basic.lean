/-! JSON values as they stand in a text. A string may hold an escape for one half of a surrogate pair
without the other half; such a string is good JSON but spells no text, so it has none here. Objects keep
all their fields in the order of the text, repeated keys included, since what a repetition means is up to
the reader of the object. -/
namespace Wordbook

/-- A JSON value. -/
inductive Json where
  | null
  | bool (value : Bool)
  | number (literal : String)
  /-- A string, with its text unless it spells none. -/
  | string (text : Option String)
  | array (items : List Json)
  | object (fields : List (Option String × Json))
deriving Repr, Inhabited

end Wordbook
