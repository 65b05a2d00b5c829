/-! Scanning a text from the front. A scan takes some characters off the text and makes a value of them,
or fails and takes none, so that another scan may be tried in its place. -/
namespace Wordbook.Toml

/-- A scan for a value. -/
abbrev Scan := StateT (List Char) Option

namespace Scan

variable {α β : Type}

/-- The next character, which stays where it is. -/
def peek : Scan (Option Char) := do return (← get).head?

/-- A character of the given kind. -/
def one (kind : Char → Bool) : Scan Char := do
  match ← get with
  | c :: rest => if kind c then set rest; return c else failure
  | [] => failure

/-- The given characters. -/
def exactly (text : String) : Scan Unit := do
  match text.toList.isPrefixOf? (← get) with
  | some rest => set rest
  | none => failure

/-- The characters up to the first one that is not of the given kind. -/
def takeWhile (kind : Char → Bool) : Scan (List Char) := do
  let (taken, rest) := (← get).span kind
  set rest
  return taken

/-- As many values as there are, one behind the other. Every one must take a character. -/
def many (item : Scan α) : Scan (List α) := fun text => go text.length text
where
  go : Nat → List Char → Option (List α × List Char)
    | 0, text => some ([], text)
    | fuel + 1, text =>
      match item.run text with
      | none => some ([], text)
      | some (value, rest) => (go fuel rest).map fun (values, rest) => (value :: values, rest)

/-- Values with the given mark between them. There may be none. -/
def separated (mark : Scan Unit) (item : Scan α) : Scan (List α) :=
  (do return (← item) :: (← many (do mark; item))) <|> pure []

/-- The end of the text. -/
def atEnd : Scan Unit := do
  if (← get).isEmpty then return () else failure

/-- A value if there is one. -/
def possibly (item : Scan α) : Scan (Option α) := (some <$> item) <|> pure none

/-- A text that is scanned completely. -/
def all? (item : Scan α) (text : List Char) : Option α :=
  match item.run text with
  | some (value, []) => some value
  | _ => none

end Scan

end Wordbook.Toml
