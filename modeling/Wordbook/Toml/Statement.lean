import Wordbook.Toml.Scalar

/-! The lines of a TOML text. Besides blank lines and comments a text is made of headers and of pairs of a
key and a value, the key being dotted or not. What tables the lines make together is the matter of
`Wordbook.Toml.Document`; inside braces the same rules for dotted keys apply and are given here. -/
namespace Wordbook.Toml

open Scan

/-- How deep values may be nested, and how many parts a key may have, both being one less than this. -/
def nestingLimit : Nat := 80

/-- Adds a pair with a dotted key to the entries of a table. The parts of the key before the last one name
tables, which come about with the key or did so with an earlier dotted key. -/
def Entries.addDotted (value : Value) (key : String) : List String → Entries → Option Entries
  | [], entries => if entries.any (·.1 == key) then none else some (entries ++ [(key, value)])
  | part :: rest, entries =>
    match entries.lookup part with
    | none => do
      return entries.set part (.table .dotted (← Entries.addDotted value key rest []))
    | some (.table origin inner) =>
      if origin = .header || (rest = [] && origin != .dotted) then none
      else do return entries.set part (.table origin (← Entries.addDotted value key rest inner))
    | some (.tables elements) =>
      match elements.getLast?, rest with
      | some last, _ :: _ => do
        return entries.set part
          (.tables (elements.dropLast ++ [← Entries.addDotted value key rest last]))
      | _, _ => none
    | some _ => none

/-- A part of a key: a bare word or a string on one line. -/
def keyPart : Scan String := do
  blanks
  let part ← basicString <|> literalString <|> do
    let isBare := fun c : Char => c.isAlphanum || c == '_' || c == '-'
    return String.ofList ((← one isBare) :: (← Scan.takeWhile isBare))
  blanks
  return part

/-- A key: its parts but the last one, and the last one. -/
def key : Scan (List String × String) := do
  let parts ← separated (exactly ".") keyPart
  match parts.getLast? with
  | some last => if parts.length < nestingLimit then return (parts.dropLast, last) else failure
  | none => failure

/-- A comment, up to the end of its line. -/
def comment : Scan Unit := do
  exactly "#"
  let _ ← Scan.takeWhile isPlain

/-- What may stand between the items of an array. -/
def gaps : Scan Unit := do
  let _ ← many ((do let _ ← one isBlank) <|> newline <|> do comment; newline)

/-- An array of values. A comma may follow the last one. -/
def array (item : Scan Value) : Scan Value := do
  exactly "["
  let items ← separated (exactly ",") do
    gaps
    let value ← item
    gaps
    return value
  unless items.isEmpty do
    let _ ← possibly (exactly ",")
  gaps
  exactly "]"
  return .array items

/-- A table in braces, on one line. -/
def inlineTable (item : Scan Value) : Scan Value := do
  exactly "\x7b"
  blanks
  let pairs ← separated (exactly ",") do
    let (path, key) ← key
    exactly "="
    blanks
    let value ← item
    blanks
    return (path, key, value)
  blanks
  exactly "\x7d"
  match pairs.foldlM (fun entries (path, key, value) => Entries.addDotted value key path entries) [] with
  | some entries => return .inline entries
  | none => failure

/-- A value that is nested at most to the given depth. -/
def value : Nat → Scan Value
  | 0 => scalar
  | depth + 1 => array (value depth) <|> inlineTable (value depth) <|> scalar

/-- A line that says something. -/
inductive Statement where
  /-- The header of a table. -/
  | header (path : List String) (key : String)
  /-- The header of one more table of an array. -/
  | arrayHeader (path : List String) (key : String)
  | pair (path : List String) (key : String) (value : Value)
deriving Repr

/-- The rest of a line behind what it says. -/
def lineEnd : Scan Unit := do
  blanks
  let _ ← possibly comment
  newline <|> atEnd

/-- What a line says. -/
def statement : Scan Statement :=
  (do
    exactly "[["
    let (path, key) ← key
    exactly "]]"
    return .arrayHeader path key) <|>
  (do
    exactly "["
    let (path, key) ← key
    exactly "]"
    return .header path key) <|>
  do
    let (path, key) ← key
    exactly "="
    blanks
    return .pair path key (← value (nestingLimit - 1))

/-- One line of a text, blank ones and comments saying nothing. -/
def line : Scan (Option Statement) := do
  blanks
  (do newline; return none) <|>
  (do comment; newline <|> atEnd; return none) <|>
  do
    let said ← statement
    lineEnd
    return some said

/-- What the lines of a text say. A byte order mark in front is passed over. -/
def statements? (text : String) : Option (List Statement) :=
  Scan.all? (do
    let _ ← possibly (exactly "\uFEFF")
    let lines ← many line
    blanks
    return lines.filterMap id) text.toList

end Wordbook.Toml
