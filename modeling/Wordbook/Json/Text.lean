/-! The text form of JSON: how a string is written, and how objects and arrays are laid out. Only what
must be escaped is escaped, so every other character of a string stands for itself. -/
namespace Wordbook.Json

/-- The letter that stands behind the backslash for a character with a short escape. -/
def shortEscape? : Char → Option Char
  | '"' => some '"'
  | '\\' => some '\\'
  | '\x08' => some 'b'
  | '\x0c' => some 'f'
  | '\n' => some 'n'
  | '\r' => some 'r'
  | '\t' => some 't'
  | _ => none

/-- A control character below U+0020 as an escape with four hexadecimal digits. -/
def longEscape (c : Char) : List Char :=
  ['\\', 'u', '0', '0', Nat.digitChar (c.toNat / 16), Nat.digitChar (c.toNat % 16)]

/-- One character inside a written string. -/
def escaped (c : Char) : List Char :=
  match shortEscape? c with
  | some letter => ['\\', letter]
  | none => if c.toNat < 0x20 then longEscape c else [c]

/-- A string as it is written, between its quotes. -/
def writeString (text : String) : List Char :=
  '"' :: text.toList.flatMap escaped ++ ['"']

/-- The blanks that a writer puts between the pieces of a text. -/
structure Layout where
  /-- What stands before an item or a closing bracket at the given depth. -/
  lineBreak : Nat → List Char
  /-- What stands between a key and its value. -/
  colon : List Char

/-- Everything on one line, with no blank at all. -/
def Layout.compact : Layout where
  lineBreak _ := []
  colon := [':']

/-- An item a line, indented by four blanks for each level. -/
def Layout.indented : Layout where
  lineBreak depth := '\n' :: List.replicate (4 * depth) ' '
  colon := [':', ' ']

/-- Items between brackets, where `depth` is the level of the brackets. Empty brackets stay closed. -/
def Layout.bracketed (layout : Layout) (opening closing : Char) (depth : Nat) :
    List (List Char) → List Char
  | [] => [opening, closing]
  | first :: rest =>
    opening :: layout.lineBreak (depth + 1) ++ first ++
      rest.flatMap (fun item => ',' :: layout.lineBreak (depth + 1) ++ item) ++
      layout.lineBreak depth ++ [closing]

end Wordbook.Json
