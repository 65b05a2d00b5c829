import Wordbook.Pattern.Mode

/-! Escapes of patterns: a backslash and the characters behind it. Where a pattern goes by bytes, an escape may
not stand for bytes beyond ASCII, because single ones of them are no characters. -/
namespace Wordbook.Pattern

/-- What an escape means. -/
inductive Escape where
  | char (c : Char)
  /-- A class of characters. -/
  | kind
  /-- A border of a word. -/
  | wordBorder
  /-- An end of the text. -/
  | textEnd
deriving DecidableEq, Repr

namespace Escape

/-- The number that so many hexadecimal digits spell, going on from the number so far. -/
def hexNumber? (mode : Mode) : Nat → Nat → List Char → Option (Nat × List Char)
  | 0, number, text => some (number, text)
  | missing + 1, number, text => do
    match mode.skip text with
    | [] => none
    | c :: rest => hexNumber? mode missing (16 * number + (← Text.hexDigit? c)) rest

/-- A character that is given by a number of so many digits. A number of two digits is a byte where the
pattern goes by bytes. -/
def numbered? (mode : Mode) (digits : Nat) (text : List Char) : Option (Escape × List Char) := do
  let (number, rest) ← hexNumber? mode digits 0 text
  if number.isValidChar && (mode.unicode || digits != 2 || number < 0x80) then
    some (.char (Char.ofNat number), rest)
  else none

/-- The main categories that every character belongs to one of. -/
def categories : List Char := ['L', 'M', 'N', 'P', 'S', 'Z', 'C']

/-- A class that is given by the letter of its category, small or capital. -/
def category? (mode : Mode) (text : List Char) : Option (Escape × List Char) :=
  match mode.skip text with
  | letter :: rest => if mode.unicode && categories.contains letter.toUpper then some (.kind, rest) else none
  | [] => none

/-- The control characters that are given by letters. -/
def control? : Char → Option Char
  | 'a' => some '\x07'
  | 'f' => some '\x0c'
  | 'n' => some '\n'
  | 'r' => some '\r'
  | 't' => some '\t'
  | 'v' => some '\x0b'
  | _ => none

/-- The escape that the text behind a backslash begins with. Digits, spaces and letters of words give classes
by small letters and their complements by capital ones. Signs stand for themselves. -/
def parse? (mode : Mode) : List Char → Option (Escape × List Char)
  | [] => none
  | 'x' :: rest => numbered? mode 2 rest
  | 'u' :: rest => numbered? mode 4 rest
  | 'U' :: rest => numbered? mode 8 rest
  | 'p' :: rest | 'P' :: rest => category? mode rest
  | 'd' :: rest | 's' :: rest | 'w' :: rest => some (.kind, rest)
  | 'D' :: rest | 'S' :: rest | 'W' :: rest => if mode.unicode then some (.kind, rest) else none
  | 'b' :: rest | 'B' :: rest | '<' :: rest | '>' :: rest => some (.wordBorder, rest)
  | 'A' :: rest | 'z' :: rest => some (.textEnd, rest)
  | c :: rest => match control? c with
    | some control => some (.char control, rest)
    | none => if c.toNat < 0x80 && !c.isAlphanum then some (.char c, rest) else none

end Escape

end Wordbook.Pattern
