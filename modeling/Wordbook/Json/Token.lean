import Wordbook.Json.Basic
import Wordbook.Text.CharacterKind

/-! The tokens of a JSON text. A lexer goes through the text one character at a time and is always in one
of five modes, so a text is cut into tokens by folding one step over its characters. White space may
stand between any two tokens and is dropped. -/
namespace Wordbook.Json

/-- A token: a bracket or a mark, or a value without parts. -/
inductive Token where
  | openObject
  | closeObject
  | openArray
  | closeArray
  | comma
  | colon
  | scalar (value : Json)
deriving Repr

/-- The token that is one character long. -/
def Token.ofMark? : Char → Option Token
  | '{' => some .openObject
  | '}' => some .closeObject
  | '[' => some .openArray
  | ']' => some .closeArray
  | ',' => some .comma
  | ':' => some .colon
  | _ => none

/-- White space of a JSON text. -/
def isBlank (c : Char) : Bool := c == ' ' || c == '\n' || c == '\r' || c == '\t'

/-- The characters of numbers and of the literal names. -/
def isWordChar (c : Char) : Bool := c.isAlphanum || c == '+' || c == '-' || c == '.'

/-- Digits, at least one, and what follows them. -/
def digits? (text : List Char) : Option (List Char) :=
  match text.span Char.isDigit with
  | ([], _) => none
  | (_, rest) => some rest

/-- What follows the integral part of a number. Only a lone zero starts with a zero. -/
def afterInteger? : List Char → Option (List Char)
  | '0' :: rest => some rest
  | text => digits? text

/-- What follows the fraction of a number, which may be missing. -/
def afterFraction? : List Char → Option (List Char)
  | '.' :: rest => digits? rest
  | text => some text

/-- What follows the exponent of a number, which may be missing. -/
def afterExponent? : List Char → Option (List Char)
  | 'e' :: rest | 'E' :: rest =>
    match rest with
    | '+' :: rest | '-' :: rest => digits? rest
    | rest => digits? rest
  | text => some text

/-- Whether the text is a number and nothing else. -/
def isNumber (text : List Char) : Bool :=
  let unsigned := match text with
    | '-' :: rest => rest
    | text => text
  ((afterInteger? unsigned).bind afterFraction?).bind afterExponent? == some []

/-- The value that a word spells: a literal name or a number. -/
def ofWord? (word : List Char) : Option Json :=
  if word = "null".toList then some .null
  else if word = "true".toList then some (.bool true)
  else if word = "false".toList then some (.bool false)
  else if isNumber word then some (.number (String.ofList word))
  else none

/-- What a string is made of: characters, and halves of surrogate pairs that come from escapes. -/
inductive Piece where
  | char (c : Char)
  | half (unit : Nat)
deriving DecidableEq, Repr

/-- Whether the unit is the first half of a surrogate pair. -/
def isHighHalf (unit : Nat) : Bool := 0xD800 ≤ unit && unit < 0xDC00

/-- Whether the unit is the second half of a surrogate pair. -/
def isLowHalf (unit : Nat) : Bool := 0xDC00 ≤ unit && unit < 0xE000

/-- The piece that an escape with four hexadecimal digits stands for. -/
def Piece.ofUnit (unit : Nat) : Piece :=
  if isHighHalf unit || isLowHalf unit then .half unit else .char (Char.ofNat unit)

/-- The character that both halves of a surrogate pair stand for. -/
def pairedChar (high low : Nat) : Char :=
  Char.ofNat (0x10000 + (high - 0xD800) * 0x400 + (low - 0xDC00))

/-- The text that pieces spell. A first half must be followed by a second one, and a second half must not
stand by itself. -/
def spell? : List Piece → Option (List Char)
  | [] => some []
  | .char c :: rest => (spell? rest).map (c :: ·)
  | .half high :: .half low :: rest =>
    if isHighHalf high && isLowHalf low then (spell? rest).map (pairedChar high low :: ·) else none
  | .half _ :: _ => none

/-- The character that a letter behind a backslash stands for. -/
def unescape? : Char → Option Char
  | '"' => some '"'
  | '\\' => some '\\'
  | '/' => some '/'
  | 'b' => some '\x08'
  | 'f' => some '\x0c'
  | 'n' => some '\n'
  | 'r' => some '\r'
  | 't' => some '\t'
  | _ => none

/-- Where the lexer stands. What was read of a word or a string is kept with the latest part first. -/
inductive Mode where
  | between
  | word (chars : List Char)
  | string (pieces : List Piece)
  | escape (pieces : List Piece)
  /-- Inside an escape by number: the value of the digits so far, and how many are still to come. -/
  | number (pieces : List Piece) (value : Nat) (missing : Nat)
deriving Repr

/-- The state of the lexer: the tokens so far, the latest first, and its mode. -/
structure Lexer where
  tokens : List Token := []
  mode : Mode := .between
deriving Repr

namespace Lexer

/-- Reads a character that no token is under way for. -/
def start (tokens : List Token) (c : Char) : Option Lexer :=
  if c = '"' then some { tokens := tokens, mode := .string [] }
  else if isBlank c then some { tokens := tokens }
  else if isWordChar c then some { tokens := tokens, mode := .word [c] }
  else (Token.ofMark? c).map fun token => { tokens := token :: tokens }

/-- Reads one character. -/
def step (lexer : Lexer) (c : Char) : Option Lexer :=
  match lexer.mode with
  | .between => start lexer.tokens c
  | .word chars =>
    if isWordChar c then some { lexer with mode := .word (c :: chars) }
    else (ofWord? chars.reverse).bind fun value => start (.scalar value :: lexer.tokens) c
  | .string pieces =>
    if c = '"' then
      some { tokens := .scalar (.string ((spell? pieces.reverse).map String.ofList)) :: lexer.tokens }
    else if c = '\\' then some { lexer with mode := .escape pieces }
    else if c.toNat < 0x20 then none
    else some { lexer with mode := .string (.char c :: pieces) }
  | .escape pieces =>
    if c = 'u' then some { lexer with mode := .number pieces 0 4 }
    else (unescape? c).map fun meant => { lexer with mode := .string (.char meant :: pieces) }
  | .number pieces value missing =>
    (Text.hexDigit? c).map fun digit =>
      let value := 16 * value + digit
      if missing ≤ 1 then { lexer with mode := .string (Piece.ofUnit value :: pieces) }
      else { lexer with mode := .number pieces value (missing - 1) }

/-- The tokens at the end of the text, in their order. A string must have been closed by then. -/
def finish (lexer : Lexer) : Option (List Token) :=
  match lexer.mode with
  | .between => some lexer.tokens.reverse
  | .word chars => (ofWord? chars.reverse).map fun value => (Token.scalar value :: lexer.tokens).reverse
  | .string _ | .escape _ | .number .. => none

end Lexer

/-- The tokens of a text, or none if it has a part that belongs to no token. -/
def tokens? (text : String) : Option (List Token) :=
  (text.toList.foldlM Lexer.step {}).bind Lexer.finish

end Wordbook.Json
