import Wordbook.Text.CharacterKind
import Wordbook.Toml.Basic
import Wordbook.Toml.Scan

/-! The TOML values without parts: strings in their four notations, integers, floating-point numbers,
truth values, and moments in time. -/
namespace Wordbook.Toml

open Scan

/-- A blank inside a line. -/
def isBlank (c : Char) : Bool := c == ' ' || c == '\t'

/-- The characters that may stand in a comment: all but control characters, among which the tab is let
through. -/
def isPlain (c : Char) : Bool := c == '\t' || (0x20 ≤ c.toNat && c.toNat != 0x7F)

/-- Blanks, if any. -/
def blanks : Scan Unit := do let _ ← Scan.takeWhile isBlank

/-- The end of a line. A carriage return ends a line only together with a line feed. -/
def newline : Scan Unit := exactly "\r\n" <|> exactly "\n"

/-- The value of a digit in one of the bases up to sixteen. -/
def digit? (base : Nat) (c : Char) : Option Nat := (Text.hexDigit? c).filter (· < base)

/-- The number that digits spell in a base. -/
def numeral (base : Nat) (digits : List Char) : Nat :=
  digits.foldl (fun number c => base * number + (digit? base c).getD 0) 0

/-- A fixed number of digits, and the number they spell. -/
def fixedDigits (base count : Nat) : Scan Nat := do
  let text ← get
  let digits := text.take count
  if digits.length = count && digits.all fun c => (digit? base c).isSome then
    set (text.drop count)
    return numeral base digits
  else failure

/-! ### Strings -/

/-- A character by its number. The halves of surrogate pairs are no characters. -/
def charByNumber (count : Nat) : Scan (List Char) := do
  let number ← fixedDigits 16 count
  if number.isValidChar then return [Char.ofNat number] else failure

/-- A backslash with what it stands for. -/
def escape : Scan (List Char) := do
  exactly "\\"
  match ← one fun _ => true with
  | 'b' => return ['\x08']
  | 't' => return ['\t']
  | 'n' => return ['\n']
  | 'f' => return ['\x0c']
  | 'r' => return ['\r']
  | '"' => return ['"']
  | '\\' => return ['\\']
  | 'u' => charByNumber 4
  | 'U' => charByNumber 8
  | _ => failure

/-- Characters that stand for themselves between the given quotes. -/
def plainRun (quote : Char) (escapes : Bool) : Scan (List Char) := do
  let c ← one fun c => isPlain c && c != quote && !(escapes && c == '\\')
  return [c]

/-- A backslash at the end of a line, which joins the text to the next line that is not blank. -/
def joinedLine : Scan (List Char) := do
  exactly "\\"
  blanks
  newline
  let _ ← many (newline <|> do let _ ← one isBlank)
  return []

/-- A line break inside a string, which is a line feed however the line ends. -/
def lineFeed : Scan (List Char) := do
  newline
  return ['\n']

/-- One or two quotes that do not end the string. -/
def innerQuotes (quote : Char) : Scan (List Char) := do
  let run ← Scan.takeWhile (· == quote)
  if run.length = 1 || run.length = 2 then return run else failure

/-- The three quotes that end a string of several lines, with up to two more quotes in front of them that
still belong to the string. -/
def closingQuotes (quote : Char) : Scan (List Char) := do
  let text ← get
  let run := (text.takeWhile (· == quote)).take 5
  if 3 ≤ run.length then
    set (text.drop run.length)
    return run.drop 3
  else failure

/-- A string of several lines. A line break right behind the opening quotes does not count. -/
def longString (quote : Char) (piece : Scan (List Char)) : Scan String := do
  exactly (String.ofList [quote, quote, quote])
  let _ ← possibly newline
  let pieces ← many (piece <|> lineFeed <|> innerQuotes quote)
  let last ← closingQuotes quote
  return String.ofList (pieces.flatten ++ last)

/-- A string on one line. -/
def shortString (quote : Char) (piece : Scan (List Char)) : Scan String := do
  exactly (String.ofList [quote])
  let pieces ← many piece
  exactly (String.ofList [quote])
  return String.ofList pieces.flatten

/-- A string on one line in double quotes, with escapes. -/
def basicString : Scan String := shortString '"' (plainRun '"' true <|> escape)

/-- A string on one line in single quotes, without escapes. -/
def literalString : Scan String := shortString '\'' (plainRun '\'' false)

/-- A string in any notation. -/
def string : Scan String :=
  longString '"' (plainRun '"' true <|> escape <|> joinedLine) <|>
    longString '\'' (plainRun '\'' false) <|> basicString <|> literalString

/-! ### Numbers -/

/-- Digits, with single underscores between them. -/
def digitsWithUnderscores (base : Nat) : Scan (List Char) := do
  let isDigit := fun c => (digit? base c).isSome
  let first ← one isDigit
  let rest ← many (one isDigit <|> do exactly "_"; one isDigit)
  return first :: rest

/-- A sign, if there is one. -/
def sign : Scan (Option Char) := possibly (one fun c => c == '+' || c == '-')

/-- The digits of a decimal integer. Only a lone zero starts with a zero. -/
def decimalDigits : Scan (List Char) := do
  match ← peek with
  | some '0' => return [← one (· == '0')]
  | _ => digitsWithUnderscores 10

/-- An integer that fits 64 bits with a sign. -/
def fitting (number : Int) : Scan Value :=
  if -0x8000000000000000 ≤ number && number < 0x8000000000000000 then return .integer number else failure

/-- An integer. Only decimal integers may have a sign. -/
def integer : Scan Value :=
  (do exactly "0x"; fitting (numeral 16 (← digitsWithUnderscores 16))) <|>
  (do exactly "0o"; fitting (numeral 8 (← digitsWithUnderscores 8))) <|>
  (do exactly "0b"; fitting (numeral 2 (← digitsWithUnderscores 2))) <|>
  do
    let sign ← sign
    let number : Int := numeral 10 (← decimalDigits)
    fitting (if sign = some '-' then -number else number)

/-- Whether `mantissa * 10 ^ exponent` is too large for a floating-point number of 64 bits: at least half
a unit above the largest one, so that it would be rounded to infinity. -/
def overflows (mantissa : Nat) (exponent : Int) : Bool :=
  let size : Int := (Nat.toDigits 10 mantissa).length + exponent
  if mantissa = 0 || size < 300 then false
  else if 310 < size then true
  else (Nat.pow 2 1024 - Nat.pow 2 970) * Nat.pow 10 (-exponent).toNat ≤
    mantissa * Nat.pow 10 exponent.toNat

/-- The fraction of a number. -/
def fraction : Scan (List Char) := do
  exactly "."
  digitsWithUnderscores 10

/-- The exponent of a number. -/
def exponent : Scan Int := do
  let _ ← one fun c => c == 'e' || c == 'E'
  let sign ← sign
  let number : Int := numeral 10 (← digitsWithUnderscores 10)
  return if sign = some '-' then -number else number

/-- A floating-point number: with a fraction, an exponent or both. One too large above zero is refused,
while one too far below zero is taken. -/
def float : Scan Value := do
  let sign ← sign
  (do
    exactly "inf" <|> exactly "nan"
    return .float) <|> do
    let whole ← decimalDigits
    let (fraction, exponent) ←
      (do return (← fraction, (← possibly exponent).getD 0)) <|> do return ([], ← exponent)
    if sign != some '-' && overflows (numeral 10 (whole ++ fraction)) (exponent - fraction.length) then
      failure
    else return .float

/-! ### Moments in time -/

/-- Whether a year has a 29th of February. -/
def isLeapYear (year : Nat) : Bool := year % 4 = 0 && (year % 100 != 0 || year % 400 = 0)

/-- The number of days of a month. -/
def daysOf (year month : Nat) : Nat :=
  if month = 2 then if isLeapYear year then 29 else 28
  else if month = 4 || month = 6 || month = 9 || month = 11 then 30
  else 31

/-- A number of two digits within bounds. -/
def twoDigits (least greatest : Nat) : Scan Nat := do
  let number ← fixedDigits 10 2
  if least ≤ number && number ≤ greatest then return number else failure

/-- A day. -/
def date : Scan Unit := do
  let year ← fixedDigits 10 4
  exactly "-"
  let month ← twoDigits 1 12
  exactly "-"
  let _ ← twoDigits 1 (daysOf year month)

/-- A time of day, to the second or finer. -/
def time : Scan Unit := do
  let _ ← twoDigits 0 23
  exactly ":"
  let _ ← twoDigits 0 59
  exactly ":"
  let _ ← twoDigits 0 60
  let _ ← possibly do
    exactly "."
    let _ ← one Char.isDigit
    Scan.takeWhile Char.isDigit

/-- The distance of a time from universal time. -/
def timeOffset : Scan Unit :=
  (do let _ ← one fun c => c == 'Z' || c == 'z') <|> do
    let _ ← one fun c => c == '+' || c == '-'
    let _ ← twoDigits 0 23
    exactly ":"
    let _ ← twoDigits 0 59

/-- A time, a day, or a time of a certain day. -/
def moment : Scan Value := do
  time <|> do
    date
    let _ ← possibly do
      let _ ← one fun c => c == 'T' || c == 't' || c == ' '
      time
      let _ ← possibly timeOffset
  return .moment

/-- A truth value. -/
def boolean : Scan Value :=
  (do exactly "true"; return .boolean true) <|> do exactly "false"; return .boolean false

/-- A value without parts. -/
def scalar : Scan Value :=
  (.string <$> string) <|> boolean <|> moment <|> float <|> integer

end Wordbook.Toml
