import Wordbook.Text.Unshowable

/-! Quoted text for messages. A quotation shows a text between double quotes on one line: the quote, the
backslash and the common control characters get a two-character escape, every other character that
cannot be shown is given by its number, and all else stands for itself. -/
namespace Wordbook.Text

/-- Whether a character may stand for itself in a quotation. -/
def isShowable (c : Char) : Bool :=
  0x20 ≤ c.toNat && !inRanges unshowableRanges c.toNat

/-- A character by its number in small hexadecimal digits. -/
def byNumber (c : Char) : List Char :=
  '\\' :: 'u' :: '{' :: Nat.toDigits 16 c.toNat ++ ['}']

/-- One character of a quotation. -/
def quotedChar : Char → List Char
  | '"' => ['\\', '"']
  | '\\' => ['\\', '\\']
  | '\n' => ['\\', 'n']
  | '\r' => ['\\', 'r']
  | '\t' => ['\\', 't']
  | '\x00' => ['\\', '0']
  | c => if isShowable c then [c] else byNumber c

/-- The text between double quotes. -/
def quoted (text : String) : String :=
  String.ofList ('"' :: text.toList.flatMap quotedChar ++ ['"'])

/-- The quotations of several texts, as a bracketed list. -/
def quotedList (texts : List String) : String :=
  "[" ++ ", ".intercalate (texts.map quoted) ++ "]"

end Wordbook.Text
