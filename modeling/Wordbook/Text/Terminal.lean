import Wordbook.Text.Quoted

/-! Text for a terminal. A terminal takes some control characters as commands, so that a text out of a file
could ring the bell, delete what was written or change the colours. These characters are given by their
numbers instead. All others stand as they are, the blanks that move on among them. -/
namespace Wordbook.Text

/-- Whether a terminal acts on the character: bell, backspace, form feed, escape and delete. -/
def isCommand (c : Char) : Bool :=
  c == '\x07' || c == '\x08' || c == '\x0c' || c == '\x1b' || c == '\x7f'

/-- Whether the character is one of the control characters from U+0080 on, which stand for an escape and a
further character each. -/
def isShortCommand (c : Char) : Bool := 0x80 ≤ c.toNat && c.toNat ≤ 0x9F

/-- One character on a terminal. -/
def terminalChar (c : Char) : List Char :=
  if isCommand c then ['\\', 'x', Nat.digitChar (c.toNat / 16), Nat.digitChar (c.toNat % 16)]
  else if isShortCommand c then byNumber c
  else [c]

/-- The text in a form that a terminal takes as mere text. -/
def forTerminal (text : String) : String := String.ofList (text.toList.flatMap terminalChar)

end Wordbook.Text
