import Wordbook.Text.CharacterKind

/-! Search patterns, which a log setting may compare values with. Nothing that the program logs has a value to
compare, so all that matters of a pattern is whether a text is one. A pattern stands between braces, and no
brace closes in it; so a repetition is never given by a number, and characters are not given by names or by
numbers in braces. This module has the modes in which patterns are read. -/
namespace Wordbook.Pattern

/-- How a pattern is read, which its groups may change. -/
structure Mode where
  /-- Blanks and comments are left out. -/
  spaced : Bool := false
  /-- The pattern goes by characters of all scripts, and not by bytes. -/
  unicode : Bool := true
deriving DecidableEq, Repr

namespace Mode

/-- The mode once a letter has switched something on or off. Most letters change what a pattern matches and
not how it is read. -/
def switch (mode : Mode) (letter : Char) (on : Bool) : Mode :=
  if letter == 'x' then { mode with spaced := on }
  else if letter == 'u' then { mode with unicode := on }
  else mode

/-- Passes over all marks of one kind and, if the mode leaves them out, over blanks and comments: the number of
the marks, and the text behind. A comment goes from a hash sign to the end of its line. -/
def passOver (mode : Mode) (mark : Option Char) (inComment : Bool) : List Char → Nat × List Char
  | [] => (0, [])
  | c :: rest =>
    if inComment then passOver mode mark (c != '\n') rest
    else if some c = mark then
      let (count, rest) := passOver mode mark false rest
      (count + 1, rest)
    else if mode.spaced && (c == '#' || Text.isBlank c) then passOver mode mark (c == '#') rest
    else (0, c :: rest)

/-- The text behind the blanks and comments that the mode leaves out. -/
def skip (mode : Mode) (text : List Char) : List Char := (mode.passOver none false text).2

/-- The character that is taken for the next one where it has to be known beforehand. Blanks and a hash sign are
passed over if the mode leaves them out, but the comment behind the sign is not. -/
def ahead (mode : Mode) (text : List Char) : Option Char :=
  if mode.spaced then go false text else text.head?
where
  go (behindHash : Bool) : List Char → Option Char
    | [] => text.head?
    | c :: rest =>
      if Text.isBlank c then go behindHash rest
      else if c == '#' && !behindHash then go true rest
      else some c

end Mode

end Wordbook.Pattern
