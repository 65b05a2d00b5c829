import Wordbook.Pattern.Escape

/-! Bracketed classes of patterns. A class is made of single characters, of stretches from one character to
another, and of other classes. Double marks join what stands on their two sides. Of a class this module finds
where it ends and how deep its parts lie in each other. -/
namespace Wordbook.Pattern

/-- How deep the parts of a whole lie in it: where there are several of them, the whole counts as well. -/
def wholeDepth : List Nat → Nat
  | [] => 0
  | [depth] => depth
  | depths => 1 + depths.foldl max 0

/-- A class that is not closed yet. -/
structure OpenClass where
  /-- The depths of the items, since the last double mark if there is one. -/
  items : List Nat := []
  /-- The depth of everything in front of the last double mark. -/
  joined : Option Nat := none
deriving DecidableEq, Repr

namespace OpenClass

/-- How deep the content lies in itself. -/
def depth (current : OpenClass) : Nat :=
  match current.joined with
  | none => wholeDepth current.items
  | some depth => 1 + max depth (wholeDepth current.items)

/-- The class with one more item. -/
def add (current : OpenClass) (depth : Nat) : OpenClass := { current with items := depth :: current.items }

/-- The class behind a double mark. -/
def join (current : OpenClass) : OpenClass := { joined := some current.depth }

/-- The class that opens in front of a text. Hyphens stand for themselves here, and so does a bracket that would
close an empty class. Where a pattern goes by bytes there are no complements, which would hold bytes beyond
ASCII. -/
def start? (mode : Mode) (text : List Char) : Option (OpenClass × List Char) :=
  match mode.skip text with
  | '^' :: rest => if mode.unicode then some (literals (mode.skip rest)) else none
  | text => some (literals text)
where
  literals (text : List Char) : OpenClass × List Char :=
    match mode.passOver (some '-') false text with
    | (0, ']' :: rest) => (({} : OpenClass).add 0, rest)
    | (hyphens, rest) => ({ items := List.replicate hyphens 0 }, rest)

end OpenClass

/-- The classes that have names. -/
def classNames : List String :=
  ["alnum", "alpha", "ascii", "blank", "cntrl", "digit", "graph", "lower", "print", "punct", "space", "upper",
   "word", "xdigit"]

/-- The text behind a class that is given by name between colons and brackets, from behind its first bracket;
and whether the complement of the class is meant. -/
def namedClass? : List Char → Option (Bool × List Char)
  | ':' :: '^' :: rest => (name? rest).map (true, ·)
  | ':' :: rest => (name? rest).map (false, ·)
  | _ => none
where
  name? (text : List Char) : Option (List Char) :=
    match text.span (· != ':') with
    | (name, ':' :: ']' :: rest) => if classNames.contains (String.ofList name) then some rest else none
    | _ => none

/-- A single character of a class, or none where there is a class. Where a pattern goes by bytes, the
characters are those of ASCII. -/
def classItem? (mode : Mode) : List Char → Option (Option Char × List Char)
  | [] => none
  | '\\' :: rest => match Escape.parse? mode rest with
    | some (.char c, rest) => single c rest
    | some (.kind, rest) => some (none, rest)
    | _ => none
  | c :: rest => single c rest
where
  single (c : Char) (rest : List Char) : Option (Option Char × List Char) :=
    if mode.unicode || c.toNat < 0x80 then some (some c, rest) else none

/-- The text behind an item of a class. A hyphen behind a character makes it the first one of a stretch, unless
the class closes there or the hyphen is one of two. The last character of a stretch may not come before the
first one. -/
def behindItem? (mode : Mode) (text : List Char) : Option (List Char) := do
  let (first, rest) ← classItem? mode text
  match mode.skip rest with
  | '-' :: behind =>
    if mode.ahead behind = some ']' || mode.ahead behind = some '-' then some ('-' :: behind)
    else
      let (last, rest) ← classItem? mode (mode.skip behind)
      if (← first) ≤ (← last) then some rest else none
  | rest => some rest

/-- How deep the parts of a class lie in each other, the class included, and the text behind it. Around the
class under way there may be others that are open, the innermost first. -/
def closedClass? (mode : Mode) : Nat → OpenClass → List OpenClass → List Char → Option (Nat × List Char)
  | 0, _, _, _ => none
  | fuel + 1, current, around, text =>
    match mode.skip text with
    | [] => none
    | ']' :: rest => match around with
      | [] => some (1 + current.depth, rest)
      | outer :: around => closedClass? mode fuel (outer.add (1 + current.depth)) around rest
    | '[' :: rest => match namedClass? rest with
      | some (isComplement, rest) =>
        if isComplement && !mode.unicode then none else closedClass? mode fuel (current.add 0) around rest
      | none => do
        let (inner, rest) ← OpenClass.start? mode rest
        closedClass? mode fuel inner (current :: around) rest
    | '&' :: '&' :: rest | '-' :: '-' :: rest | '~' :: '~' :: rest =>
      closedClass? mode fuel current.join around rest
    | text => do closedClass? mode fuel (current.add 0) around (← behindItem? mode text)

/-- The depth of a class and the text behind it, from behind the bracket that opens it. -/
def bracketed? (mode : Mode) (text : List Char) : Option (Nat × List Char) := do
  let (inner, rest) ← OpenClass.start? mode text
  closedClass? mode (text.length + 1) inner [] rest

end Wordbook.Pattern
