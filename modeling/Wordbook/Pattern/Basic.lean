import Wordbook.Pattern.CharacterClass

/-! Which texts are patterns. A pattern is read step by step with a stack of the groups that are open, and it is
complete when all are closed. The parts of a pattern may not lie too deep in each other, and borders of words
are known only where the pattern goes by bytes. -/
namespace Wordbook.Pattern

/-- The mode that letters switch to, with the letters seen and the text from the mark behind them on. Behind
a hyphen the letters switch something off. No letter and no hyphen stands twice, and the hyphen stands in
front of a letter. -/
def switches? (mode : Mode) (seen : List Char) (on : Bool) : List Char → Option (Mode × List Char × List Char)
  | [] => none
  | c :: rest =>
    if c == ':' || c == ')' then if seen.head? == some '-' then none else some (mode, seen, c :: rest)
    else if seen.contains c then none
    else if c == '-' then switches? mode (c :: seen) false rest
    else if "imsUuRx".toList.contains c then switches? (mode.switch c on) (c :: seen) on rest
    else none

/-- Whether a group may have the name. -/
def isGroupName : List Char → Bool
  | [] => false
  | first :: rest => (first == '_' || Text.isAlphabetic first) &&
    rest.all fun c => "_.[]".toList.contains c || Text.isAlphanumeric c

/-- A part of a pattern that has been read. -/
inductive Part where
  /-- Letters that switch the mode, which cannot be repeated. -/
  | switch
  /-- Anything else, with the depth of what lies in it. -/
  | item (depth : Nat)
deriving DecidableEq, Repr

/-- How deep the parts of a part lie in it. -/
def Part.depth : Part → Nat
  | switch => 0
  | item depth => depth

/-- The alternatives that a group has so far. -/
structure Alternatives where
  /-- The depths of those that are complete. -/
  complete : List Nat := []
  /-- The parts of the one under way, the latest first. -/
  parts : List Part := []
deriving DecidableEq, Repr

namespace Alternatives

/-- The depth of the alternative under way. -/
def currentDepth (alternatives : Alternatives) : Nat := wholeDepth (alternatives.parts.map Part.depth)

/-- How deep the alternatives lie in each other. -/
def depth (alternatives : Alternatives) : Nat :=
  wholeDepth (alternatives.currentDepth :: alternatives.complete)

/-- The alternatives with one more part. -/
def add (alternatives : Alternatives) (part : Part) : Alternatives :=
  { alternatives with parts := part :: alternatives.parts }

/-- The alternatives when the next one begins. -/
def next (alternatives : Alternatives) : Alternatives :=
  { complete := alternatives.currentDepth :: alternatives.complete }

end Alternatives

/-- How far a pattern has been read. -/
structure Progress where
  mode : Mode := {}
  /-- What has been read of the innermost open group, or of the pattern if no group is open. -/
  here : Alternatives := {}
  /-- What has been read around the open groups, with the mode there, the innermost first. -/
  around : List (Mode × Alternatives) := []
  /-- The names that groups have. -/
  names : List (List Char) := []
deriving DecidableEq, Repr

namespace Progress

/-- Behind one more part. -/
def add (progress : Progress) (part : Part) : Progress := { progress with here := progress.here.add part }

/-- Inside a group that is read in the mode. -/
def inGroup (progress : Progress) (mode : Mode) : Progress :=
  { progress with mode := mode, here := {}, around := (progress.mode, progress.here) :: progress.around }

/-- Inside a group with a name, from behind the bracket in front of the name. -/
def inNamedGroup? (progress : Progress) (text : List Char) : Option (Progress × List Char) :=
  match text.span (· != '>') with
  | (name, _ :: rest) =>
    if isGroupName name && !progress.names.contains name then
      some ({ progress.inGroup progress.mode with names := name :: progress.names }, rest)
    else none
  | (_, []) => none

/-- Inside the group that opened in front of the text. Instead of a group there may be letters that switch
the mode for the rest of the group around. -/
def opened? (progress : Progress) : List Char → Option (Progress × List Char)
  | '?' :: 'P' :: '<' :: rest | '?' :: '<' :: rest => progress.inNamedGroup? rest
  | '?' :: rest => do
    let (mode, letters, rest) ← switches? progress.mode [] true rest
    match rest with
    | ':' :: rest => some (progress.inGroup mode, rest)
    | _ :: rest => if letters.isEmpty then none else some ({ progress.add .switch with mode := mode }, rest)
    | [] => none
  | rest => some (progress.inGroup progress.mode, rest)

/-- Behind the group that closes. -/
def closed? (progress : Progress) : Option Progress :=
  match progress.around with
  | [] => none
  | (mode, alternatives) :: around => some
    { progress with
      mode := mode
      here := alternatives.add (.item (1 + progress.here.depth))
      around := around }

/-- Behind a mark that repeats the latest part. -/
def repeated? (progress : Progress) : Option Progress :=
  match progress.here.parts with
  | .item depth :: parts => some
    { progress with here := { progress.here with parts := .item (1 + depth) :: parts } }
  | _ => none

/-- One step into a pattern. A question mark right behind a repetition belongs to it. Where the pattern goes by
bytes there is no mark for any character. -/
def step? (progress : Progress) : List Char → Option (Progress × List Char)
  | [] => none
  | '(' :: rest => progress.opened? (progress.mode.skip rest)
  | ')' :: rest => do return (← progress.closed?, rest)
  | '|' :: rest => some ({ progress with here := progress.here.next }, rest)
  | '[' :: rest => do
    let (depth, rest) ← bracketed? progress.mode rest
    return (progress.add (.item depth), rest)
  | '\\' :: rest => do
    let (escape, rest) ← Escape.parse? progress.mode rest
    if escape = .wordBorder && progress.mode.unicode then none else some (progress.add (.item 0), rest)
  | '*' :: '?' :: rest | '+' :: '?' :: rest | '?' :: '?' :: rest
  | '*' :: rest | '+' :: rest | '?' :: rest => do return (← progress.repeated?, rest)
  | '{' :: _ => none
  | '.' :: rest => if progress.mode.unicode then some (progress.add (.item 0), rest) else none
  | _ :: rest => some (progress.add (.item 0), rest)

/-- The state behind the whole text. -/
def finish? (progress : Progress) (text : List Char) : Option Progress := go (text.length + 1) progress text
where
  go : Nat → Progress → List Char → Option Progress
    | 0, _, _ => none
    | fuel + 1, progress, text =>
      match progress.mode.skip text with
      | [] => some progress
      | text => do
        let (progress, rest) ← progress.step? text
        go fuel progress rest

end Progress

/-- How deep the parts of a pattern may lie in each other. -/
def depthLimit : Nat := 250

/-- Whether a text is a pattern. -/
def isPattern (text : List Char) : Bool :=
  match Progress.finish? {} text with
  | some progress => progress.around.isEmpty && progress.here.depth ≤ depthLimit
  | none => false

end Wordbook.Pattern
