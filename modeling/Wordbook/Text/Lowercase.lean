import Wordbook.Text.LetterCase

/-! Lower-case text. Every letter has a small form of its own but for two cases: the dotted capital I,
whose small form is two characters, and the capital sigma, whose small form depends on its place.
At the end of a word a sigma is written `ς` and elsewhere `σ`. -/
namespace Wordbook.Text

/-- Whether the character has letter case. -/
def isCased (c : Char) : Bool := inRanges casedRanges c.toNat

/-- Whether the character is passed over when the neighbours of a sigma are looked for. -/
def isCaseIgnorable (c : Char) : Bool := inRanges caseIgnorableRanges c.toNat

/-- The small form of a character, wherever it stands. -/
def smallForm (c : Char) : List Char :=
  if c.toNat < 0x80 then [c.toLower]
  else if c = 'İ' then ['i', '\u0307']
  else match capitalRuns.find? (·.covers c.toNat) with
    | some run => [Char.ofNat (c.toNat + run.shift).toNat]
    | none => [c]

/-- Whether the text goes on with a letter, once the characters without a say are passed over. -/
def startsCased (text : List Char) : Bool :=
  (text.dropWhile isCaseIgnorable).head?.any isCased

/-- The lower-case form of the rest of a text, where `afterCased` tells whether the part before it ends
in a letter, the characters without a say passed over. -/
def lowercaseFrom (afterCased : Bool) : List Char → List Char
  | [] => []
  | c :: rest =>
    let small := if c = 'Σ' then [if afterCased && !startsCased rest then 'ς' else 'σ'] else smallForm c
    small ++ lowercaseFrom (if isCaseIgnorable c then afterCased else isCased c) rest

/-- The lower-case form of a text. -/
def lowercase (text : String) : String :=
  String.ofList (lowercaseFrom false text.toList)

end Wordbook.Text
