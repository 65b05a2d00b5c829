/-! Regular inflection: the spelling rules that give every word its regular forms. Each rule looks at
the last letters alone, so it answers for any text, the empty one included. Only the five small letters
`a e i o u` count as vowels, and endings are compared letter by letter without regard to case mapping. -/
namespace Wordbook.Inflection

/-- Whether the word ends in the given letters. -/
def endsIn (word ending : String) : Bool := ending.toList.isSuffixOf word.toList

/-- The word without its last letter. -/
def dropLast (word : String) : String := String.ofList word.toList.dropLast

/-- The part before the given ending, if the word has it. -/
def stem? (word ending : String) : Option String :=
  (ending.toList.isSuffixOf? word.toList).map String.ofList

/-- The letters that keep a following `y` from changing. -/
def isVowel (c : Char) : Bool := c == 'a' || c == 'e' || c == 'i' || c == 'o' || c == 'u'

/-- Whether the word ends in a `y` right behind a character that is no vowel. A lone `y` does not. -/
def endsInConsonantY (word : String) : Bool :=
  match word.toList.reverse with
  | 'y' :: before :: _ => !isVowel before
  | _ => false

/-- Whether the word ends in a hissing sound, after which an `s` needs an `e` before it. -/
def endsInSibilant (word : String) : Bool :=
  ["s", "sh", "ch", "x"].any (endsIn word)

/-- The form in `s`: the plural of a noun, and the third person singular of a verb. -/
def sForm (word : String) : String :=
  if endsInSibilant word then word ++ "es"
  else if endsInConsonantY word then dropLast word ++ "ies"
  else word ++ "s"

/-- The past tense of a verb. -/
def preterite (verb : String) : String :=
  if endsIn verb "e" then verb ++ "d"
  else if endsInConsonantY verb then dropLast verb ++ "ied"
  else verb ++ "ed"

/-- The form in `ing`. A final `ie` turns into `y` and any other final `e` is dropped, except in `be`. -/
def gerund (verb : String) : String :=
  match stem? verb "ie" with
  | some stem => stem ++ "ying"
  | none => if endsIn verb "e" && verb != "be" then dropLast verb ++ "ing" else verb ++ "ing"

/-- The adverb made from an adjective. -/
def adverb (adjective : String) : String :=
  if endsIn adjective "y" then dropLast adjective ++ "ily"
  else match stem? adjective "le" with
    | some stem => stem ++ "ly"
    | none => if endsIn adjective "ic" then adjective ++ "ally" else adjective ++ "ly"

end Wordbook.Inflection
