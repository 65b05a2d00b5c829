import Wordbook.Json.Text
import Wordbook.Lexicon.Basic

/-! The written form of a lexicon: one JSON object with the words as its keys, in ascending order, and an
array of categories for each. -/
namespace Wordbook.Lexicon

/-- One word with its categories. -/
def writeEntry (layout : Json.Layout) (entry : String × List String) : List Char :=
  Json.writeString entry.1 ++ layout.colon ++
    layout.bracketed '[' ']' 1 (entry.2.map Json.writeString)

/-- The lexicon in a layout. -/
def write (layout : Json.Layout) (lexicon : Lexicon) : String :=
  String.ofList (layout.bracketed '{' '}' 0 (lexicon.toList.map (writeEntry layout)))

/-- The text on one line. -/
def compactText (lexicon : Lexicon) : String := lexicon.write .compact

/-- The text that is saved to a file. -/
def savedText (lexicon : Lexicon) : String := lexicon.write .indented

end Wordbook.Lexicon
