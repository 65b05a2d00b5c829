import Wordbook.CategoryMap
import Wordbook.Text.Lowercase

/-! The lexicon: the categories of every word, the other way round from the category map. Words are put
in lower case, so spellings that differ in case alone share one entry. A lexicon made from a category map
lists the categories of a word in ascending order and without repetition; a lexicon that was read from a
file lists what the file says. -/
namespace Wordbook

/-- The categories of every word. -/
structure Lexicon where
  entries : Table (List String) := ∅
deriving DecidableEq

namespace Lexicon

/-- The categories of a word, if the lexicon has the word. -/
def categories? (lexicon : Lexicon) (word : String) : Option (List String) := lexicon.entries[word]?

/-- Where a search by halves ends. Of a list with several entries the half is dropped that cannot have the one
looked for if the list is ascending; the search ends at the last entry left. -/
def searchEnd (wanted : String) (listed : List String) : Option String :=
  if _several : 1 < listed.length then
    let half := listed.length / 2
    if wanted < listed[half] then searchEnd wanted (listed.take (listed.length - half))
    else searchEnd wanted (listed.drop half)
  else listed.head?
termination_by listed.length

/-- Whether a word has a category, provided that its categories are listed in ascending order. -/
def hasCategory (lexicon : Lexicon) (word category : String) : Bool :=
  (lexicon.categories? word).any fun listed => searchEnd category listed == some category

/-- The number of words. -/
def size (lexicon : Lexicon) : Nat := lexicon.entries.size

/-- Whether there is no word. -/
def isEmpty (lexicon : Lexicon) : Bool := lexicon.entries.isEmpty

/-- The words with their categories, in ascending order of the words. -/
def toList (lexicon : Lexicon) : List (String × List String) := lexicon.entries.toList

end Lexicon

/-- The filings that turn the map round: each puts a category under a word in lower case. -/
def CategoryMap.turned (map : CategoryMap) : List Filing :=
  map.pairs.map fun pair => { category := Text.lowercase pair.2, words := [pair.1] }

/-- The lexicon of a category map. -/
def CategoryMap.toLexicon (map : CategoryMap) : Lexicon where
  entries := (ofFilings map.turned).categories.map fun _ categories => categories.toList

end Wordbook
