import Wordbook.Table

/-! The category map: which words are filed under which category. It is filled by filings, each of which
puts words under one category, and nothing is ever taken out. A category is there from its first filing
on, even when no word was filed under it. -/
namespace Wordbook

/-- Words that are put under one category. -/
structure Filing where
  category : String
  words : List String
deriving DecidableEq, Repr

/-- The words of every category. -/
structure CategoryMap where
  categories : Table WordSet := ∅

namespace CategoryMap

/-- Puts words under a category. -/
def file (map : CategoryMap) (filing : Filing) : CategoryMap where
  categories := Table.addWords map.categories filing.category filing.words

/-- Puts several words under a category, or just opens the category if there are none. -/
def extend (map : CategoryMap) (category : String) (words : List String) : CategoryMap :=
  map.file { category := category, words := words }

/-- Puts one word under a category. -/
def insert (map : CategoryMap) (category word : String) : CategoryMap :=
  map.extend category [word]

/-- The map that filings make when they are carried out one after another. -/
def ofFilings (filings : List Filing) : CategoryMap :=
  filings.foldl file {}

/-- The words of a category, if there is such a category. -/
def words? (map : CategoryMap) (category : String) : Option WordSet := map.categories[category]?

/-- The number of categories, the empty ones included. -/
def categoryCount (map : CategoryMap) : Nat := map.categories.size

/-- Every word with every category that it is filed under. -/
def pairs (map : CategoryMap) : List (String × String) :=
  map.categories.toList.flatMap fun entry => entry.2.toList.map fun word => (entry.1, word)

/-- A word and a category are paired exactly when the word is filed under the category. -/
theorem mem_pairs {map : CategoryMap} {category word : String} :
    (category, word) ∈ map.pairs ↔ ∃ words, map.words? category = some words ∧ word ∈ words := by
  simp only [pairs, words?, List.mem_flatMap, List.mem_map, Prod.exists, Prod.mk.injEq,
    Std.ExtTreeMap.mem_toList_iff_getElem?_eq_some, Std.ExtTreeSet.mem_toList]
  constructor
  · rintro ⟨_, words, held, _, member, rfl, rfl⟩
    exact ⟨words, held, member⟩
  · rintro ⟨words, held, member⟩
    exact ⟨category, words, held, word, member, rfl, rfl⟩

end CategoryMap

end Wordbook
