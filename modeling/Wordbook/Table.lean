import Std.Data.ExtTreeMap
import Std.Data.ExtTreeSet

/-! Finite sets of words, and finite tables from names to values. Both list their contents in ascending
code-point order and are equal as soon as they have the same contents, so that nothing built on them
depends on the order in which they were filled. -/
namespace Wordbook

/-- A finite set of words. -/
abbrev WordSet := Std.ExtTreeSet String

/-- A finite table from names to values. -/
abbrev Table (α : Type) := Std.ExtTreeMap String α

/-- Adds words to the set kept under a name. The name gets an entry even when no word comes with it. -/
def Table.addWords (table : Table WordSet) (name : String) (words : List String) : Table WordSet :=
  table.alter name fun held => some ((held.getD ∅).insertMany words)

/-- Adding under one name leaves every other name as it was. -/
theorem Table.getElem?_addWords {table : Table WordSet} {name other : String} {words : List String} :
    (Table.addWords table name words)[other]? =
      if name = other then some ((table[name]?.getD ∅).insertMany words) else table[other]? := by
  simp [Table.addWords, Std.ExtTreeMap.getElem?_alter]

end Wordbook
