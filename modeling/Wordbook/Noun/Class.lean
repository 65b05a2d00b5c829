import Wordbook.Table

/-! Noun classes. A class has words of its own and names other classes whose words it takes in. It may
say whether its nouns can be counted, and a class must not take in one that says the opposite. -/
namespace Wordbook

/-- A class of nouns. -/
structure NounClass where
  words : WordSet := ∅
  countable : Option Bool := none
  /-- The classes taken in, by reference. -/
  includes : List String := []
deriving DecidableEq

/-- The class that a reference means: a class may also be called by the name of its file. -/
def className (reference : String) : String :=
  match ".json".toList.isSuffixOf? reference.toList with
  | some name => String.ofList name
  | none => reference

/-- A class that takes in one of the opposite countability. -/
structure CountabilityMismatch where
  cls : String
  countable : Bool
  included : String
  includedCountable : Bool
deriving DecidableEq, Repr

/-- The mismatch between a class and a class that it takes in, if both say whether they can be counted and
do not say the same. -/
def mismatch? (name : String) (own : Option Bool) (included : String) (theirs : Option Bool) :
    Option CountabilityMismatch :=
  match own, theirs with
  | some own, some theirs =>
    if own = theirs then none
    else some { cls := name, countable := own, included := included, includedCountable := theirs }
  | _, _ => none

end Wordbook
