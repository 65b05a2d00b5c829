import Wordbook.Inflection.Irregular
import Wordbook.Noun.Class
import Wordbook.Verb.Class

/-! Everything that a lexicon is built from, fully read. -/
namespace Wordbook

/-- Words that share the categories they carry: adjectives, adverbs or prepositions. -/
structure WordClass where
  words : WordSet := ∅
  categories : List String := []
deriving DecidableEq

/-- The sources of one build. -/
structure Sources where
  /-- Words that have one form only, by their category. -/
  indeclinable : Table WordSet := ∅
  adjectives : List WordClass := []
  adverbs : List WordClass := []
  prepositions : List WordClass := []
  /-- The noun classes by their names. -/
  nouns : Table NounClass := ∅
  verbs : List VerbClass := []
  irregular : IrregularForms := {}
deriving DecidableEq

end Wordbook
