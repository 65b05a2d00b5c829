import Wordbook.CategoryMap
import Wordbook.Lexicon.Basic
import Wordbook.Run
import Wordbook.Sources.Basic
import Wordbook.Verb.Family

/-! Assembly of the lexicon. Every part of the sources contributes filings of its own, and the lexicon is
the category map of all filings, turned round. Only the noun classes can make it fail. -/
namespace Wordbook

/-- How much a build put together. -/
structure Stats where
  nounClasses : Nat
  verbCategories : Nat
  categories : Nat
  words : Nat
deriving DecidableEq, Repr

/-- The words of indeclinable classes go under the names of those. -/
def indeclinableFilings (table : Table WordSet) : List Filing :=
  table.toList.map fun entry => { category := entry.1, words := entry.2.toList }

/-- The words of a class go under every category that the class carries. -/
def WordClass.filings (cls : WordClass) : List Filing :=
  cls.categories.map fun category => { category := category, words := cls.words.toList }

/-- The words of the classes that carry a category at all. -/
def carriedWords (classes : List WordClass) : WordSet :=
  (classes.filter fun cls => !cls.categories.isEmpty).foldl (fun words cls => words ∪ cls.words) ∅

/-- The forms of one noun of a class. The plural joins the class itself only where the nouns of the class
are said to be countable. -/
def nounFilings (irregular : IrregularForms) (cls : String) (countable : Option Bool) (noun : String) :
    List Filing :=
  let plural := irregular.plural noun
  let number : List Filing :=
    [{ category := "noun_sg", words := [noun] }, { category := "noun_pl", words := [plural] }]
  match countable with
  | some true =>
    number ++ [{ category := cls, words := [plural] },
      { category := "countable_noun", words := [noun, plural] }]
  | some false => number ++ [{ category := "uncountable_noun", words := [noun] }]
  | none => number

/-- The words of a resolved noun class go under its name, and the forms of each under their own. -/
def nounClassFilings (irregular : IrregularForms) (classes : Table NounClass) (cls : String)
    (words : WordSet) : List Filing :=
  { category := cls, words := words.toList } ::
    words.toList.flatMap (nounFilings irregular cls (classes[cls]?.bind NounClass.countable))

/-- The forms of the verbs of a tag, one category for each family. -/
def verbTagFilings (irregular : IrregularForms) (tag : String) (verbs : WordSet) : List Filing :=
  VerbFamily.all.map fun family =>
    { category := familyTag family.label tag
      words := (verbs.toList.map irregular.verbForms).flatMap family.forms }

/-- The adverb made from an adjective. -/
def adverbFilings (adjective : String) : List Filing :=
  let adverb := Inflection.adverb adjective
  [{ category := "adv", words := [adverb] }, { category := "adv_vp", words := [adverb] }]

/-- All filings of the sources, given the resolved noun classes and the tagged verbs. -/
def Sources.filings (sources : Sources) (nouns verbs : Table WordSet) : List Filing :=
  indeclinableFilings sources.indeclinable ++
    sources.adjectives.flatMap WordClass.filings ++
    nouns.toList.flatMap (fun entry =>
      nounClassFilings sources.irregular sources.nouns entry.1 entry.2) ++
    verbs.toList.flatMap (fun entry => verbTagFilings sources.irregular entry.1 entry.2) ++
    sources.adverbs.flatMap WordClass.filings ++
    (carriedWords sources.adjectives).toList.flatMap adverbFilings ++
    sources.prepositions.flatMap WordClass.filings

/-- The lexicon of the sources, and how much it holds. -/
def assemble (sources : Sources) : Run (Lexicon × Stats) := do
  let resolution := resolveNouns sources.nouns
  .report (resolution.steps.filterMap SearchStep.event?)
  let nouns ← .ofExcept (resolution.outcome.mapError .countability)
  .report [.nounsResolved nouns.size]
  let verbs := verbCategories sources.verbs
  .report ((verbFindings sources.verbs).filterMap VerbFinding.event?)
  .report [.verbsClassified verbs.size]
  let map := CategoryMap.ofFilings (sources.filings nouns verbs)
  let lexicon := map.toLexicon
  return (lexicon,
    { nounClasses := nouns.size
      verbCategories := verbs.size
      categories := map.categoryCount
      words := lexicon.size })

/-- A mismatch between noun classes is what an assembly fails with. -/
theorem result_assemble_of_error {sources : Sources} {mismatch : CountabilityMismatch}
    (failed : (resolveNouns sources.nouns).outcome = .error mismatch) :
    (assemble sources).result = .error (.countability mismatch) := by
  have mapped : (resolveNouns sources.nouns).outcome.mapError Failure.countability =
      .error (.countability mismatch) := by
    rw [failed]
    rfl
  simp [assemble, mapped, bind]

/-- Once the noun classes are resolved, nothing can fail any more. -/
theorem result_assemble_of_ok {sources : Sources} {nouns : Table WordSet}
    (resolved : (resolveNouns sources.nouns).outcome = .ok nouns) :
    let verbs := verbCategories sources.verbs
    let map := CategoryMap.ofFilings (sources.filings nouns verbs)
    (assemble sources).result = .ok (map.toLexicon,
      { nounClasses := nouns.size
        verbCategories := verbs.size
        categories := map.categoryCount
        words := map.toLexicon.size }) := by
  have mapped : (resolveNouns sources.nouns).outcome.mapError Failure.countability = .ok nouns := by
    rw [resolved]
    rfl
  simp [assemble, mapped, bind]

end Wordbook
