import Wordbook.Assembly
import Wordbook.Proofs.Filing
import Wordbook.Proofs.Noun.Reachability
import Wordbook.Proofs.Verb.Tagging

/-! What a lexicon is made of, rule by rule. A word can come under a category in a handful of ways, each with a rule
of its own here, and the rules say nothing of lists, tables being filled or the order in which that happens. An
assembly that succeeds lists exactly what the rules allow: no source is left out, none displaces another, and nothing
else gets in. -/
namespace Wordbook

/-- The form of a verb that the irregular table states, or else the given regular one. -/
def statedOr (irregular : IrregularForms) (form : IrregularVerb → Option String) (verb regular : String) : String :=
  (irregular.verbs[verb]?.bind form).getD regular

/-- The past tense of a verb. -/
def pastTense (irregular : IrregularForms) (verb : String) : String :=
  statedOr irregular IrregularVerb.preterite verb (Inflection.preterite verb)

/-- The forms of a verb, each under the label of a family that it belongs to. Each is looked up on its own, and the
past participle falls back on the past tense. -/
inductive VerbFormUnder (irregular : IrregularForms) (verb : String) : String → String → Prop where
  | base : VerbFormUnder irregular verb "inf" (statedOr irregular IrregularVerb.base verb verb)
  | preterite : VerbFormUnder irregular verb "vbd" (pastTense irregular verb)
  | pastParticiple : VerbFormUnder irregular verb "vbn"
      (statedOr irregular IrregularVerb.pastParticiple verb (pastTense irregular verb))
  | gerund : VerbFormUnder irregular verb "vbg" (statedOr irregular IrregularVerb.gerund verb (Inflection.gerund verb))
  | thirdSingular : VerbFormUnder irregular verb "vbz"
      (statedOr irregular IrregularVerb.thirdSingular verb (Inflection.sForm verb))
  | thirdPlural : VerbFormUnder irregular verb "vbp" (statedOr irregular IrregularVerb.thirdPlural verb verb)
  | singularPast : VerbFormUnder irregular verb "vbf_sg" (pastTense irregular verb)
  | singularPresent : VerbFormUnder irregular verb "vbf_sg"
      (statedOr irregular IrregularVerb.thirdSingular verb (Inflection.sForm verb))
  | pluralPast : VerbFormUnder irregular verb "vbf_pl" (pastTense irregular verb)
  | pluralPresent : VerbFormUnder irregular verb "vbf_pl" (statedOr irregular IrregularVerb.thirdPlural verb verb)

/-- The forms of a noun of a class, each under the categories that it belongs to. The flag is the one that the class
itself declares. -/
inductive NounFormUnder (irregular : IrregularForms) (cls : String) (flag : Option Bool) (noun : String) :
    String → String → Prop where
  | own : NounFormUnder irregular cls flag noun cls noun
  | singular : NounFormUnder irregular cls flag noun "noun_sg" noun
  | plural : NounFormUnder irregular cls flag noun "noun_pl" (irregular.plural noun)
  | ownPlural (countable : flag = some true) : NounFormUnder irregular cls flag noun cls (irregular.plural noun)
  | countable (countable : flag = some true) : NounFormUnder irregular cls flag noun "countable_noun" noun
  | countablePlural (countable : flag = some true) :
      NounFormUnder irregular cls flag noun "countable_noun" (irregular.plural noun)
  | uncountable (uncountable : flag = some false) : NounFormUnder irregular cls flag noun "uncountable_noun" noun

/-- The sources contribute a word to a category, given the resolved noun classes. -/
inductive Contributes (sources : Sources) (nouns : Table WordSet) : String → String → Prop where
  | indeclinable {category word : String} (held : Holds sources.indeclinable category word) :
      Contributes sources nouns category word
  | carried {cls : WordClass} {category word : String}
      (listed : cls ∈ sources.adjectives ∨ cls ∈ sources.adverbs ∨ cls ∈ sources.prepositions)
      (carries : category ∈ cls.categories) (member : word ∈ cls.words) : Contributes sources nouns category word
  | noun {cls noun category word : String} (held : Holds nouns cls noun)
      (form : NounFormUnder sources.irregular cls (flagOf sources.nouns cls) noun category word) :
      Contributes sources nouns category word
  | verb {rest verb label word : String} (held : Holds (verbCategories sources.verbs) ("vb" ++ rest) verb)
      (form : VerbFormUnder sources.irregular verb label word) : Contributes sources nouns (label ++ rest) word
  | adverb {cls : WordClass} {category adjective : String} (listed : cls ∈ sources.adjectives)
      (carries : cls.categories ≠ []) (member : adjective ∈ cls.words) (kind : category = "adv" ∨ category = "adv_vp") :
      Contributes sources nouns category (Inflection.adverb adjective)

variable {sources : Sources} {nouns table : Table WordSet} {irregular : IrregularForms} {classes : List WordClass}
variable {category word verb label name tag : String} {words : WordSet} {flag : Option Bool}

/-! ## Forms -/

theorem getD_stated {form : IrregularVerb → Option String} {regular : String} (blank : form {} = none) :
    (form (irregular.verbs[verb]?.getD {})).getD regular = statedOr irregular form verb regular := by
  cases entry : irregular.verbs[verb]? <;> simp [statedOr, entry, blank]

theorem verbForms_eq : irregular.verbForms verb =
    { base := statedOr irregular IrregularVerb.base verb verb
      preterite := pastTense irregular verb
      pastParticiple := statedOr irregular IrregularVerb.pastParticiple verb (pastTense irregular verb)
      gerund := statedOr irregular IrregularVerb.gerund verb (Inflection.gerund verb)
      thirdSingular := statedOr irregular IrregularVerb.thirdSingular verb (Inflection.sForm verb)
      thirdPlural := statedOr irregular IrregularVerb.thirdPlural verb verb } := by
  simp only [IrregularForms.verbForms, pastTense, ← getD_stated]

/-- The families file exactly the forms under their labels. -/
theorem verbFormUnder_iff : VerbFormUnder irregular verb label word ↔
    ∃ family ∈ VerbFamily.all, family.label = label ∧ word ∈ family.forms (irregular.verbForms verb) := by
  rw [verbForms_eq]
  constructor
  · intro form
    cases form with
    | base => exact ⟨.infinitive, by decide, rfl, by simp [VerbFamily.forms]⟩
    | preterite => exact ⟨.preterite, by decide, rfl, by simp [VerbFamily.forms]⟩
    | pastParticiple => exact ⟨.pastParticiple, by decide, rfl, by simp [VerbFamily.forms]⟩
    | gerund => exact ⟨.gerund, by decide, rfl, by simp [VerbFamily.forms]⟩
    | thirdSingular => exact ⟨.thirdSingular, by decide, rfl, by simp [VerbFamily.forms]⟩
    | thirdPlural => exact ⟨.thirdPlural, by decide, rfl, by simp [VerbFamily.forms]⟩
    | singularPast => exact ⟨.finiteSingular, by decide, rfl, by simp [VerbFamily.forms]⟩
    | singularPresent => exact ⟨.finiteSingular, by decide, rfl, by simp [VerbFamily.forms]⟩
    | pluralPast => exact ⟨.finitePlural, by decide, rfl, by simp [VerbFamily.forms]⟩
    | pluralPresent => exact ⟨.finitePlural, by decide, rfl, by simp [VerbFamily.forms]⟩
  · rintro ⟨family, _, rfl, member⟩
    cases family <;> simp only [VerbFamily.forms, List.mem_cons, List.not_mem_nil, or_false] at member
    case infinitive => exact member ▸ .base
    case preterite => exact member ▸ .preterite
    case pastParticiple => exact member ▸ .pastParticiple
    case gerund => exact member ▸ .gerund
    case thirdSingular => exact member ▸ .thirdSingular
    case thirdPlural => exact member ▸ .thirdPlural
    case finiteSingular =>
      rcases member with rfl | rfl
      · exact .singularPast
      · exact .singularPresent
    case finitePlural =>
      rcases member with rfl | rfl
      · exact .pluralPast
      · exact .pluralPresent

/-- What is filed for one noun, as alternatives. -/
theorem puts_nounFilings {noun : String} : Puts (nounFilings irregular name flag noun) category word ↔
    ("noun_sg" = category ∧ word = noun) ∨ ("noun_pl" = category ∧ word = irregular.plural noun) ∨
    (flag = some true ∧ ((name = category ∧ word = irregular.plural noun) ∨
      ("countable_noun" = category ∧ (word = noun ∨ word = irregular.plural noun)))) ∨
    (flag = some false ∧ "uncountable_noun" = category ∧ word = noun) := by
  rcases flag with _ | _ | _ <;> simp [nounFilings]

/-- The forms of a noun of a class are the noun itself, under the class, and what is filed for it. -/
theorem nounFormUnder_iff {noun : String} : NounFormUnder irregular name flag noun category word ↔
    (name = category ∧ word = noun) ∨ Puts (nounFilings irregular name flag noun) category word := by
  rw [puts_nounFilings]
  constructor
  · intro form
    cases form <;> simp [*]
  · rintro (⟨rfl, rfl⟩ | ⟨rfl, rfl⟩ | ⟨rfl, rfl⟩ | ⟨countable, ⟨rfl, rfl⟩ | ⟨rfl, rfl | rfl⟩⟩ | ⟨uncountable, rfl, rfl⟩)
    · exact .own
    · exact .singular
    · exact .plural
    · exact .ownPlural countable
    · exact .countable countable
    · exact .countablePlural countable
    · exact .uncountable uncountable

/-! ## The filings of each source -/

theorem puts_indeclinableFilings : Puts (indeclinableFilings table) category word ↔ Holds table category word := by
  simp only [indeclinableFilings, puts_map, Std.ExtTreeSet.mem_toList, mem_toList_holds]

theorem puts_wordClass {cls : WordClass} :
    Puts cls.filings category word ↔ category ∈ cls.categories ∧ word ∈ cls.words := by
  simp only [WordClass.filings, puts_map, Std.ExtTreeSet.mem_toList]
  constructor
  · rintro ⟨_, carries, rfl, member⟩
    exact ⟨carries, member⟩
  · rintro ⟨carries, member⟩
    exact ⟨category, carries, rfl, member⟩

theorem mem_foldl_words : word ∈ classes.foldl (fun words cls => words ∪ cls.words) words ↔
    word ∈ words ∨ ∃ cls ∈ classes, word ∈ cls.words := by
  induction classes generalizing words with
  | nil => simp
  | cons first rest ih => simp [ih, or_assoc]

/-- A class without categories brings no word along. -/
theorem mem_carriedWords :
    word ∈ carriedWords classes ↔ ∃ cls ∈ classes, cls.categories ≠ [] ∧ word ∈ cls.words := by
  simp [carriedWords, mem_foldl_words, and_assoc]

theorem puts_adverbFilings {adjective : String} : Puts (adverbFilings adjective) category word ↔
    (category = "adv" ∨ category = "adv_vp") ∧ word = Inflection.adverb adjective := by
  simp [adverbFilings, or_and_right, eq_comm]

theorem puts_nounClassFilings {nounClasses : Table NounClass} :
    Puts (nounClassFilings irregular nounClasses name words) category word ↔
      ∃ noun ∈ words, NounFormUnder irregular name (flagOf nounClasses name) noun category word := by
  simp only [nounClassFilings, puts_cons, puts_flatMap, Std.ExtTreeSet.mem_toList, nounFormUnder_iff, and_or_left,
    exists_or, flagOf]
  refine or_congr_left ?_
  constructor
  · rintro ⟨same, member⟩
    exact ⟨word, member, same, rfl⟩
  · rintro ⟨_, member, same, rfl⟩
    exact ⟨same, member⟩

theorem puts_verbTagFilings {verbs : WordSet} : Puts (verbTagFilings irregular tag verbs) category word ↔
    ∃ verb ∈ verbs, ∃ label, familyTag label tag = category ∧ VerbFormUnder irregular verb label word := by
  simp only [verbTagFilings, puts_map, List.mem_flatMap, List.mem_map, Std.ExtTreeSet.mem_toList, verbFormUnder_iff]
  constructor
  · rintro ⟨family, listed, named, _, ⟨verb, member, rfl⟩, form⟩
    exact ⟨verb, member, family.label, named, family, listed, rfl, form⟩
  · rintro ⟨verb, member, _, named, family, listed, rfl, form⟩
    exact ⟨family, listed, named, _, ⟨verb, member, rfl⟩, form⟩

/-- A tag without verbs has no word filed for it, and a tag with a verb begins with `vb`. -/
theorem puts_verbFilings : (∃ entry ∈ (verbCategories sources.verbs).toList,
      Puts (verbTagFilings irregular entry.1 entry.2) category word) ↔
    ∃ rest verb label, Holds (verbCategories sources.verbs) ("vb" ++ rest) verb ∧ label ++ rest = category ∧
      VerbFormUnder irregular verb label word := by
  simp only [puts_verbTagFilings]
  constructor
  · rintro ⟨⟨tag, verbs⟩, listed, verb, member, label, named, form⟩
    have held : Holds (verbCategories sources.verbs) tag verb := mem_toList_holds.1 ⟨_, listed, rfl, member⟩
    obtain ⟨rest, rfl⟩ := verbCategories_beginsVb held
    exact ⟨rest, verb, label, held, by simpa using named, form⟩
  · rintro ⟨rest, verb, label, held, named, form⟩
    obtain ⟨entry, listed, same, member⟩ := mem_toList_holds.2 held
    exact ⟨entry, listed, verb, member, label, by simpa [same] using named, form⟩

/-! ## The whole assembly -/

/-- The filings put words where the rules allow it. -/
theorem puts_filings_iff : Puts (sources.filings nouns (verbCategories sources.verbs)) category word ↔
    Contributes sources nouns category word := by
  simp only [Sources.filings, puts_append, puts_flatMap, puts_indeclinableFilings, puts_wordClass,
    puts_nounClassFilings, puts_verbFilings, puts_adverbFilings, Std.ExtTreeSet.mem_toList, mem_carriedWords]
  constructor
  · rintro ((((((held | ⟨cls, listed, carries, member⟩) | ⟨⟨cls, words⟩, listed, noun, member, form⟩) |
      ⟨rest, verb, label, held, rfl, form⟩) | ⟨cls, listed, carries, member⟩) |
      ⟨adjective, ⟨cls, listed, carries, member⟩, kind, rfl⟩) | ⟨cls, listed, carries, member⟩)
    · exact .indeclinable held
    · exact .carried (.inl listed) carries member
    · exact .noun (mem_toList_holds.1 ⟨_, listed, rfl, member⟩) form
    · exact .verb held form
    · exact .carried (.inr (.inl listed)) carries member
    · exact .adverb listed carries member kind
    · exact .carried (.inr (.inr listed)) carries member
  · intro contributes
    cases contributes with
    | indeclinable held => simp only [held, true_or]
    | @carried cls _ _ listed carries member =>
      have carried : category ∈ cls.categories ∧ word ∈ cls.words := ⟨carries, member⟩
      have among {files : List WordClass} (listed : cls ∈ files) :
          ∃ cls ∈ files, category ∈ cls.categories ∧ word ∈ cls.words := ⟨cls, listed, carried⟩
      rcases listed with listed | listed | listed <;> simp only [among listed, true_or, or_true]
    | @noun cls noun _ _ held form =>
      obtain ⟨entry, listed, rfl, member⟩ := mem_toList_holds.2 held
      have among : ∃ entry ∈ nouns.toList, ∃ noun ∈ entry.2, NounFormUnder sources.irregular entry.1
          (flagOf sources.nouns entry.1) noun category word := ⟨entry, listed, noun, member, form⟩
      simp only [among, true_or, or_true]
    | @verb rest verb label _ held form =>
      have among : ∃ rest' verb label', Holds (verbCategories sources.verbs) ("vb" ++ rest') verb ∧
          label' ++ rest' = label ++ rest ∧ VerbFormUnder sources.irregular verb label' word :=
        ⟨rest, verb, label, held, rfl, form⟩
      simp only [among, true_or, or_true]
    | @adverb cls _ adjective listed carries member kind =>
      have among : ∃ found, (∃ cls ∈ sources.adjectives, cls.categories ≠ [] ∧ found ∈ cls.words) ∧
          (category = "adv" ∨ category = "adv_vp") ∧ Inflection.adverb adjective = Inflection.adverb found :=
        ⟨adjective, ⟨cls, listed, carries, member⟩, kind, rfl⟩
      simp only [among, true_or, or_true]

/-- The lexicon of the filings lists what is contributed, in lower case. -/
theorem lists_filings : (CategoryMap.ofFilings (sources.filings nouns (verbCategories sources.verbs))).toLexicon.Lists
      word category ↔ ∃ form, Text.lowercase form = word ∧ Contributes sources nouns category form := by
  simp only [lists_toLexicon, holds_ofFilings, puts_filings_iff]

/-- An assembly that succeeds has resolved the noun classes, and what it gives is made of the filings. -/
theorem assemble_ok {lexicon : Lexicon} {stats : Stats} (ran : (assemble sources).result = .ok (lexicon, stats)) :
    ∃ nouns, (resolveNouns sources.nouns).outcome = .ok nouns ∧
      lexicon = (CategoryMap.ofFilings (sources.filings nouns (verbCategories sources.verbs))).toLexicon ∧
      stats = {
        nounClasses := nouns.size
        verbCategories := (verbCategories sources.verbs).size
        categories := (CategoryMap.ofFilings (sources.filings nouns (verbCategories sources.verbs))).categoryCount
        words := lexicon.size } := by
  cases outcome : (resolveNouns sources.nouns).outcome with
  | error mismatch =>
    rw [result_assemble_of_error outcome] at ran
    cases ran
  | ok nouns =>
    rw [result_assemble_of_ok outcome, Except.ok.injEq, Prod.mk.injEq] at ran
    obtain ⟨rfl, rfl⟩ := ran
    exact ⟨nouns, rfl, rfl, rfl⟩

/-- An assembly that succeeds has resolved the noun classes, and its lexicon lists a category under a word exactly if
some form of the word, in whatever letter case, is contributed to the category. -/
theorem assemble_lists_iff {lexicon : Lexicon} {stats : Stats}
    (ran : (assemble sources).result = .ok (lexicon, stats)) :
    ∃ nouns, (resolveNouns sources.nouns).outcome = .ok nouns ∧ ∀ word category,
      lexicon.Lists word category ↔ ∃ form, Text.lowercase form = word ∧ Contributes sources nouns category form := by
  obtain ⟨nouns, resolved, rfl, _⟩ := assemble_ok ran
  exact ⟨nouns, resolved, fun word category => lists_filings⟩

/-- Nouns, a phrasal verb with an irregular past tense, and a word that has one form only. -/
def breakfast : Sources where
  indeclinable := .ofList [("det", (.ofList ["The"] : WordSet))]
  nouns := pantry
  verbs := [{ members := ["Eat__up"], frames := [{ primary := ["NP.agent", "V", "NP"] }] }]
  irregular := { verbs := .ofList [("eat", ({ preterite := some "ate" } : IrregularVerb))] }

/-- The past participle is the stated past tense, and letter case is gone. -/
theorem breakfast_lists : ∃ lexicon stats, (assemble breakfast).result = .ok (lexicon, stats) ∧
    lexicon.Lists "the" "det" ∧ lexicon.Lists "ate" "vbn_prt_up_o" := by
  obtain ⟨nouns, resolved⟩ := pantry_resolves
  have ran := result_assemble_of_ok (show (resolveNouns breakfast.nouns).outcome = .ok nouns from resolved)
  obtain ⟨_, _, lists⟩ := assemble_lists_iff ran
  have participle : VerbFormUnder breakfast.irregular "eat" "vbn" "ate" := by
    have stated : statedOr breakfast.irregular IrregularVerb.pastParticiple "eat"
        (pastTense breakfast.irregular "eat") = "ate" := by decide +kernel
    exact stated ▸ .pastParticiple
  refine ⟨_, _, ran, (lists ..).2 ⟨"The", by decide +kernel, ?_⟩, (lists ..).2 ⟨"ate", by decide +kernel, ?_⟩⟩
  · exact .indeclinable (by decide +kernel)
  · exact .verb (by decide +kernel : Holds (verbCategories breakfast.verbs) ("vb" ++ "_prt_up_o") "eat") participle

end Wordbook
