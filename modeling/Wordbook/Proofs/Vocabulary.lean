import Wordbook.Proofs.Contribution
import Wordbook.Proofs.Lexicon.Transposition

/-! What inclusions among noun classes cannot change. Which class has which nouns depends on what the classes take in
and, on cycles, on where the search came into them. That some class has a noun does not: every class has its own words,
and whatever a class has is an own word of some class. So the words of the lexicon, and the singulars and plurals
among them, are the same whatever the classes take in. -/
namespace Wordbook

/-- Two tables define the same classes with the same words and flags. What the classes take in may differ. -/
def Relinks (classes other : Table NounClass) : Prop :=
  ∀ name : String, (classes[name]?).map (fun cls : NounClass => (cls.words, cls.countable)) =
    (other[name]?).map fun cls : NounClass => (cls.words, cls.countable)

/-- Two sources differ at most in what their noun classes take in. -/
def Relinked (sources second : Sources) : Prop :=
  ∃ classes, Relinks sources.nouns classes ∧ second = { sources with nouns := classes }

variable {classes other : Table NounClass} {sources second : Sources} {nouns nouns' resolved : Table WordSet}
variable {irregular : IrregularForms} {flag : Option Bool} {name category noun word : String} {map : CategoryMap}

theorem Relinks.symm (relinks : Relinks classes other) : Relinks other classes := fun name => (relinks name).symm

theorem Relinks.entry {cls : NounClass} (relinks : Relinks classes other) (entry : classes[name]? = some cls) :
    ∃ twin, other[name]? = some twin ∧ twin.words = cls.words := by
  have same := relinks name
  rw [entry] at same
  cases twinEntry : other[name]? with
  | none => simp [twinEntry] at same
  | some twin =>
    simp only [twinEntry, Option.map_some, Option.some.injEq, Prod.mk.injEq] at same
    exact ⟨twin, rfl, same.1.symm⟩

theorem Relinks.mem (relinks : Relinks classes other) (member : name ∈ classes) : name ∈ other := by
  obtain ⟨_, entry⟩ := entry_of_mem member
  obtain ⟨_, twinEntry, _⟩ := relinks.entry entry
  exact mem_of_entry twinEntry

theorem Relinks.ownWord (relinks : Relinks classes other) (own : OwnWord classes name word) :
    OwnWord other name word := by
  obtain ⟨_, entry, member⟩ := own
  obtain ⟨twin, twinEntry, words⟩ := relinks.entry entry
  exact ⟨twin, twinEntry, words ▸ member⟩

/-- Some class holds a noun exactly if it is an own word of some class. -/
theorem exists_holds_iff (ran : (resolveNouns classes).outcome = .ok resolved) :
    (∃ name, Holds resolved name noun) ↔ ∃ name, OwnWord classes name noun := by
  constructor
  · rintro ⟨name, holds⟩
    obtain ⟨owner, _, own⟩ := resolved_within ran holds
    exact ⟨owner, own⟩
  · exact fun ⟨name, own⟩ => ⟨name, resolved_holds_own ran own⟩

/-- So a noun that some class holds is held by some class of other classes with the same words. -/
theorem Relinks.exists_holds (relinks : Relinks classes other) (ran : (resolveNouns classes).outcome = .ok nouns)
    (ran' : (resolveNouns other).outcome = .ok nouns') (holds : Holds nouns name noun) :
    ∃ name, Holds nouns' name noun := by
  obtain ⟨owner, own⟩ := (exists_holds_iff ran).1 ⟨name, holds⟩
  exact (exists_holds_iff ran').2 ⟨owner, relinks.ownWord own⟩

/-! ## Contributions of nouns -/

/-- What is contributed is a form of a noun, or is contributed whatever the noun classes are. -/
theorem Contributes.noun_or (contributes : Contributes sources nouns category word) :
    (∃ name noun, Holds nouns name noun ∧
      NounFormUnder sources.irregular name (flagOf sources.nouns name) noun category word) ∨
    ∀ other nouns', Contributes { sources with nouns := other } nouns' category word := by
  cases contributes with
  | indeclinable held => exact .inr fun _ _ => .indeclinable held
  | carried listed carries member => exact .inr fun _ _ => .carried listed carries member
  | noun held form => exact .inl ⟨_, _, held, form⟩
  | verb held form => exact .inr fun _ _ => .verb held form
  | adverb listed carries member kind => exact .inr fun _ _ => .adverb listed carries member kind

theorem NounFormUnder.noun_or_plural (form : NounFormUnder irregular name flag noun category word) :
    word = noun ∨ word = irregular.plural noun := by
  cases form <;> simp

/-- Under the names of the numbers stands what they say, unless a class has such a name. -/
theorem nounFormUnder_number (notSingular : name ≠ "noun_sg") (notPlural : name ≠ "noun_pl") :
    (NounFormUnder irregular name flag noun "noun_sg" word ↔ word = noun) ∧
    (NounFormUnder irregular name flag noun "noun_pl" word ↔ word = irregular.plural noun) := by
  simp [nounFormUnder_iff, puts_nounFilings, notSingular, notPlural]

theorem Relinked.symm (relinked : Relinked sources second) : Relinked second sources := by
  obtain ⟨_, relinks, rfl⟩ := relinked
  exact ⟨sources.nouns, relinks.symm, rfl⟩

theorem Relinked.mem (relinked : Relinked sources second) (member : name ∈ sources.nouns) : name ∈ second.nouns := by
  obtain ⟨_, relinks, rfl⟩ := relinked
  exact relinks.mem member

section Relinked
variable (relinked : Relinked sources second) (ran : (resolveNouns sources.nouns).outcome = .ok nouns)
variable (ran' : (resolveNouns second.nouns).outcome = .ok nouns')
include relinked ran ran'

/-- A word that is contributed at all is contributed with other inclusions as well. -/
theorem contributes_relinked (contributes : ∃ category, Contributes sources nouns category word) :
    ∃ category, Contributes second nouns' category word := by
  obtain ⟨other, relinks, rfl⟩ := relinked
  obtain ⟨category, contributes⟩ := contributes
  rcases contributes.noun_or with ⟨name, noun, held, form⟩ | always
  · obtain ⟨holder, held⟩ := relinks.exists_holds ran ran' held
    rcases form.noun_or_plural with rfl | rfl
    · exact ⟨_, .noun held .singular⟩
    · exact ⟨_, .noun held .plural⟩
  · exact ⟨category, always other nouns'⟩

/-- And so is a singular or a plural, unless a class is named like these. -/
theorem contributes_number_relinked (notSingular : "noun_sg" ∉ sources.nouns) (notPlural : "noun_pl" ∉ sources.nouns)
    (number : category = "noun_sg" ∨ category = "noun_pl") (contributes : Contributes sources nouns category word) :
    Contributes second nouns' category word := by
  obtain ⟨other, relinks, rfl⟩ := relinked
  rcases contributes.noun_or with ⟨name, noun, held, form⟩ | always
  · have defined : name ∈ sources.nouns := (resolved_mem_iff ran).1 held.mem
    have apart : name ≠ "noun_sg" ∧ name ≠ "noun_pl" :=
      ⟨fun same => notSingular (same ▸ defined), fun same => notPlural (same ▸ defined)⟩
    obtain ⟨holder, held⟩ := relinks.exists_holds ran ran' held
    rcases number with rfl | rfl
    · rw [(nounFormUnder_number apart.1 apart.2).1.1 form]
      exact .noun held .singular
    · rw [(nounFormUnder_number apart.1 apart.2).2.1 form]
      exact .noun held .plural
  · exact always other nouns'

end Relinked

/-! ## Two assemblies -/

/-- What an assembly that succeeds has made of the sources. -/
structure Assembled (sources : Sources) (nouns : Table WordSet) (lexicon : Lexicon) (stats : Stats) : Prop where
  resolved : (resolveNouns sources.nouns).outcome = .ok nouns
  lists : ∀ word category, lexicon.Lists word category ↔
    ∃ form, Text.lowercase form = word ∧ Contributes sources nouns category form
  entries : ∀ word, word ∈ lexicon.entries ↔ ∃ category, lexicon.Lists word category
  words : stats.words = lexicon.size

variable {lexicon lexicon' : Lexicon} {stats stats' : Stats}

theorem mem_toLexicon : word ∈ map.toLexicon.entries ↔ ∃ category, map.toLexicon.Lists word category := by
  rw [← mem_turned]
  simp [CategoryMap.toLexicon]

theorem assembled_of_ok (ran : (assemble sources).result = .ok (lexicon, stats)) :
    ∃ nouns, Assembled sources nouns lexicon stats := by
  obtain ⟨nouns, resolved, rfl, rfl⟩ := assemble_ok ran
  exact ⟨nouns, resolved, fun _ _ => lists_filings, fun _ => mem_toLexicon, rfl⟩

theorem size_eq_of_mem_iff {α β : Type} {table : Table α} {second : Table β}
    (same : ∀ name, name ∈ second ↔ name ∈ table) : second.size = table.size := by
  have keys : ∀ name, name ∈ table ↔ name ∈ table.keys.toFinset := by simp
  rw [size_eq_card keys, size_eq_card fun name => (same name).trans (keys name)]

/-- The lexicon has an entry for every word that is contributed in some letter case. -/
theorem Assembled.mem_iff (assembled : Assembled sources nouns lexicon stats) : word ∈ lexicon.entries ↔
    ∃ form, Text.lowercase form = word ∧ ∃ category, Contributes sources nouns category form := by
  simp only [assembled.entries, assembled.lists]
  constructor
  · rintro ⟨category, form, lower, contributes⟩
    exact ⟨form, lower, category, contributes⟩
  · rintro ⟨form, lower, category, contributes⟩
    exact ⟨category, form, lower, contributes⟩

/-- A noun of a class is listed under the class and as a singular. -/
theorem Assembled.lists_own (assembled : Assembled sources nouns lexicon stats)
    (own : OwnWord sources.nouns name noun) :
    lexicon.Lists (Text.lowercase noun) name ∧ lexicon.Lists (Text.lowercase noun) "noun_sg" := by
  have held := resolved_holds_own assembled.resolved own
  exact ⟨(assembled.lists ..).2 ⟨noun, rfl, .noun held .own⟩,
    (assembled.lists ..).2 ⟨noun, rfl, .noun held .singular⟩⟩

/-- Two assemblies of sources that differ only in what their noun classes take in. Their lexicons have the same words,
and the same singulars and plurals among them unless a class is named like these; and each lists every noun under its
class and as a singular. -/
theorem vocabulary_of_relinked (relinked : Relinked sources second)
    (ran : (assemble sources).result = .ok (lexicon, stats))
    (ran' : (assemble second).result = .ok (lexicon', stats')) :
    (∀ word, word ∈ lexicon'.entries ↔ word ∈ lexicon.entries) ∧ stats'.words = stats.words ∧
    ("noun_sg" ∉ sources.nouns → "noun_pl" ∉ sources.nouns → ∀ word,
      (lexicon'.Lists word "noun_sg" ↔ lexicon.Lists word "noun_sg") ∧
      (lexicon'.Lists word "noun_pl" ↔ lexicon.Lists word "noun_pl")) ∧
    (∀ name noun, OwnWord sources.nouns name noun →
      lexicon.Lists (Text.lowercase noun) name ∧ lexicon.Lists (Text.lowercase noun) "noun_sg") ∧
    ∀ name noun, OwnWord second.nouns name noun →
      lexicon'.Lists (Text.lowercase noun) name ∧ lexicon'.Lists (Text.lowercase noun) "noun_sg" := by
  obtain ⟨nouns, first⟩ := assembled_of_ok ran
  obtain ⟨nouns', again⟩ := assembled_of_ok ran'
  have words : ∀ word, word ∈ lexicon'.entries ↔ word ∈ lexicon.entries := by
    intro word
    rw [first.mem_iff, again.mem_iff]
    exact exists_congr fun form => and_congr_right fun _ =>
      ⟨contributes_relinked relinked.symm again.resolved first.resolved,
        contributes_relinked relinked first.resolved again.resolved⟩
  refine ⟨words, ?_, fun notSingular notPlural word => ?_, fun _ _ => first.lists_own, fun _ _ => again.lists_own⟩
  · rw [again.words, first.words]
    exact size_eq_of_mem_iff words
  · have notSingular' : "noun_sg" ∉ second.nouns := fun member => notSingular (relinked.symm.mem member)
    have notPlural' : "noun_pl" ∉ second.nouns := fun member => notPlural (relinked.symm.mem member)
    have number (category : String) (number : category = "noun_sg" ∨ category = "noun_pl") :
        lexicon'.Lists word category ↔ lexicon.Lists word category := by
      rw [first.lists, again.lists]
      exact exists_congr fun form => and_congr_right fun _ =>
        ⟨contributes_number_relinked relinked.symm again.resolved first.resolved notSingular' notPlural' number,
          contributes_number_relinked relinked first.resolved again.resolved notSingular notPlural number⟩
    exact ⟨number _ (.inl rfl), number _ (.inr rfl)⟩

/-- The same classes, none of which takes in another. -/
def unlinked (classes : Table NounClass) : Table NounClass := classes.map fun _ cls => { cls with includes := [] }

theorem relinks_unlinked (classes : Table NounClass) : Relinks classes (unlinked classes) := by
  intro name
  simp [unlinked, Std.ExtTreeMap.getElem?_map, Function.comp_def]

/-- Two of these classes take in each other, and they may as well not. -/
theorem pantry_unlinked_vocabulary : ∃ lexicon stats lexicon' stats',
    Relinked { nouns := pantry } { nouns := unlinked pantry } ∧
    (assemble { nouns := pantry }).result = .ok (lexicon, stats) ∧
    (assemble { nouns := unlinked pantry }).result = .ok (lexicon', stats') ∧ stats'.words = stats.words ∧
    lexicon'.Lists "apple" "fruit" ∧ (lexicon'.Lists "apples" "noun_pl" ↔ lexicon.Lists "apples" "noun_pl") := by
  have relinked : Relinked { nouns := pantry } { nouns := unlinked pantry } := ⟨_, relinks_unlinked pantry, rfl⟩
  obtain ⟨nouns, resolved⟩ := pantry_resolves
  have resolved' : ∃ nouns', (resolveNouns (unlinked pantry)).outcome = .ok nouns' := by
    cases outcome : (resolveNouns (unlinked pantry)).outcome with
    | error mismatch =>
      have succeeds : (resolveNouns (unlinked pantry)).outcome.isOk = true := by decide +kernel
      simp [outcome, Except.isOk, Except.toBool] at succeeds
    | ok nouns' => exact ⟨nouns', rfl⟩
  obtain ⟨nouns', resolved'⟩ := resolved'
  have resolves : (resolveNouns ({ nouns := pantry } : Sources).nouns).outcome = .ok nouns := resolved
  have resolves' : (resolveNouns ({ nouns := unlinked pantry } : Sources).nouns).outcome = .ok nouns' := resolved'
  have ran := result_assemble_of_ok resolves
  have ran' := result_assemble_of_ok resolves'
  obtain ⟨_, words, numbers, _, owns⟩ := vocabulary_of_relinked relinked ran ran'
  have lower : Text.lowercase "apple" = "apple" := by decide +kernel
  exact ⟨_, _, _, _, relinked, ran, ran', words, lower ▸ (owns "fruit" "apple" (by decide +kernel)).1,
    (numbers (by decide +kernel) (by decide +kernel) "apples").2⟩

end Wordbook
