import Mathlib.Data.Finset.Prod
import Wordbook.Proofs.Contribution
import Wordbook.Proofs.Lexicon.Transposition

/-! The families of verb categories, kept apart. A category of verbs is a family's label with the rest of a tag behind
it. No label begins with another one, so a category tells both its family and its tag, whatever particles and
prepositions the tag has; and no label begins like a tag. A lexicon made of verbs alone therefore has eight categories
for each tag, and each lists the forms of its own family and no others. -/
namespace Wordbook

/-- Sources that have nothing but verb classes and irregular verbs. -/
def verbSources (classes : List VerbClass) (irregular : Table IrregularVerb) : Sources where
  verbs := classes
  irregular := { verbs := irregular }

variable {classes : List VerbClass} {findings : List VerbFinding} {table : Table WordSet}
variable {irregular : IrregularForms} {irregularVerbs : Table IrregularVerb} {family other : VerbFamily}
variable {category tag tag' rest rest' verb word : String}

/-! ## Labels -/

theorem VerbFamily.mem_all (family : VerbFamily) : family ∈ all := by cases family <;> decide

/-- No label begins with another one. -/
theorem eq_of_label_leads (family other : VerbFamily) (leads : family.label.toList <+: other.label.toList) :
    family = other := by
  have each : ∀ family ∈ VerbFamily.all, ∀ other ∈ VerbFamily.all,
      family.label.toList <+: other.label.toList → family = other := by decide +kernel
  exact each family family.mem_all other other.mem_all leads

/-- A label and what follows it can be told from the two together. -/
theorem label_append_injective (same : family.label ++ rest = other.label ++ rest') :
    family = other ∧ rest = rest' := by
  have letters : family.label.toList ++ rest.toList = other.label.toList ++ rest'.toList := by
    simpa using congrArg String.toList same
  have families : family = other := by
    rcases List.prefix_or_prefix_of_prefix (List.prefix_append _ rest.toList)
      (letters ▸ List.prefix_append _ rest'.toList) with leads | leads
    · exact eq_of_label_leads _ _ leads
    · exact (eq_of_label_leads _ _ leads).symm
  subst families
  exact ⟨rfl, String.toList_injective (List.append_cancel_left letters)⟩

/-- No category of a family is a bare `vb` or begins with `vb_`. -/
theorem label_append_ne (family : VerbFamily) (rest : String) :
    family.label ++ rest ≠ "vb" ∧ ∀ more, family.label ++ rest ≠ "vb_" ++ more := by
  have apart : ∀ family ∈ VerbFamily.all, ¬ family.label.toList <+: "vb".toList ∧
      ¬ family.label.toList <+: "vb_".toList ∧ ¬ "vb_".toList <+: family.label.toList := by decide +kernel
  obtain ⟨notVb, notBefore, notBehind⟩ := apart family family.mem_all
  constructor
  · intro same
    have letters : family.label.toList ++ rest.toList = "vb".toList := by
      simpa using congrArg String.toList same
    exact notVb (letters ▸ List.prefix_append _ _)
  · intro more same
    have letters : family.label.toList ++ rest.toList = "vb_".toList ++ more.toList := by
      simpa using congrArg String.toList same
    rcases List.prefix_or_prefix_of_prefix (List.prefix_append _ rest.toList)
      (letters ▸ List.prefix_append _ more.toList) with leads | leads
    · exact notBefore leads
    · exact notBehind leads

theorem familyTag_injective (begins : BeginsVb tag) (begins' : BeginsVb tag')
    (same : familyTag family.label tag = familyTag other.label tag') : family = other ∧ tag = tag' := by
  obtain ⟨rest, rfl⟩ := begins
  obtain ⟨rest', rfl⟩ := begins'
  rw [familyTag_vb, familyTag_vb] at same
  obtain ⟨families, rests⟩ := label_append_injective same
  exact ⟨families, by rw [rests]⟩

/-! ## Tags -/

theorem mem_foldl_findings :
    tag ∈ findings.foldl VerbFinding.file table ↔ tag ∈ table ∨ ∃ verb, .filed tag verb ∈ findings := by
  induction findings generalizing table with
  | nil => simp
  | cons finding rest ih =>
    rw [List.foldl_cons, ih]
    cases finding with
    | filed found main =>
      simp only [VerbFinding.file, mem_addWords, List.mem_cons, VerbFinding.filed.injEq, exists_or, or_assoc,
        or_left_comm (a := found = tag)]
      simp [eq_comm]
    | unrecognized => simp [VerbFinding.file]
    | unmatched => simp [VerbFinding.file]

/-- A tag is kept only with a verb. -/
theorem mem_verbCategories : tag ∈ verbCategories classes ↔ ∃ verb, Holds (verbCategories classes) tag verb := by
  simp only [holds_verbCategories]
  simp [verbCategories, mem_foldl_findings]

theorem beginsVb_of_mem (member : tag ∈ verbCategories classes) : BeginsVb tag := by
  obtain ⟨_, holds⟩ := mem_verbCategories.1 member
  exact verbCategories_beginsVb holds

/-! ## Forms -/

/-- The forms under the label of a family are those of the family. -/
theorem verbFormUnder_label : VerbFormUnder irregular verb family.label word ↔
    word ∈ family.forms (irregular.verbForms verb) := by
  rw [verbFormUnder_iff]
  constructor
  · rintro ⟨found, _, labelled, member⟩
    have alone : found.label ++ "" = family.label ++ "" := by rw [labelled]
    exact (label_append_injective alone).1 ▸ member
  · exact fun member => ⟨family, family.mem_all, rfl, member⟩

theorem VerbFamily.forms_ne_nil (family : VerbFamily) (verb : VerbForms) : family.forms verb ≠ [] := by
  cases family <;> simp [forms]

/-! ## A lexicon of verbs alone -/

/-- A word is, in lower case, a form that the family has of some verb of the tag. -/
def FormIn (classes : List VerbClass) (irregular : IrregularForms) (family : VerbFamily) (tag word : String) : Prop :=
  ∃ verb form, Holds (verbCategories classes) tag verb ∧ VerbFormUnder irregular verb family.label form ∧
    Text.lowercase form = word

/-- Where there are no other sources, only verbs contribute, each form to the category of a family and a tag. -/
theorem contributes_verbSources_iff : (∃ form, Text.lowercase form = word ∧
      Contributes (verbSources classes irregularVerbs) ∅ category form) ↔
    ∃ family : VerbFamily, ∃ tag ∈ verbCategories classes, familyTag family.label tag = category ∧
      FormIn classes { verbs := irregularVerbs } family tag word := by
  constructor
  · rintro ⟨form, lower, contributes⟩
    cases contributes with
    | indeclinable held => exact absurd held not_holds_empty
    | carried listed => simp [verbSources] at listed
    | noun held => exact absurd held not_holds_empty
    | @verb rest verb label _ held formed =>
      obtain ⟨family, _, rfl, _⟩ := verbFormUnder_iff.1 formed
      exact ⟨family, "vb" ++ rest, held.mem, familyTag_vb _ _, verb, form, held, formed, lower⟩
    | adverb listed => simp [verbSources] at listed
  · rintro ⟨family, tag, member, rfl, verb, form, held, formed, lower⟩
    obtain ⟨rest, rfl⟩ := beginsVb_of_mem member
    rw [familyTag_vb]
    exact ⟨form, lower, .verb held formed⟩

theorem resolveNouns_empty : (resolveNouns ∅).outcome = .ok ∅ := by
  have keys : (∅ : Table NounClass).keys = [] := rfl
  rw [resolveNouns, keys]
  rfl

/-- Every verb has a form in every family, so no category of a tag is empty. -/
theorem exists_formIn (member : tag ∈ verbCategories classes) (irregular : IrregularForms) (family : VerbFamily) :
    ∃ word, FormIn classes irregular family tag word := by
  obtain ⟨verb, held⟩ := mem_verbCategories.1 member
  obtain ⟨form, listed⟩ := List.exists_mem_of_ne_nil _ (family.forms_ne_nil (irregular.verbForms verb))
  exact ⟨_, verb, form, held, verbFormUnder_label.2 listed, rfl⟩

/-- The forms that can stand with a singular subject are the past tense and the third person singular, and likewise
for the plural. -/
theorem formIn_finite :
    (FormIn classes irregular .finiteSingular tag word ↔
      FormIn classes irregular .preterite tag word ∨ FormIn classes irregular .thirdSingular tag word) ∧
    (FormIn classes irregular .finitePlural tag word ↔
      FormIn classes irregular .preterite tag word ∨ FormIn classes irregular .thirdPlural tag word) := by
  simp only [FormIn, verbFormUnder_label, VerbFamily.forms, List.mem_cons, List.not_mem_nil, or_false, or_and_right,
    and_or_left, exists_or, and_self]

/-- The categories that are filed for tags: one for each family of each tag. -/
theorem verbFilings_categories (verbs : Table WordSet) : (∃ filing ∈ verbs.toList.flatMap
      (fun entry => verbTagFilings irregular entry.1 entry.2), filing.category = category) ↔
    ∃ family : VerbFamily, ∃ tag ∈ verbs, familyTag family.label tag = category := by
  constructor
  · rintro ⟨filing, listed, rfl⟩
    obtain ⟨entry, held, listed⟩ := List.mem_flatMap.1 listed
    obtain ⟨family, _, rfl⟩ := List.mem_map.1 listed
    exact ⟨family, entry.1, mem_iff_exists_pair.2 ⟨entry, held, rfl⟩, rfl⟩
  · rintro ⟨family, tag, member, rfl⟩
    obtain ⟨entry, held, rfl⟩ := mem_iff_exists_pair.1 member
    exact ⟨_, List.mem_flatMap.2 ⟨entry, held, List.mem_map_of_mem family.mem_all⟩, rfl⟩

/-- The categories of the families of the tags. -/
def familyCategories (tags : Finset String) : Finset String :=
  (VerbFamily.all.toFinset ×ˢ tags).image fun origin => familyTag origin.1.label origin.2

theorem mem_familyCategories {tags : Finset String} : category ∈ familyCategories tags ↔
    ∃ family : VerbFamily, ∃ tag ∈ tags, familyTag family.label tag = category := by
  simp [familyCategories, VerbFamily.mem_all]

/-- No two families of no two tags share a category. -/
theorem card_familyCategories {tags : Finset String} (begin : ∀ tag ∈ tags, BeginsVb tag) :
    (familyCategories tags).card = 8 * tags.card := by
  have apart : Set.InjOn (fun origin : VerbFamily × String => familyTag origin.1.label origin.2)
      (VerbFamily.all.toFinset ×ˢ tags : Finset _) := by
    rintro ⟨family, tag⟩ member ⟨other, tag'⟩ member' same
    have listed := (Finset.mem_product.1 member).2
    have listed' := (Finset.mem_product.1 member').2
    obtain ⟨rfl, rfl⟩ := familyTag_injective (begin tag listed) (begin tag' listed') same
    rfl
  have families : VerbFamily.all.toFinset.card = 8 := by decide
  rw [familyCategories, Finset.card_image_of_injOn apart, Finset.card_product, families]

/-- There are eight of them for each tag of the verbs. -/
theorem card_familyCategories_keys (classes : List VerbClass) :
    (familyCategories (verbCategories classes).keys.toFinset).card = 8 * (verbCategories classes).size := by
  have tags : ∀ tag, tag ∈ verbCategories classes ↔ tag ∈ (verbCategories classes).keys.toFinset := by simp
  rw [card_familyCategories fun tag member => beginsVb_of_mem ((tags tag).2 member), size_eq_card tags]

/-- The filings of sources of verbs alone are those of the tags. -/
theorem filings_verbSources (verbs : Table WordSet) : (verbSources classes irregularVerbs).filings ∅ verbs =
    verbs.toList.flatMap fun entry => verbTagFilings { verbs := irregularVerbs } entry.1 entry.2 := by
  have noEntries : (∅ : Table WordSet).toList = [] := rfl
  have noWords : (∅ : WordSet).toList = [] := rfl
  simp [Sources.filings, verbSources, indeclinableFilings, carriedWords, noEntries, noWords]

theorem categoryCount_verbSources : (CategoryMap.ofFilings ((verbSources classes irregularVerbs).filings ∅
      (verbCategories classes))).categoryCount = 8 * (verbCategories classes).size := by
  have entries : ∀ category, category ∈ (CategoryMap.ofFilings ((verbSources classes irregularVerbs).filings ∅
      (verbCategories classes))).categories ↔ category ∈ familyCategories (verbCategories classes).keys.toFinset := by
    intro category
    rw [mem_ofFilings, filings_verbSources, verbFilings_categories, mem_familyCategories]
    simp
  rw [CategoryMap.categoryCount, size_eq_card entries, card_familyCategories_keys]

/-- A lexicon lists the forms of the families of the tags, under their categories, and nothing else. -/
def ListsFamilies (classes : List VerbClass) (irregular : IrregularForms) (lexicon : Lexicon) : Prop :=
  ∀ word category, lexicon.Lists word category ↔ ∃ family : VerbFamily, ∃ tag ∈ verbCategories classes,
    familyTag family.label tag = category ∧ FormIn classes irregular family tag word

/-- Verbs alone can always be assembled. -/
theorem assemble_verbSources (classes : List VerbClass) (irregularVerbs : Table IrregularVerb) :
    ∃ lexicon stats, (assemble (verbSources classes irregularVerbs)).result = .ok (lexicon, stats) ∧
      ListsFamilies classes { verbs := irregularVerbs } lexicon ∧ stats.categories = 8 * stats.verbCategories := by
  have resolved : (resolveNouns (verbSources classes irregularVerbs).nouns).outcome = .ok ∅ := resolveNouns_empty
  exact ⟨_, _, result_assemble_of_ok resolved, fun _ _ => lists_filings.trans contributes_verbSources_iff,
    categoryCount_verbSources⟩

namespace ListsFamilies

variable {lexicon : Lexicon} (lists : ListsFamilies classes irregular lexicon)
include lists

/-- What stands under the category of a family and a tag comes from these two. -/
theorem familyTag_iff (member : tag ∈ verbCategories classes) :
    lexicon.Lists word (familyTag family.label tag) ↔ FormIn classes irregular family tag word := by
  rw [lists]
  constructor
  · rintro ⟨other, tag', member', same, formed⟩
    obtain ⟨rfl, rfl⟩ := familyTag_injective (beginsVb_of_mem member') (beginsVb_of_mem member) same
    exact formed
  · exact fun formed => ⟨family, tag, member, rfl, formed⟩

/-- The categories are those of the families of the tags, and each is the category of one pair only. -/
theorem category_iff : (∃ word, lexicon.Lists word category) ↔ ∃! origin : VerbFamily × String,
    origin.2 ∈ verbCategories classes ∧ familyTag origin.1.label origin.2 = category := by
  constructor
  · rintro ⟨word, listed⟩
    obtain ⟨family, tag, member, rfl, _⟩ := (lists word category).1 listed
    refine ⟨(family, tag), ⟨member, rfl⟩, ?_⟩
    rintro ⟨other, tag'⟩ ⟨member', same⟩
    obtain ⟨rfl, rfl⟩ := familyTag_injective (beginsVb_of_mem member') (beginsVb_of_mem member) same
    rfl
  · rintro ⟨⟨family, tag⟩, ⟨member, rfl⟩, _⟩
    obtain ⟨word, formed⟩ := exists_formIn member irregular family
    exact ⟨word, (lists.familyTag_iff member).2 formed⟩

/-- Each finite family lists what the two families list that it joins. -/
theorem finite_iff (member : "vb" ++ rest ∈ verbCategories classes) :
    (lexicon.Lists word ("vbf_sg" ++ rest) ↔
      lexicon.Lists word ("vbd" ++ rest) ∨ lexicon.Lists word ("vbz" ++ rest)) ∧
    (lexicon.Lists word ("vbf_pl" ++ rest) ↔
      lexicon.Lists word ("vbd" ++ rest) ∨ lexicon.Lists word ("vbp" ++ rest)) := by
  have forms (family : VerbFamily) : lexicon.Lists word (family.label ++ rest) ↔
      FormIn classes irregular family ("vb" ++ rest) word := by
    rw [← familyTag_vb, lists.familyTag_iff member]
  have singular := formIn_finite.1.trans (or_congr (forms .preterite) (forms .thirdSingular)).symm
  have plural := formIn_finite.2.trans (or_congr (forms .preterite) (forms .thirdPlural)).symm
  exact ⟨(forms .finiteSingular).trans singular, (forms .finitePlural).trans plural⟩

/-- No category is a tag. -/
theorem category_ne (listed : lexicon.Lists word category) : category ≠ "vb" ∧ ∀ more, category ≠ "vb_" ++ more := by
  obtain ⟨family, tag, member, rfl, _⟩ := (lists word category).1 listed
  obtain ⟨rest, rfl⟩ := beginsVb_of_mem member
  rw [familyTag_vb]
  exact label_append_ne family rest

end ListsFamilies

/-- A lexicon made of verbs alone. Each of its categories is made of one family and one tag and of no other pair, and
every such pair has a category; it lists just the forms of that family for the verbs of that tag. Each finite family
lists what the two families list that it joins, no category is a tag, and there are eight categories for each tag. -/
theorem verb_families_apart (classes : List VerbClass) (irregularVerbs : Table IrregularVerb) :
    ∃ lexicon stats, (assemble (verbSources classes irregularVerbs)).result = .ok (lexicon, stats) ∧
      (∀ category, (∃ word, lexicon.Lists word category) ↔ ∃! origin : VerbFamily × String,
        origin.2 ∈ verbCategories classes ∧ familyTag origin.1.label origin.2 = category) ∧
      (∀ family : VerbFamily, ∀ tag ∈ verbCategories classes, ∀ word,
        lexicon.Lists word (familyTag family.label tag) ↔
          FormIn classes { verbs := irregularVerbs } family tag word) ∧
      (∀ tag ∈ verbCategories classes, ∃ rest, tag = "vb" ++ rest ∧ ∀ word,
        (lexicon.Lists word ("vbf_sg" ++ rest) ↔
          lexicon.Lists word ("vbd" ++ rest) ∨ lexicon.Lists word ("vbz" ++ rest)) ∧
        (lexicon.Lists word ("vbf_pl" ++ rest) ↔
          lexicon.Lists word ("vbd" ++ rest) ∨ lexicon.Lists word ("vbp" ++ rest))) ∧
      (∀ word category, lexicon.Lists word category → category ≠ "vb" ∧ ∀ rest, category ≠ "vb_" ++ rest) ∧
      stats.categories = 8 * stats.verbCategories := by
  obtain ⟨lexicon, stats, ran, lists, count⟩ := assemble_verbSources classes irregularVerbs
  refine ⟨lexicon, stats, ran, fun category => lists.category_iff, fun family tag member word =>
    lists.familyTag_iff member, fun tag member => ?_, fun word category => lists.category_ne, count⟩
  obtain ⟨rest, rfl⟩ := beginsVb_of_mem member
  exact ⟨rest, rfl, fun word => lists.finite_iff member⟩

end Wordbook
