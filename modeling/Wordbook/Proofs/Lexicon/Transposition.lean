import Mathlib.Data.Finset.Card
import Mathlib.Data.String.Basic
import Wordbook.Proofs.Filing

/-! A category map is filled by calls that put one word or several under a category, and is then turned round. What
the lexicon answers depends on nothing but which word some call has put under which category: not on the order of the
calls, on repetitions, or on how the words were split among them. The lists of the lexicon are strictly ascending, so
looking into them by halves finds what they have. -/
namespace Wordbook

/-- A call that fills a category map. -/
inductive FillingCall where
  | insert (category word : String)
  | extend (category : String) (words : List String)

namespace FillingCall

def category : FillingCall → String
  | insert category _ => category
  | extend category _ => category

def words : FillingCall → List String
  | insert _ word => [word]
  | extend _ words => words

/-- The map after the call. -/
def carryOut (map : CategoryMap) : FillingCall → CategoryMap
  | insert category word => map.insert category word
  | extend category words => map.extend category words

end FillingCall

/-- The map that calls make of an empty one. -/
def filledMap (calls : List FillingCall) : CategoryMap := calls.foldl FillingCall.carryOut {}

/-- Some call has put a word under a category. -/
def Gives (calls : List FillingCall) (category word : String) : Prop :=
  ∃ call ∈ calls, call.category = category ∧ word ∈ call.words

/-- Some call has put a form of the word, in whatever letter case, under a category. -/
def GivesForm (calls : List FillingCall) (category word : String) : Prop :=
  ∃ form, Gives calls category form ∧ Text.lowercase form = word

variable {calls others : List FillingCall} {filings : List Filing} {map other : CategoryMap}
variable {category word name wanted : String} {listed : List String}

/-! ## Looking into an ascending list -/

/-- Everything before a place of an ascending list comes before what stands there. -/
private theorem lt_of_mem_take (ascending : listed.Pairwise (· < ·)) {place : Nat} (inside : place < listed.length)
    (member : word ∈ listed.take place) : word < listed[place] := by
  have parts := (List.take_append_drop place listed).symm ▸ ascending
  have here : listed[place] ∈ listed.drop place := by
    rw [List.drop_eq_getElem_cons inside]
    exact List.mem_cons_self
  exact (List.pairwise_append.1 parts).2.2 word member listed[place] here

/-- Nothing from a place of an ascending list on comes before what stands there. -/
private theorem le_of_mem_drop (ascending : listed.Pairwise (· < ·)) {place : Nat} (inside : place < listed.length)
    (member : word ∈ listed.drop place) : listed[place] ≤ word := by
  have rest : (listed.drop place).Pairwise (· < ·) := ascending.sublist (List.drop_sublist _ _)
  rw [List.drop_eq_getElem_cons inside] at rest member
  rcases List.mem_cons.1 member with rfl | later
  · exact le_refl _
  · exact le_of_lt ((List.pairwise_cons.1 rest).1 word later)

/-- The search by halves ends at the text that is looked for if the list has it: what a step drops comes before or
after that text. -/
theorem searchEnd_eq_some_iff (ascending : listed.Pairwise (· < ·)) :
    Lexicon.searchEnd wanted listed = some wanted ↔ wanted ∈ listed := by
  fun_induction Lexicon.searchEnd wanted listed with
  | case1 listed several half before ih =>
    have inside : half < listed.length := by omega
    rw [ih (ascending.sublist (List.take_sublist _ _))]
    refine ⟨List.mem_of_mem_take, fun member => ?_⟩
    rw [← List.take_append_drop (listed.length - half) listed] at member
    rcases List.mem_append.1 member with kept | dropped
    · exact kept
    · have later : wanted ∈ listed.drop half := by
        have further : listed.length - half = half + (listed.length - half - half) := by omega
        rw [further, ← List.drop_drop] at dropped
        exact List.mem_of_mem_drop dropped
      exact absurd before (not_lt_of_ge (le_of_mem_drop ascending inside later))
  | case2 listed several half notBefore ih =>
    have inside : half < listed.length := by omega
    rw [ih (ascending.sublist (List.drop_sublist _ _))]
    refine ⟨List.mem_of_mem_drop, fun member => ?_⟩
    rw [← List.take_append_drop half listed] at member
    rcases List.mem_append.1 member with dropped | kept
    · exact absurd (lt_of_mem_take ascending inside dropped) notBefore
    · exact kept
  | case3 listed short =>
    cases listed with
    | nil => simp
    | cons only rest =>
      have alone : rest = [] := by
        cases rest with
        | nil => rfl
        | cons => simp at short
      simp [alone, eq_comm]

/-! ## What a lexicon that was made from a map answers -/

/-- Turning a map round makes an entry for a word only to put a category under it. -/
theorem mem_turned : word ∈ (CategoryMap.ofFilings map.turned).categories ↔
    ∃ category, map.toLexicon.Lists word category := by
  simp only [mem_ofFilings, lists_toLexicon, ← puts_turned]
  constructor
  · rintro ⟨filing, member, rfl⟩
    obtain ⟨pair, _, rfl⟩ := List.mem_map.1 member
    exact ⟨pair.1, _, member, rfl, List.mem_singleton.2 rfl⟩
  · rintro ⟨category, filing, member, same, _⟩
    exact ⟨filing, member, same⟩

theorem categories?_toLexicon : map.toLexicon.categories? word =
    ((CategoryMap.ofFilings map.turned).categories[word]?).map fun categories => categories.toList := by
  simp [Lexicon.categories?, CategoryMap.toLexicon]

theorem categories?_toLexicon_eq_none_iff :
    map.toLexicon.categories? word = none ↔ ∀ category, ¬ map.toLexicon.Lists word category := by
  rw [categories?_toLexicon, Option.map_eq_none_iff, ← not_exists, ← mem_turned]
  simp

theorem ascending_of_categories? (entry : map.toLexicon.categories? word = some listed) :
    listed.Pairwise (· < ·) := by
  rw [categories?_toLexicon] at entry
  obtain ⟨categories, _, rfl⟩ := Option.map_eq_some_iff.1 entry
  have ordered := categories.ordered_toList
  exact ordered.imp fun before => compareOfLessAndEq_eq_lt.mp before

/-- Looking by halves misses nothing that is listed. -/
theorem hasCategory_toLexicon :
    map.toLexicon.hasCategory word category = true ↔ map.toLexicon.Lists word category := by
  cases entry : map.toLexicon.categories? word with
  | none => simp [Lexicon.hasCategory, Lexicon.Lists, entry]
  | some listed =>
    have search : Lexicon.searchEnd category listed = some category ↔ category ∈ listed :=
      searchEnd_eq_some_iff (ascending_of_categories? entry)
    simpa [Lexicon.hasCategory, Lexicon.Lists, entry] using search

/-- Maps that put the same words, up to letter case, under the same categories are turned into the same lexicon. -/
theorem toLexicon_eq (same : ∀ word category, map.toLexicon.Lists word category ↔ other.toLexicon.Lists word category) :
    map.toLexicon = other.toLexicon := by
  have turned : (CategoryMap.ofFilings map.turned).categories = (CategoryMap.ofFilings other.turned).categories := by
    apply eq_of_holds_iff
    · intro word
      simp only [mem_turned, same]
    · intro word category
      rw [holds_ofFilings, holds_ofFilings, puts_turned, puts_turned, ← lists_toLexicon, ← lists_toLexicon]
      exact same word category
  rw [CategoryMap.toLexicon, CategoryMap.toLexicon, turned]

/-- A table has as many entries as there are names with an entry. -/
theorem size_eq_card {α : Type} {table : Table α} {names : Finset String}
    (entries : ∀ name, name ∈ table ↔ name ∈ names) : table.size = names.card := by
  have keys : table.keys.toFinset = names := by
    ext name
    rw [List.mem_toFinset, Std.ExtTreeMap.mem_keys, entries]
  rw [← keys, List.toFinset_card_of_nodup Std.ExtTreeMap.nodup_keys, Std.ExtTreeMap.length_keys]

/-! ## Whole runs of calls -/

/-- A call as a filing. -/
def FillingCall.filing (call : FillingCall) : Filing where
  category := call.category
  words := call.words

theorem filledMap_eq : filledMap calls = CategoryMap.ofFilings (calls.map FillingCall.filing) := by
  have each : FillingCall.carryOut = fun map call => map.file call.filing := by
    funext map call
    cases call <;> rfl
  rw [filledMap, CategoryMap.ofFilings, List.foldl_map, each]

theorem holds_filledMap : Holds (filledMap calls).categories category word ↔ Gives calls category word := by
  rw [filledMap_eq, holds_ofFilings, puts_map, Gives]
  rfl

theorem lists_filledMap : (filledMap calls).toLexicon.Lists word category ↔ GivesForm calls category word := by
  simp only [lists_toLexicon, holds_filledMap, GivesForm, and_comm]

/-- The lowercased words that calls give are those that some category is listed under. -/
private theorem mem_given_words : word ∈ (calls.flatMap FillingCall.words).map Text.lowercase ↔
    ∃ category, GivesForm calls category word := by
  simp only [List.mem_map, List.mem_flatMap, GivesForm, Gives]
  constructor
  · rintro ⟨form, ⟨call, member, given⟩, lower⟩
    exact ⟨call.category, form, ⟨call, member, rfl, given⟩, lower⟩
  · rintro ⟨_, form, ⟨call, member, _, given⟩, lower⟩
    exact ⟨form, ⟨call, member, given⟩, lower⟩

/-- What the lexicon answers after calls in whatever order. -/
theorem filledMap_toLexicon_exact (calls : List FillingCall) :
    (∀ word category, (filledMap calls).toLexicon.hasCategory word category = true ↔ GivesForm calls category word) ∧
    (∀ word,
      ((filledMap calls).toLexicon.categories? word = none ↔ ∀ category, ¬ GivesForm calls category word) ∧
      ∀ listed, (filledMap calls).toLexicon.categories? word = some listed →
        listed ≠ [] ∧ listed.Pairwise (· < ·) ∧ ∀ category, category ∈ listed ↔ GivesForm calls category word) ∧
    (filledMap calls).toLexicon.size = ((calls.flatMap FillingCall.words).map Text.lowercase).toFinset.card ∧
    (filledMap calls).categoryCount = (calls.map FillingCall.category).toFinset.card ∧
    ∀ others, (∀ category word, Gives others category word ↔ Gives calls category word) →
      (filledMap others).toLexicon = (filledMap calls).toLexicon := by
  refine ⟨fun word category => ?_, fun word => ⟨?_, fun listed entry => ?_⟩, ?_, ?_, fun others same => ?_⟩
  · rw [hasCategory_toLexicon, lists_filledMap]
  · simp only [categories?_toLexicon_eq_none_iff, lists_filledMap]
  · have lists : ∀ category, category ∈ listed ↔ GivesForm calls category word := by
      intro category
      rw [← lists_filledMap]
      simp [Lexicon.Lists, entry]
    refine ⟨?_, ascending_of_categories? entry, lists⟩
    rintro rfl
    have unlisted := categories?_toLexicon_eq_none_iff.2 fun category => by
      rw [lists_filledMap, ← lists category]
      exact List.not_mem_nil
    rw [entry] at unlisted
    cases unlisted
  · have turned : (filledMap calls).toLexicon.size =
        (CategoryMap.ofFilings (filledMap calls).turned).categories.size := Std.ExtTreeMap.size_map
    rw [turned]
    apply size_eq_card
    intro word
    rw [mem_turned, List.mem_toFinset, mem_given_words]
    simp only [lists_filledMap]
  · apply size_eq_card
    intro category
    rw [filledMap_eq, mem_ofFilings]
    simp [FillingCall.filing]
  · apply toLexicon_eq
    intro word category
    simp only [lists_filledMap, GivesForm, same]

/-- Words put one by one and words put together, some of them twice and in another order. -/
theorem filledMap_regrouped :
    (∀ category word,
      Gives [.extend "noun_sg" ["cat", "Paris"], .insert "noun_sg" "cat", .extend "adv" []] category word ↔
      Gives [.insert "noun_sg" "Paris", .insert "noun_sg" "cat"] category word) ∧
    (filledMap [.extend "noun_sg" ["cat", "Paris"], .insert "noun_sg" "cat", .extend "adv" []]).toLexicon =
      (filledMap [.insert "noun_sg" "Paris", .insert "noun_sg" "cat"]).toLexicon := by
  have same : ∀ category word,
      Gives [.extend "noun_sg" ["cat", "Paris"], .insert "noun_sg" "cat", .extend "adv" []] category word ↔
      Gives [.insert "noun_sg" "Paris", .insert "noun_sg" "cat"] category word := by
    intro category word
    simp only [Gives, List.mem_cons, List.not_mem_nil, or_false, exists_eq_or_imp, exists_eq_left,
      FillingCall.category, FillingCall.words, and_false]
    tauto
  exact ⟨same, (filledMap_toLexicon_exact [.insert "noun_sg" "Paris", .insert "noun_sg" "cat"]).2.2.2.2 _ same⟩

end Wordbook
