import Wordbook.Lexicon.Basic
import Wordbook.Proofs.Table

/-! Filings and the lexicon that they make. The category map holds exactly what some filing put there, in whatever
order they were carried out and however often a category came up. Turning the map round for the lexicon loses
nothing but letter case. -/
namespace Wordbook

/-- One of the filings puts a word under a category. -/
def Puts (filings : List Filing) (category word : String) : Prop :=
  ∃ filing ∈ filings, filing.category = category ∧ word ∈ filing.words

/-- A lexicon lists a category under a word. -/
def Lexicon.Lists (lexicon : Lexicon) (word category : String) : Prop :=
  ∃ categories, lexicon.categories? word = some categories ∧ category ∈ categories

variable {filing : Filing} {filings rest : List Filing} {map : CategoryMap} {category word : String}

@[simp] theorem puts_nil : ¬ Puts [] category word := by simp [Puts]

@[simp] theorem puts_cons :
    Puts (filing :: rest) category word ↔
      (filing.category = category ∧ word ∈ filing.words) ∨ Puts rest category word := by
  simp [Puts]

@[simp] theorem puts_append :
    Puts (filings ++ rest) category word ↔ Puts filings category word ∨ Puts rest category word := by
  simp [Puts, or_and_right, exists_or]

@[simp] theorem puts_flatMap {α : Type} {parts : List α} {file : α → List Filing} :
    Puts (parts.flatMap file) category word ↔ ∃ part ∈ parts, Puts (file part) category word := by
  constructor
  · rintro ⟨filing, listed, puts⟩
    obtain ⟨part, member, inside⟩ := List.mem_flatMap.1 listed
    exact ⟨part, member, filing, inside, puts⟩
  · rintro ⟨part, member, filing, inside, puts⟩
    exact ⟨filing, List.mem_flatMap.2 ⟨part, member, inside⟩, puts⟩

@[simp] theorem puts_map {α : Type} {parts : List α} {file : α → Filing} :
    Puts (parts.map file) category word ↔
      ∃ part ∈ parts, (file part).category = category ∧ word ∈ (file part).words := by
  constructor
  · rintro ⟨_, listed, puts⟩
    obtain ⟨part, member, rfl⟩ := List.mem_map.1 listed
    exact ⟨part, member, puts⟩
  · rintro ⟨part, member, puts⟩
    exact ⟨file part, List.mem_map.2 ⟨part, member, rfl⟩, puts⟩

/-- Each filing adds its own words to what the map holds already. -/
theorem holds_foldl_file :
    Holds (filings.foldl CategoryMap.file map).categories category word ↔
      Holds map.categories category word ∨ Puts filings category word := by
  induction filings generalizing map with
  | nil => simp
  | cons filing rest ih => rw [List.foldl_cons, ih, CategoryMap.file, holds_addWords, puts_cons, or_assoc]

theorem holds_ofFilings :
    Holds (CategoryMap.ofFilings filings).categories category word ↔ Puts filings category word := by
  simp [CategoryMap.ofFilings, holds_foldl_file]

/-- A map has a category from the first filing under it on, with words or without. -/
theorem mem_foldl_file : category ∈ (filings.foldl CategoryMap.file map).categories ↔
    category ∈ map.categories ∨ ∃ filing ∈ filings, filing.category = category := by
  induction filings generalizing map with
  | nil => simp
  | cons filing rest ih =>
    rw [List.foldl_cons, ih, CategoryMap.file, mem_addWords]
    simp only [List.mem_cons, exists_eq_or_imp, or_assoc, or_left_comm]

theorem mem_ofFilings : category ∈ (CategoryMap.ofFilings filings).categories ↔
    ∃ filing ∈ filings, filing.category = category := by
  simp [CategoryMap.ofFilings, mem_foldl_file]

/-- The map turned round has a category under a word where the map has the word, in some letter case, under the
category. -/
theorem puts_turned :
    Puts map.turned word category ↔
      ∃ form, Text.lowercase form = word ∧ Holds map.categories category form := by
  simp only [CategoryMap.turned, puts_map, Prod.exists, CategoryMap.mem_pairs, List.mem_singleton]
  constructor
  · rintro ⟨_, form, held, lower, rfl⟩
    exact ⟨form, lower, held⟩
  · rintro ⟨form, lower, held⟩
    exact ⟨category, form, held, lower, rfl⟩

theorem lists_toLexicon :
    map.toLexicon.Lists word category ↔
      ∃ form, Text.lowercase form = word ∧ Holds map.categories category form := by
  rw [← puts_turned, ← holds_ofFilings]
  cases entry : (CategoryMap.ofFilings map.turned).categories[word]? <;>
    simp [Lexicon.Lists, Lexicon.categories?, CategoryMap.toLexicon, Holds, entry]

end Wordbook
