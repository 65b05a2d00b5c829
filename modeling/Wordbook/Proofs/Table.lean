import Wordbook.Table

/-! What tables of word sets hold. An empty set under a name and no entry at all hold the same, so that questions
about words need not tell them apart. -/
namespace Wordbook

/-- Words that are in a set already add nothing to it. -/
theorem union_eq_left {words more : WordSet} (within : ∀ word ∈ more, word ∈ words) : words ∪ more = words := by
  apply Std.ExtTreeSet.ext_mem
  intro word
  rw [Std.ExtTreeSet.mem_union_iff]
  exact ⟨fun member => member.elim id (within word), .inl⟩

/-- A table has a word under a name. -/
def Holds (table : Table WordSet) (name word : String) : Prop :=
  ∃ words, table[name]? = some words ∧ word ∈ words

/-- Under one name a table has every word that it has under another. -/
def Covers (table : Table WordSet) (name other : String) : Prop :=
  ∀ word, Holds table other word → Holds table name word

/-- Under every name the words of both tables. -/
def Table.unite (table other : Table WordSet) : Table WordSet :=
  (table ∪ other).map fun name _ => table[name]?.getD ∅ ∪ other[name]?.getD ∅

variable {table : Table WordSet} {words : WordSet} {name other third word : String}

theorem mem_of_entry {α : Type} {table : Table α} {value : α} (entry : table[name]? = some value) :
    name ∈ table :=
  Std.ExtTreeMap.mem_iff_isSome_getElem?.2 (by simp [entry])

theorem entry_of_mem {α : Type} {table : Table α} (member : name ∈ table) :
    ∃ value, table[name]? = some value :=
  Option.isSome_iff_exists.1 (Std.ExtTreeMap.mem_iff_isSome_getElem?.1 member)

/-- The names of a table are those of its pairs. -/
theorem mem_iff_exists_pair {α : Type} {table : Table α} : name ∈ table ↔ ∃ entry ∈ table.toList, entry.1 = name := by
  constructor
  · intro member
    obtain ⟨value, entry⟩ := entry_of_mem member
    exact ⟨(name, value), Std.ExtTreeMap.mem_toList_iff_getElem?_eq_some.2 entry, rfl⟩
  · rintro ⟨⟨_, value⟩, listed, rfl⟩
    exact mem_of_entry (Std.ExtTreeMap.mem_toList_iff_getElem?_eq_some.1 listed)

theorem holds_of_entry (entry : table[name]? = some words) : Holds table name word ↔ word ∈ words := by
  simp [Holds, entry]

instance (table : Table WordSet) (name word : String) : Decidable (Holds table name word) :=
  decidable_of_iff (table[name]?.any (fun words => words.contains word) = true) (by
    cases entry : table[name]? <;> simp [Holds, entry])

@[simp] theorem not_holds_empty : ¬ Holds ∅ name word := by simp [Holds]

theorem Holds.mem (holds : Holds table name word) : name ∈ table := by
  obtain ⟨_, entry, _⟩ := holds
  exact mem_of_entry entry

theorem Covers.refl (table : Table WordSet) (name : String) : Covers table name name := fun _ holds => holds

theorem Covers.trans (first : Covers table name other) (second : Covers table other third) :
    Covers table name third := fun word holds => first word (second word holds)

/-- Tables with the same names that hold the same are the same. -/
theorem eq_of_holds_iff {other : Table WordSet} (names : ∀ name : String, name ∈ table ↔ name ∈ other)
    (holds : ∀ name word, Holds table name word ↔ Holds other name word) : table = other := by
  apply Std.ExtTreeMap.ext_getElem?
  intro name
  by_cases member : name ∈ table
  · obtain ⟨words, entry⟩ := entry_of_mem member
    obtain ⟨words', entry'⟩ := entry_of_mem ((names name).1 member)
    have same : words = words' := Std.ExtTreeSet.ext_mem fun word => by
      rw [← holds_of_entry entry, ← holds_of_entry entry']
      exact holds name word
    rw [entry, entry', same]
  · have missing : name ∉ other := fun found => member ((names name).2 found)
    rw [Std.ExtTreeMap.getElem?_eq_none member, Std.ExtTreeMap.getElem?_eq_none missing]

/-- Tables with the same names list them in the same order. -/
theorem keys_eq_of_mem_iff {α β : Type} {table : Table α} {other : Table β}
    (names : ∀ name : String, name ∈ table ↔ name ∈ other) : table.keys = other.keys := by
  have blank : table.map (fun _ _ => ()) = other.map (fun _ _ => ()) := Std.ExtTreeMap.ext_getElem? fun name => by
    rw [Std.ExtTreeMap.getElem?_map, Std.ExtTreeMap.getElem?_map]
    by_cases member : name ∈ table
    · obtain ⟨value, entry⟩ := entry_of_mem member
      obtain ⟨value', entry'⟩ := entry_of_mem ((names name).1 member)
      simp [entry, entry']
    · have missing : name ∉ other := fun found => member ((names name).2 found)
      rw [Std.ExtTreeMap.getElem?_eq_none member, Std.ExtTreeMap.getElem?_eq_none missing, Option.map_none, Option.map_none]
  rw [← Std.ExtTreeMap.keys_map (t := table) (f := fun _ _ => ()), blank, Std.ExtTreeMap.keys_map]

/-- A table made of a list without repeated names has the entries of the list. -/
theorem getElem?_ofList_iff {α : Type} {entries : List (String × α)} {value : α}
    (distinct : entries.Pairwise fun first second => first.1 ≠ second.1) :
    (Std.ExtTreeMap.ofList entries)[name]? = some value ↔ (name, value) ∈ entries := by
  have apart : entries.Pairwise fun first second => ¬ compare first.1 second.1 = .eq :=
    distinct.imp fun different same => different (Std.LawfulEqCmp.eq_of_compare same)
  have listed {value : α} (member : (name, value) ∈ entries) :
      (Std.ExtTreeMap.ofList entries)[name]? = some value :=
    Std.ExtTreeMap.getElem?_ofList_of_mem Std.ReflCmp.compare_self apart member
  refine ⟨fun entry => ?_, listed⟩
  have given : name ∈ entries.map Prod.fst := by
    simpa using Std.ExtTreeMap.mem_ofList.1 (mem_of_entry entry)
  obtain ⟨⟨_, found⟩, member, rfl⟩ := List.mem_map.1 given
  cases (listed member).symm.trans entry
  exact member

/-- The entries of a table make the table again. -/
theorem ofList_toList {α : Type} (table : Table α) : Std.ExtTreeMap.ofList table.toList = table := by
  apply Std.ExtTreeMap.ext_getElem?
  intro name
  apply Option.ext
  intro value
  have distinct : table.toList.Pairwise fun first second => first.1 ≠ second.1 :=
    table.distinct_keys_toList.imp fun different same => different (by rw [same, Std.compare_self])
  rw [getElem?_ofList_iff distinct, Std.ExtTreeMap.mem_toList_iff_getElem?_eq_some]

/-- Adding words under a name adds nothing else. -/
@[simp] theorem holds_addWords {added : List String} :
    Holds (Table.addWords table name added) other word ↔ Holds table other word ∨ name = other ∧ word ∈ added := by
  by_cases same : name = other
  · subst same
    cases entry : table[name]? <;>
      simp [Holds, Table.getElem?_addWords, entry, Std.ExtTreeSet.mem_insertMany_list]
  · simp [Holds, Table.getElem?_addWords, same]

theorem mem_addWords {added : List String} :
    other ∈ Table.addWords table name added ↔ name = other ∨ other ∈ table := by
  by_cases same : name = other <;> simp [Table.addWords, Std.ExtTreeMap.mem_alter, same]

theorem mem_unite {other : Table WordSet} : name ∈ Table.unite table other ↔ name ∈ table ∨ name ∈ other := by
  simp [Table.unite]

@[simp] theorem holds_unite {other : Table WordSet} :
    Holds (Table.unite table other) name word ↔ Holds table name word ∨ Holds other name word := by
  cases left : table[name]? <;> cases right : other[name]? <;>
    simp [Holds, Table.unite, Std.ExtTreeMap.getElem?_map, Std.ExtTreeMap.getElem?_union, left, right]

/-- What the pairs of a table say is what it holds. -/
theorem mem_toList_holds :
    (∃ entry ∈ table.toList, entry.1 = name ∧ word ∈ entry.2) ↔ Holds table name word := by
  constructor
  · rintro ⟨⟨_, words⟩, listed, rfl, member⟩
    exact ⟨words, Std.ExtTreeMap.mem_toList_iff_getElem?_eq_some.1 listed, member⟩
  · rintro ⟨words, entry, member⟩
    exact ⟨(name, words), Std.ExtTreeMap.mem_toList_iff_getElem?_eq_some.2 entry, rfl, member⟩

end Wordbook
