import Mathlib.Logic.Relation
import Wordbook.Noun.Resolution
import Wordbook.Proofs.Table

/-! The inclusion graph of noun classes: which classes a class takes in, directly and through others, and
which classes take in one another. The graph is read off the class table alone, and so is what a complete
resolution of a class would hold; no search takes part in either. -/
namespace Wordbook

/-- A class refers to another one, and that one is defined. -/
def Includes (classes : Table NounClass) (name included : String) : Prop :=
  included ∈ classes ∧
    ∃ cls, classes[name]? = some cls ∧ ∃ reference ∈ cls.includes, className reference = included

/-- A class is the other one, or takes it in through any number of classes. -/
def Reaches (classes : Table NounClass) : String → String → Prop :=
  Relation.ReflTransGen (Includes classes)

/-- Two classes take in each other. -/
def Mutual (classes : Table NounClass) (name other : String) : Prop :=
  Reaches classes name other ∧ Reaches classes other name

/-- A class takes in another one that takes it in as well. -/
def Entangled (classes : Table NounClass) (name : String) : Prop :=
  ∃ partner, partner ≠ name ∧ Mutual classes name partner

/-- What a class says on whether its nouns can be counted; nothing, if there is no such class. -/
def flagOf (classes : Table NounClass) (name : String) : Option Bool :=
  classes[name]?.bind NounClass.countable

/-- A word is one of a class's own. -/
def OwnWord (classes : Table NounClass) (name word : String) : Prop :=
  ∃ cls, classes[name]? = some cls ∧ word ∈ cls.words

/-- A word is an own word of some class that the given one is or takes in. -/
def WordWithin (classes : Table NounClass) (name word : String) : Prop :=
  ∃ other, Reaches classes name other ∧ OwnWord classes other word

/-- A table has an entry for a class, and it holds exactly the own words of every class that the class is or
takes in. -/
def CompleteAt (classes : Table NounClass) (resolved : Table WordSet) (name : String) : Prop :=
  ∃ words, resolved[name]? = some words ∧ ∀ word, word ∈ words ↔ WordWithin classes name word

variable {classes : Table NounClass} {name other included word : String} {cls : NounClass}

@[simp] theorem flagOf_of_entry (entry : classes[name]? = some cls) : flagOf classes name = cls.countable := by
  simp [flagOf, entry]

theorem includes_iff_of_entry (entry : classes[name]? = some cls) :
    Includes classes name included ↔ included ∈ classes ∧ included ∈ cls.includes.map className := by
  simp [Includes, entry]

instance (classes : Table NounClass) (name included : String) : Decidable (Includes classes name included) :=
  decidable_of_iff (included ∈ classes ∧
      classes[name]?.any (fun cls => (cls.includes.map className).contains included) = true) (by
    cases entry : classes[name]? <;> simp [Includes, entry])

instance (classes : Table NounClass) (name word : String) : Decidable (OwnWord classes name word) :=
  decidable_of_iff (classes[name]?.any (fun cls => cls.words.contains word) = true) (by
    cases entry : classes[name]? <;> simp [OwnWord, entry])

theorem Includes.source_defined (edge : Includes classes name included) : name ∈ classes := by
  obtain ⟨_, _, entry, _⟩ := edge
  exact mem_of_entry entry

/-- Only defined classes are taken in, so an undefined name reaches itself alone. -/
theorem Reaches.defined (reaches : Reaches classes name other) (defined : name ∈ classes) :
    other ∈ classes := by
  induction reaches with
  | refl => exact defined
  | tail _ edge _ => exact edge.1

theorem Reaches.source_defined (reaches : Reaches classes name other) (defined : other ∈ classes) :
    name ∈ classes := by
  induction reaches with
  | refl => exact defined
  | tail _ edge ih => exact ih edge.source_defined

theorem OwnWord.defined (own : OwnWord classes name word) : name ∈ classes := by
  obtain ⟨_, entry, _⟩ := own
  exact mem_of_entry entry

end Wordbook
