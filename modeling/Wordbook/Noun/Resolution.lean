import Wordbook.Noun.Class

/-! Resolution of noun classes: a class is resolved to its own words together with those of every class
that it takes in. The classes may take in one another in a cycle. A search from one class after another,
in ascending order of their names, keeps every finished class and cuts a cycle where it closes: a class
met again on the way to itself adds nothing there.

The search ends because a class is entered only when it is not yet on the way, so the number of classes
still to be entered shrinks with every step down. -/
namespace Wordbook

/-- What the search did, step by step. -/
inductive SearchStep where
  /-- A class was entered, to gather its words. -/
  | entered (cls : String)
  /-- A class was met again on the way to itself. -/
  | cycleCut (cls : String)
  /-- A class takes in one that is not defined. -/
  | undefinedInclusion (cls included : String)
  /-- A class was asked for that is not defined. -/
  | undefinedClass (cls : String)
deriving DecidableEq, Repr

/-- The state of the search: the finished classes with their words, and the steps, the latest first. -/
structure Search where
  finished : Table WordSet := ∅
  steps : List SearchStep := []

namespace Search

/-- Notes a step. -/
def note (search : Search) (step : SearchStep) : Search :=
  { search with steps := step :: search.steps }

/-- Keeps the words of a finished class. -/
def finish (search : Search) (name : String) (words : WordSet) : Search :=
  { search with finished := search.finished.insert name words }

@[simp] theorem getElem?_finish (search : Search) (name other : String) (words : WordSet) :
    (search.finish name words).finished[other]? =
      if name = other then some words else search.finished[other]? := by
  simp [finish, Std.ExtTreeMap.getElem?_insert]

@[simp] theorem mem_finish (search : Search) (name other : String) (words : WordSet) :
    other ∈ (search.finish name words).finished ↔ name = other ∨ other ∈ search.finished := by
  simp [finish, Std.ExtTreeMap.mem_insert]

/-- How many classes are not on the way. -/
def remaining (classes : Table NounClass) (way : List String) : Nat :=
  classes.keys.countP fun name => !way.contains name

private theorem countP_cons_lt {names way : List String} {name : String} (listed : name ∈ names)
    (fresh : name ∉ way) :
    names.countP (fun other => !(name :: way).contains other) <
      names.countP (fun other => !way.contains other) := by
  have no_more : ∀ names : List String, names.countP (fun other => !(name :: way).contains other) ≤
      names.countP (fun other => !way.contains other) := fun names =>
    List.countP_mono_left (by simp +contextual)
  induction names with
  | nil => cases listed
  | cons first rest ih =>
    have rest_no_more := no_more rest
    by_cases same : first = name
    · subst same
      simp [fresh] at rest_no_more ⊢
      omega
    · have below := ih (by simpa [Ne.symm same] using listed)
      by_cases seen : first ∈ way <;> simp [same, seen] at below ⊢ <;> omega

/-- Entering a class that is not on the way leaves fewer to enter. -/
theorem remaining_cons_lt {classes : Table NounClass} {way : List String} {name : String}
    (defined : name ∈ classes) (fresh : name ∉ way) :
    remaining classes (name :: way) < remaining classes way :=
  countP_cons_lt (Std.ExtTreeMap.mem_keys.2 defined) fresh

/-- The words of the class `name` that is being gathered, once the references that are left are followed:
`words` are those gathered so far, and `follow` gathers the words of a class taken in. Every reference is
checked before it is followed. -/
def gather (classes : Table NounClass)
    (follow : String → Search → Search × Except CountabilityMismatch WordSet)
    (name : String) (countable : Option Bool) :
    List String → WordSet → Search → Search × Except CountabilityMismatch WordSet
  | [], words, search => (search, .ok words)
  | reference :: rest, words, search =>
    let included := className reference
    match classes[included]? with
    | none =>
      gather classes follow name countable rest words (search.note (.undefinedInclusion name included))
    | some cls =>
      match mismatch? name countable included cls.countable with
      | some mismatch => (search, .error mismatch)
      | none =>
        match follow included search with
        | (search, .error mismatch) => (search, .error mismatch)
        | (search, .ok more) => gather classes follow name countable rest (words ∪ more) search

/-- The words of a class, where `way` holds the classes that are being gathered. -/
def visit (classes : Table NounClass) (way : List String) (name : String) (search : Search) :
    Search × Except CountabilityMismatch WordSet :=
  match search.finished[name]? with
  | some words => (search, .ok words)
  | none =>
    if name ∈ way then (search.note (.cycleCut name), .ok ∅)
    else match _defined : classes[name]? with
      | none => (search.note (.undefinedClass name), .ok ∅)
      | some cls =>
        match gather classes (visit classes (name :: way)) name cls.countable cls.includes cls.words
            (search.note (.entered name)) with
        | (search, .error mismatch) => (search, .error mismatch)
        | (search, .ok words) => (search.finish name words, .ok words)
termination_by remaining classes way
decreasing_by
  exact remaining_cons_lt (Std.ExtTreeMap.mem_iff_isSome_getElem?.2 (by simp [_defined])) ‹_›

section Visit
variable {classes : Table NounClass} {way : List String} {name : String} {search : Search}

/-- A finished class is not searched again. -/
theorem visit_of_finished {words : WordSet} (finished : search.finished[name]? = some words) :
    visit classes way name search = (search, .ok words) := by
  rw [visit, finished]

/-- A class on the way to itself adds nothing. -/
theorem visit_of_mem_way (unfinished : search.finished[name]? = none) (onWay : name ∈ way) :
    visit classes way name search = (search.note (.cycleCut name), .ok ∅) := by
  rw [visit, unfinished]
  simp [onWay]

/-- A class that is not defined adds nothing. -/
theorem visit_of_undefined (unfinished : search.finished[name]? = none) (fresh : name ∉ way)
    (missing : classes[name]? = none) :
    visit classes way name search = (search.note (.undefinedClass name), .ok ∅) := by
  rw [visit, unfinished]
  simp only [fresh, ↓reduceIte]
  split
  · rfl
  · rename_i found
    rw [missing] at found
    cases found

/-- A class that is neither finished nor on the way is entered, and finished once its words are gathered. -/
theorem visit_of_fresh {cls : NounClass} (unfinished : search.finished[name]? = none) (fresh : name ∉ way)
    (entry : classes[name]? = some cls) :
    visit classes way name search =
      match gather classes (visit classes (name :: way)) name cls.countable cls.includes cls.words
          (search.note (.entered name)) with
      | (search, .error mismatch) => (search, .error mismatch)
      | (search, .ok words) => (search.finish name words, .ok words) := by
  rw [visit, unfinished]
  simp only [fresh, ↓reduceIte]
  split
  · rename_i missing
    rw [entry] at missing
    cases missing
  · rename_i found
    cases entry.symm.trans found
    rfl

end Visit

/-- Visits classes in turn, each from a fresh start, and lists the words of each. -/
def visitAll (classes : Table NounClass) :
    List String → Table WordSet → Search → Search × Except CountabilityMismatch (Table WordSet)
  | [], resolved, search => (search, .ok resolved)
  | name :: rest, resolved, search =>
    match visit classes [] name search with
    | (search, .error mismatch) => (search, .error mismatch)
    | (search, .ok words) => visitAll classes rest (resolved.insert name words) search

end Search

/-- What a resolution did and what came of it. -/
structure Resolution where
  /-- The steps of the search, the first one first. -/
  steps : List SearchStep
  /-- The words of every class, or the first mismatch. -/
  outcome : Except CountabilityMismatch (Table WordSet)

/-- Resolves every class, in ascending order of the names. -/
def resolveNouns (classes : Table NounClass) : Resolution :=
  let (search, outcome) := Search.visitAll classes classes.keys ∅ {}
  { steps := search.steps.reverse, outcome := outcome }

end Wordbook
