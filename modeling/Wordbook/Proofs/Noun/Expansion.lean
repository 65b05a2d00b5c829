import Mathlib.Data.List.Basic
import Mathlib.Data.List.Count
import Wordbook.Proofs.Noun.Cycle

/-! What the search does exactly once. A class is entered only while it is neither finished nor on the way, and from
then on it is one or the other, so it is never entered again; and every reference of a class is followed when the class
is entered, so each that leads nowhere is warned of then and only then. Along a course the two accounts balance: what
was warned of, and what the entered classes give occasion to, differ by the references that are still to be followed. -/
namespace Wordbook
open Search

/-- The class that a step enters. -/
def SearchStep.entered? : SearchStep → Option String
  | entered cls => some cls
  | _ => none

/-- The class and the undefined name that a step warns of. -/
def SearchStep.dangling? : SearchStep → Option (String × String)
  | undefinedInclusion cls included => some (cls, included)
  | _ => none

/-- The names among those asked for that are not defined, each with the class that refers to it. -/
def danglingAmong (classes : Table NounClass) (name : String) (asked : List String) : List (String × String) :=
  (asked.filter (· ∉ classes)).map (name, ·)

/-- The references of a class that lead nowhere. -/
def danglingOf (classes : Table NounClass) (name : String) : List (String × String) :=
  classes[name]?.elim [] fun cls => danglingAmong classes name (cls.includes.map className)

/-- All references that lead nowhere, class by class, with one entry for each time that a class refers so. -/
def danglingReferences (classes : Table NounClass) : List (String × String) :=
  classes.toList.flatMap fun entry => danglingAmong classes entry.1 (entry.2.includes.map className)

namespace Search

/-- The references that were warned of. -/
def warned (search : Search) : List (String × String) := search.steps.filterMap SearchStep.dangling?

/-- The references of the entered classes that lead nowhere. -/
def occasions (classes : Table NounClass) (search : Search) : List (String × String) :=
  (search.steps.filterMap SearchStep.entered?).flatMap (danglingOf classes)

end Search

variable {classes : Table NounClass} {way asked : List String} {name included : String}
variable {words total : WordSet} {before after search : Search}

/-! ## Every class is entered once -/

/-- The classes that are finished or on the way were entered once, and no others were. -/
def EnteredOnce (way : List String) (search : Search) : Prop :=
  ∀ name, search.steps.count (.entered name) = if name ∈ search.finished ∨ name ∈ way then 1 else 0

theorem EnteredOnce.start : EnteredOnce [] {} := by simp [EnteredOnce]

theorem EnteredOnce.note (once : EnteredOnce way search) {step : SearchStep} (stays : step.entered? = none) :
    EnteredOnce way (search.note step) := by
  intro name
  have other : step ≠ .entered name := by
    rintro rfl
    cases stays
  exact (List.count_cons_of_ne other).trans (once name)

theorem EnteredOnce.enter (once : EnteredOnce way search) (unfinished : name ∉ search.finished) (fresh : name ∉ way) :
    EnteredOnce (name :: way) (search.note (.entered name)) := by
  intro other
  have earlier := once other
  by_cases same : name = other
  · subst same
    simpa [Search.note, unfinished, fresh] using earlier
  · simpa [Search.note, same, Ne.symm same] using earlier

theorem EnteredOnce.finish (once : EnteredOnce (name :: way) search) (words : WordSet) :
    EnteredOnce way (search.finish name words) := by
  intro other
  rw [show (search.finish name words).steps = search.steps from rfl, once other]
  simp only [mem_finish, List.mem_cons, or_assoc, or_left_comm, eq_comm]

/-- A course enters no class that is finished or on the way, so it enters none twice. -/
theorem Explores.enteredOnce (course : Explores classes way asked words before total after)
    (start : EnteredOnce way before) : EnteredOnce way after := by
  induction course with
  | done => exact start
  | undefined _ _ ih => exact ih (start.note rfl)
  | known _ _ ih => exact ih start
  | cut _ _ _ ih => exact ih (start.note rfl)
  | entered unfinished fresh _ _ _ _ belowOnce ih => exact ih ((belowOnce (start.enter unfinished fresh)).finish _)

/-! ## Every reference that leads nowhere is warned of once -/

/-- The references still to be followed that lead nowhere: those of the class last entered. -/
def outstanding (classes : Table NounClass) (way asked : List String) : List (String × String) :=
  way.head?.elim [] fun owner => danglingAmong classes owner asked

theorem outstanding_cons_of_mem (defined : name ∈ classes) :
    outstanding classes way (name :: asked) = outstanding classes way asked := by
  cases way <;> simp [outstanding, danglingAmong, defined]

theorem outstanding_cons_of_not_mem {owner : String} (undefined : name ∉ classes) :
    outstanding classes (owner :: way) (name :: asked) = (owner, name) :: outstanding classes (owner :: way) asked := by
  simp [outstanding, danglingAmong, undefined]

@[simp] theorem outstanding_nil : outstanding classes way [] = [] := by
  cases way <;> rfl

/-- When a class is entered, all its references are still to be followed. -/
theorem outstanding_of_entry {cls : NounClass} (entry : classes[name]? = some cls) :
    outstanding classes (name :: way) (cls.includes.map className) = danglingOf classes name := by
  simp [outstanding, danglingOf, entry]

theorem warned_note (search : Search) (step : SearchStep) :
    (search.note step).warned = step.dangling?.toList ++ search.warned := by
  cases step <;> rfl

theorem occasions_note (search : Search) (step : SearchStep) :
    (search.note step).occasions classes = step.entered?.elim [] (danglingOf classes) ++ search.occasions classes := by
  cases step <;> simp [occasions, note, SearchStep.entered?, List.filterMap_cons]

@[simp] theorem warned_finish (search : Search) (name : String) (words : WordSet) :
    (search.finish name words).warned = search.warned := rfl

@[simp] theorem occasions_finish (search : Search) (name : String) (words : WordSet) :
    (search.finish name words).occasions classes = search.occasions classes := rfl

/-- What a course warns of besides what it was asked for are the references of the classes that it enters. -/
theorem Explores.warned_perm (course : Explores classes way asked words before total after)
    (start : Settled classes way before) (defined : ∀ upper ∈ way, upper ∈ classes) :
    (after.warned ++ before.occasions classes).Perm
      (outstanding classes way asked ++ before.warned ++ after.occasions classes) := by
  induction course with
  | done => simp
  | undefined undefined _ ih =>
    have balance := ih (start.note _) defined
    rw [warned_note, occasions_note] at balance
    rw [outstanding_cons_of_not_mem undefined]
    exact balance.trans (List.perm_middle.append_right _)
  | known finished _ ih =>
    rw [outstanding_cons_of_mem (start.defined _ (mem_of_entry finished))]
    exact ih start defined
  | cut _ onWay _ ih =>
    have balance := ih (start.note _) defined
    rw [outstanding_cons_of_mem (defined _ onWay)]
    rwa [warned_note, occasions_note] at balance
  | entered unfinished fresh entry _ below _ belowBalance ih =>
    have enteredDefined := mem_of_entry entry
    have inside := belowBalance (start.enter unfinished) (List.forall_mem_cons.2 ⟨enteredDefined, defined⟩)
    have onward := ih (below.settled_finish start unfinished fresh entry) defined
    rw [warned_note, occasions_note, outstanding_of_entry entry] at inside
    rw [outstanding_cons_of_mem enteredDefined]
    -- The references of the entered class stand on both sides of the account of the course below it.
    refine List.perm_iff_count.2 fun reference => ?_
    have insideCount := inside.count_eq reference
    have onwardCount := onward.count_eq reference
    simp only [List.count_append, SearchStep.dangling?, SearchStep.entered?, Option.toList_none, Option.elim_some,
      List.count_nil, warned_finish, occasions_finish] at insideCount onwardCount ⊢
    omega

/-! ## The whole resolution -/

variable {resolved : Table WordSet}

theorem SearchStep.entered?_eq_some_iff {step : SearchStep} : step.entered? = some name ↔ step = .entered name := by
  cases step <;> simp [entered?]

theorem resolveNouns_entered (ran : (resolveNouns classes).outcome = .ok resolved) (name : String) :
    (resolveNouns classes).steps.count (.entered name) = if name ∈ classes then 1 else 0 := by
  obtain ⟨_, final, course, rfl, steps⟩ := resolveNouns_explores ran
  rw [steps, List.count_reverse, course.enteredOnce .start name]
  simp [resolved_mem_iff ran]

/-- The classes that are entered are those of the table. -/
theorem resolveNouns_entered_perm (ran : (resolveNouns classes).outcome = .ok resolved) :
    ((resolveNouns classes).steps.filterMap SearchStep.entered?).Perm classes.keys := by
  refine List.perm_iff_count.2 fun name => ?_
  have counts : ((resolveNouns classes).steps.filterMap SearchStep.entered?).count name =
      (resolveNouns classes).steps.count (.entered name) := by
    rw [List.count_filterMap]
    exact List.countP_congr fun step _ => by simp [SearchStep.entered?_eq_some_iff]
  rw [counts, resolveNouns_entered ran, Std.ExtTreeMap.nodup_keys.count]
  simp

theorem danglingReferences_eq (classes : Table NounClass) :
    danglingReferences classes = classes.keys.flatMap (danglingOf classes) := by
  rw [danglingReferences, ← Std.ExtTreeMap.map_fst_toList_eq_keys, List.flatMap_map]
  refine List.flatMap_congr fun entry listed => ?_
  simp [danglingOf, Std.ExtTreeMap.mem_toList_iff_getElem?_eq_some.1 listed]

/-- The references that are warned of are all those that lead nowhere. -/
theorem resolveNouns_warned_perm (ran : (resolveNouns classes).outcome = .ok resolved) :
    ((resolveNouns classes).steps.filterMap SearchStep.dangling?).Perm (danglingReferences classes) := by
  obtain ⟨_, final, course, _, steps⟩ := resolveNouns_explores ran
  have balance := course.warned_perm (Settled.start classes) (by simp)
  have entered := (resolveNouns_entered_perm ran).flatMap_right (danglingOf classes)
  simp only [warned, occasions, outstanding, List.head?_nil, Option.elim_none, List.filterMap_nil, List.flatMap_nil,
    List.append_nil, List.nil_append] at balance
  rw [steps, List.filterMap_reverse] at entered ⊢
  rw [danglingReferences_eq]
  exact (List.reverse_perm _).trans (balance.trans (((List.reverse_perm _).symm.flatMap_right _).trans entered))

theorem mem_danglingOf {owner : String} (member : (owner, included) ∈ danglingOf classes name) : owner = name := by
  cases entry : classes[name]? with
  | none => simp [danglingOf, entry] at member
  | some cls =>
    simp only [danglingOf, danglingAmong, entry, Option.elim_some, List.mem_map, Prod.mk.injEq] at member
    obtain ⟨_, _, same, _⟩ := member
    exact same.symm

/-- Of a class, all the references that lead nowhere are its own. -/
theorem count_danglingReferences :
    (danglingReferences classes).count (name, included) = (danglingOf classes name).count (name, included) := by
  have elsewhere : ∀ names : List String, name ∉ names →
      (names.flatMap (danglingOf classes)).count (name, included) = 0 :=
    fun names absent => List.count_eq_zero.2 fun member => by
      obtain ⟨other, listed, inside⟩ := List.mem_flatMap.1 member
      exact absent (mem_danglingOf inside ▸ listed)
  rw [danglingReferences_eq]
  by_cases defined : name ∈ classes
  · have split := List.perm_cons_erase (Std.ExtTreeMap.mem_keys.2 defined)
    rw [(split.flatMap_right _).count_eq, List.flatMap_cons, List.count_append,
      elsewhere _ Std.ExtTreeMap.nodup_keys.not_mem_erase, Nat.add_zero]
  · rw [elsewhere _ (mt Std.ExtTreeMap.mem_keys.1 defined)]
    simp [danglingOf, Std.ExtTreeMap.getElem?_eq_none defined]

theorem count_danglingOf : (danglingOf classes name).count (name, included) =
    if included ∈ classes then 0 else classes[name]?.elim 0 fun cls => (cls.includes.map className).count included := by
  have injective : Function.Injective fun other : String => (name, other) := fun _ _ same => (Prod.mk.inj same).2
  cases entry : classes[name]? with
  | none => simp [danglingOf, entry]
  | some cls =>
    rw [danglingOf, entry, Option.elim_some, danglingAmong, List.count_map_of_injective _ _ injective]
    split
    · rename_i defined
      exact List.count_eq_zero.2 fun member => by simp [defined] at member
    · rename_i undefined
      rw [List.count_filter (by simpa using undefined), Option.elim_some]

/-! ## No class that is not defined is asked for -/

/-- No class that is not defined was asked for. -/
def AsksDefined (search : Search) : Prop := ∀ name, .undefinedClass name ∉ search.steps

theorem AsksDefined.note (asks : AsksDefined search) {step : SearchStep} (other : ∀ name, step ≠ .undefinedClass name) :
    AsksDefined (search.note step) := fun name member =>
  (List.mem_cons.1 member).elim (fun same => other name same.symm) (asks name)

/-- Gathering asks for defined classes alone, however it ends. -/
theorem gather_asksDefined {follow : String → Search → Search × Except CountabilityMismatch WordSet}
    (follows : ∀ included ∈ classes, ∀ search, AsksDefined search → AsksDefined (follow included search).1)
    (countable : Option Bool) (references : List String) (asks : AsksDefined search) :
    AsksDefined (gather classes follow name countable references words search).1 := by
  induction references generalizing words search with
  | nil => exact asks
  | cons reference rest ih =>
    simp only [gather]
    split
    · exact ih (asks.note (by simp))
    · rename_i cls entry
      split
      · exact asks
      · have followed := follows _ (mem_of_entry entry) search asks
        split
        · rename_i failed
          rwa [failed] at followed
        · rename_i succeeded
          rw [succeeded] at followed
          exact ih followed

/-- A class that is entered asks for defined classes if the visits below it do. -/
theorem entered_asksDefined {cls : NounClass} (unfinished : search.finished[name]? = none) (fresh : name ∉ way)
    (entry : classes[name]? = some cls)
    (follows : ∀ included ∈ classes, ∀ search, AsksDefined search →
      AsksDefined (visit classes (name :: way) included search).1)
    (asks : AsksDefined search) : AsksDefined (visit classes way name search).1 := by
  have enter : AsksDefined (search.note (.entered name)) := asks.note (by simp)
  have below : AsksDefined (gather classes (visit classes (name :: way)) name cls.countable cls.includes cls.words
      (search.note (.entered name))).1 := gather_asksDefined follows _ _ enter
  rw [visit_of_fresh unfinished fresh entry]
  split
  · rename_i failed
    rwa [failed] at below
  · rename_i succeeded
    rw [succeeded] at below
    exact below

theorem visit_asksDefined (defined : name ∈ classes) (asks : AsksDefined search) :
    AsksDefined (visit classes way name search).1 := by
  induction way, name, search using visit.induct classes with
  | case1 way name search held finished => rwa [visit_of_finished finished]
  | case2 way name search unfinished onWay =>
    rw [visit_of_mem_way unfinished onWay]
    exact asks.note (by simp)
  | case3 way name search unfinished fresh missing => exact absurd defined (by simpa using missing)
  -- Whether gathering stopped or came to words makes no difference to what was asked for on the way.
  | case4 way name search unfinished fresh cls entry inner stopped gathered ih =>
    exact entered_asksDefined unfinished fresh entry (fun included defined search => ih included search defined) asks
  | case5 way name search unfinished fresh cls entry inner held gathered ih =>
    exact entered_asksDefined unfinished fresh entry (fun included defined search => ih included search defined) asks

theorem visitAll_asksDefined {names : List String} {listed : Table WordSet} (defined : ∀ name ∈ names, name ∈ classes)
    (asks : AsksDefined search) : AsksDefined (visitAll classes names listed search).1 := by
  induction names generalizing listed search with
  | nil => exact asks
  | cons first rest ih =>
    obtain ⟨firstDefined, restDefined⟩ := List.forall_mem_cons.1 defined
    have visited : AsksDefined (visit classes [] first search).1 := visit_asksDefined firstDefined asks
    rw [visitAll]
    split
    · rename_i failed
      rwa [failed] at visited
    · rename_i succeeded
      rw [succeeded] at visited
      exact ih restDefined visited

/-- A resolution asks for defined classes alone, whether it succeeds or fails. -/
theorem resolveNouns_asksDefined (classes : Table NounClass) (name : String) :
    .undefinedClass name ∉ (resolveNouns classes).steps := by
  have asks : AsksDefined (visitAll classes classes.keys ∅ {}).1 :=
    visitAll_asksDefined (fun _ => Std.ExtTreeMap.mem_keys.1) (by simp [AsksDefined])
  exact fun member => asks name (List.mem_reverse.1 member)

/-! ## What is logged of it -/

/-- The warnings in a log. -/
def warnings (log : List Event) : List Event := log.filter (·.level = .warn)

/-- The warning that the log has of a step, if the step does not ask for a class that is not defined. -/
theorem SearchStep.warning_eq {step : SearchStep} (asks : ∀ name, step ≠ .undefinedClass name) :
    step.event?.filter (·.level = .warn) = step.dangling?.map fun found => .undefinedInclusion found.1 found.2 := by
  cases step with
  | undefinedClass cls => exact absurd rfl (asks cls)
  | entered | cycleCut | undefinedInclusion => rfl

/-- The log warns of what the search has warned of, in the same order. -/
theorem warnings_events (classes : Table NounClass) :
    warnings (resolveNouns classes).events = ((resolveNouns classes).steps.filterMap SearchStep.dangling?).map
      fun found => .undefinedInclusion found.1 found.2 := by
  rw [warnings, Resolution.events, List.filter_filterMap, List.map_filterMap]
  refine List.filterMap_congr fun step member => SearchStep.warning_eq fun name same => ?_
  exact resolveNouns_asksDefined classes name (same ▸ member)

/-- An assembly warns of nothing else, even if it fails. -/
theorem warnings_assemble (sources : Sources) :
    warnings (assemble sources).log = warnings (resolveNouns sources.nouns).events := by
  have silent : ∀ finding : VerbFinding, finding.event?.filter (·.level = .warn) = none := by
    rintro (_ | _ | _) <;> rfl
  have resolved : ∀ count, (Event.nounsResolved count).level ≠ .warn := by simp [Event.level]
  have classified : ∀ count, (Event.verbsClassified count).level ≠ .warn := by simp [Event.level]
  simp only [assemble, bind, Run.report, Run.ofExcept, pure, Resolution.events, warnings]
  split <;> simp [silent, resolved, classified, List.filter_filterMap]

/-- How often a class is warned of for a name, which is how often it refers to the name. -/
theorem count_undefinedInclusion (ran : (resolveNouns classes).outcome = .ok resolved) (name included : String) :
    (resolveNouns classes).events.count (.undefinedInclusion name included) =
      if included ∈ classes then 0
      else classes[name]?.elim 0 fun cls => (cls.includes.map className).count included := by
  have injective : Function.Injective fun found : String × String => Event.undefinedInclusion found.1 found.2 := by
    rintro ⟨_, _⟩ ⟨_, _⟩ ⟨⟩
    rfl
  calc (resolveNouns classes).events.count (.undefinedInclusion name included)
      = (warnings (resolveNouns classes).events).count (.undefinedInclusion name included) :=
        (List.count_filter (by simp [Event.level])).symm
    _ = ((resolveNouns classes).steps.filterMap SearchStep.dangling?).count (name, included) := by
        rw [warnings_events]
        exact List.count_map_of_injective _ _ injective (name, included)
    _ = (danglingReferences classes).count (name, included) := (resolveNouns_warned_perm ran).count_eq _
    _ = _ := count_danglingReferences.trans count_danglingOf

/-- In a resolution that succeeds every class is entered exactly once, and every reference that leads nowhere is warned
of exactly once: a class that refers to a name several times is warned of as often, and the log has no other warnings.
A class that is not defined is never asked for, even in a resolution that fails; and the warnings are also those of the
whole assembly. -/
theorem expanded_and_warned_once (classes : Table NounClass) :
    (∀ resolved, (resolveNouns classes).outcome = .ok resolved →
      (∀ name, (resolveNouns classes).steps.count (.entered name) = if name ∈ classes then 1 else 0) ∧
      (∀ name included, (resolveNouns classes).events.count (.undefinedInclusion name included) =
        if included ∈ classes then 0
        else classes[name]?.elim 0 fun cls => (cls.includes.map className).count included) ∧
      ((warnings (resolveNouns classes).events).map Event.message).Perm ((danglingReferences classes).map fun found =>
        "Noun class '" ++ found.1 ++ "' includes undefined class '" ++ found.2 ++ "'")) ∧
    (∀ name, .undefinedClass name ∉ (resolveNouns classes).steps) ∧
    ∀ sources : Sources, sources.nouns = classes →
      warnings (assemble sources).log = warnings (resolveNouns classes).events := by
  refine ⟨fun resolved ran => ⟨resolveNouns_entered ran, count_undefinedInclusion ran, ?_⟩,
    resolveNouns_asksDefined classes, ?_⟩
  · rw [warnings_events, List.map_map]
    exact (resolveNouns_warned_perm ran).map _
  · rintro sources rfl
    exact warnings_assemble sources

/-- Two classes that take in each other and refer to names that are not defined, one of them twice in two spellings. -/
def larder : Table NounClass :=
  Std.ExtTreeMap.ofList [
    ("bread", ({ includes := ["flour", "yeast.json", "butter", "flour.json"] } : NounClass)),
    ("butter", { includes := ["butter", "bread.json", "flour"] })]

/-- The class that refers twice to one name is warned of twice, and the other one once, though both are met again. -/
theorem larder_warned : ∃ resolved, (resolveNouns larder).outcome = .ok resolved ∧
    (resolveNouns larder).steps.count (.entered "butter") = 1 ∧
    (resolveNouns larder).events.count (.undefinedInclusion "bread" "flour") = 2 ∧
    ((warnings (resolveNouns larder).events).map Event.message).Perm
      ["Noun class 'bread' includes undefined class 'flour'",
        "Noun class 'bread' includes undefined class 'yeast'",
        "Noun class 'bread' includes undefined class 'flour'",
        "Noun class 'butter' includes undefined class 'flour'"] := by
  have succeeds : (resolveNouns larder).outcome.isOk = true := by decide +kernel
  cases outcome : (resolveNouns larder).outcome with
  | error mismatch => simp [outcome, Except.isOk, Except.toBool] at succeeds
  | ok resolved =>
    obtain ⟨entered, warned, messages⟩ := (expanded_and_warned_once larder).1 resolved outcome
    have found : danglingReferences larder =
        [("bread", "flour"), ("bread", "yeast"), ("bread", "flour"), ("butter", "flour")] := by decide +kernel
    rw [found] at messages
    exact ⟨resolved, rfl, (entered "butter").trans (by decide +kernel),
      (warned "bread" "flour").trans (by decide +kernel), messages⟩

end Wordbook
