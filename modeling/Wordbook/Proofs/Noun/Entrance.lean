import Wordbook.Proofs.Noun.Reachability

/-! Where the search comes into a group of classes that take in one another. The class of the group that it enters
first gets everything that the group has, and none of the others ever gets the words of that one. -/
namespace Wordbook
open Search

/-- Of all classes that take it in and are taken in by it, the search enters this class first. -/
def Entrance (classes : Table NounClass) (name : String) : Prop :=
  ∃ early late, (resolveNouns classes).steps = early ++ .entered name :: late ∧
    ∀ member, Mutual classes name member → .entered member ∉ early

/-- All classes entangled with a class are finished, it has all that they have, and none of them has a word that is
its own alone. -/
structure Gate (classes : Table NounClass) (table : Table WordSet) (name : String) : Prop where
  finished : ∀ member, Mutual classes name member → member ∈ table
  covers : ∀ member, Mutual classes name member → Covers table name member
  hidden : ∀ member word, Mutual classes name member → member ≠ name →
    (∀ owner, OwnWord classes owner word → owner = name) → ¬ Holds table member word

variable {classes : Table NounClass} {way asked : List String} {name other included member word : String}
variable {words more total : WordSet} {before after search : Search} {resolved : Table WordSet}

theorem Mutual.refl (classes : Table NounClass) (name : String) : Mutual classes name name := ⟨.refl, .refl⟩

theorem Mutual.symm (both : Mutual classes name other) : Mutual classes other name := ⟨both.2, both.1⟩

theorem Mutual.trans {third : String} (first : Mutual classes name other) (second : Mutual classes other third) :
    Mutual classes name third := ⟨first.1.trans second.1, second.2.trans first.2⟩

theorem Entangled.of_mutual (entangled : Entangled classes name) (both : Mutual classes name other) :
    Entangled classes other := by
  obtain ⟨partner, different, between⟩ := entangled
  by_cases same : partner = other
  · exact ⟨name, same ▸ different.symm, both.symm⟩
  · exact ⟨partner, same, both.symm.trans between⟩

/-- A course only adds to the log. -/
theorem Explores.logs (course : Explores classes way asked words before total after) :
    ∃ late, after.steps = late ++ before.steps := by
  induction course with
  | done => exact ⟨[], rfl⟩
  | undefined _ _ ih =>
    obtain ⟨late, steps⟩ := ih
    exact ⟨late ++ [_], by rw [steps, note, List.append_assoc, List.singleton_append]⟩
  | known _ _ ih => exact ih
  | cut _ _ _ ih =>
    obtain ⟨late, steps⟩ := ih
    exact ⟨late ++ [_], by rw [steps, note, List.append_assoc, List.singleton_append]⟩
  | @entered name _ _ _ _ _ _ _ _ _ _ _ _ _ _ _ belowLogs ih =>
    obtain ⟨late, steps⟩ := ih
    obtain ⟨inside, innerSteps⟩ := belowLogs
    exact ⟨late ++ (inside ++ [.entered name]), by simp [steps, finish, innerSteps, note]⟩

/-- What a gate says of finished classes stays true. -/
theorem Gate.kept (gate : Gate classes before.finished name) (start : Apart way before)
    (course : Explores classes way asked words before total after) : Gate classes after.finished name where
  finished member both := course.stays_finished start (gate.finished member both)
  covers member both :=
    (course.covers_iff start (gate.finished name (.refl _ _)) (gate.finished member both)).2 (gate.covers member both)
  hidden member word both different owned := by
    rw [course.holds_iff start (gate.finished member both)]
    exact gate.hidden member word both different owned

theorem Gate.finish (gate : Gate classes search.finished name) (unfinished : other ∉ search.finished) :
    Gate classes (search.finish other words).finished name := by
  have apart : ∀ member, Mutual classes name member → other ≠ member := by
    rintro member both rfl
    exact unfinished (gate.finished other both)
  constructor
  · exact fun member both => (mem_finish ..).2 (.inr (gate.finished member both))
  · intro member both
    simpa only [Covers, holds_finish_ne (apart name (.refl _ _)), holds_finish_ne (apart member both)] using
      gate.covers member both
  · intro member word both different owned
    rw [holds_finish_ne (apart member both)]
    exact gate.hidden member word both different owned

/-- The first class of a group to be entered is finished after all others and with all that they have. They were
finished when its own words were not yet held by any finished class. -/
theorem Explores.gate {cls : NounClass} (start : Settled classes way before) (sourced : Sourced classes before)
    (unfinished : name ∉ before.finished) (fresh : name ∉ way) (entry : classes[name]? = some cls)
    (below : Explores classes (name :: way) (cls.includes.map className) words (before.note (.entered name)) more after)
    (unentered : ∀ member, Mutual classes name member → .entered member ∉ before.steps) :
    Gate classes (after.finish name more).finished name := by
  have enter := start.enter unfinished
  have settled := below.settled enter
  have finish := below.settled_finish start unfinished fresh entry
  have reached : ∀ member, Reaches classes name member → Reaches classes member name →
      member ∈ (after.finish name more).finished := by
    intro member reaches
    induction reaches with
    | refl => exact fun _ => (mem_finish ..).2 (.inl rfl)
    | @tail middle last path edge ih =>
      intro back
      have onWay : last ∉ way := fun onWay =>
        unentered last ⟨path.tail edge, back⟩ (start.logged last (.inr onWay))
      exact (finish.closed middle last (ih (.head edge back)) edge).resolve_right onWay
  constructor
  · exact fun member both => reached member both.1 both.2
  · intro member both word holds
    by_cases same : name = member
    · exact same ▸ holds
    · have new : member ∉ before.finished := fun finished =>
        unentered member both (start.logged member (.inl finished))
      exact holds_finish_self.2 (below.gathers enter (.inr new) ((holds_finish_ne same).1 holds))
  · intro member word both different owned holds
    rw [holds_finish_ne different.symm] at holds
    obtain ⟨source, finished, _, own⟩ := below.sourced enter sourced member word holds
    exact settled.apart name List.mem_cons_self (owned source own ▸ finished)

/-- A course that starts before any class of a group was entered leaves it so, or comes into the group by a class
that is a gate from then on. -/
theorem Explores.entrance (course : Explores classes way asked words before total after)
    (start : Settled classes way before) (sourced : Sourced classes before)
    (unentered : ∀ member, Mutual classes name member → .entered member ∉ before.steps) :
    (∀ member, Mutual classes name member → .entered member ∉ after.steps) ∨
      ∃ first late early, Mutual classes name first ∧ after.steps = late ++ .entered first :: early ∧
        (∀ member, Mutual classes name member → .entered member ∉ early) ∧ Gate classes after.finished first := by
  induction course with
  | done => exact .inl unentered
  | undefined _ _ ih => exact ih (start.note _) sourced fun member both => by simpa [note] using unentered member both
  | known _ _ ih => exact ih start sourced unentered
  | cut _ _ _ ih => exact ih (start.note _) sourced fun member both => by simpa [note] using unentered member both
  | @entered entered _ _ _ more _ before inner _ _ unfinished fresh entry agrees below rest belowEntrance ih =>
    have enter := start.enter unfinished
    have settled := below.settled enter
    have finish := below.settled_finish start unfinished fresh entry
    have apart : entered ∉ inner.finished := settled.apart entered List.mem_cons_self
    obtain ⟨late, steps⟩ := rest.logs
    by_cases inGroup : Mutual classes name entered
    · obtain ⟨inside, innerSteps⟩ := below.logs
      refine .inr ⟨entered, late ++ inside, before.steps, inGroup, ?_, unentered, ?_⟩
      · rw [steps, Search.finish, innerSteps, note, List.append_assoc]
      · refine Gate.kept (below.gate start sourced unfinished fresh entry ?_) finish.apart rest
        exact fun member both => unentered member (inGroup.trans both)
    · have stillUnentered : ∀ member, Mutual classes name member →
          .entered member ∉ (before.note (.entered entered)).steps := by
        rintro member both logged
        rcases List.mem_cons.1 logged with same | logged
        · cases same
          exact inGroup both
        · exact unentered member both logged
      rcases belowEntrance enter sourced stillUnentered with none | ⟨first, inside, early, both, innerSteps, none, gate⟩
      · have step : Explores classes _ [entered] ∅ before _ _ := .entered unfinished fresh entry agrees below .done
        exact ih finish (step.sourced start sourced) none
      · refine .inr ⟨first, late ++ inside, early, both, ?_, none, Gate.kept (gate.finish apart) finish.apart rest⟩
        rw [steps, Search.finish, innerSteps, List.append_assoc]

/-! ## The entrances of a resolution -/

/-- A group of classes that take in one another has no two entrances. -/
theorem entrance_unique (first : Entrance classes name) (second : Entrance classes other)
    (both : Mutual classes name other) : name = other := by
  obtain ⟨early, late, steps, clean⟩ := first
  obtain ⟨early', late', steps', clean'⟩ := second
  rw [steps] at steps'
  rcases List.append_eq_append_iff.1 steps' with ⟨between, rfl, same⟩ | ⟨between, rfl, same⟩
  · cases between with
    | nil => exact SearchStep.entered.inj (List.cons.inj same).1
    | cons step between =>
      obtain ⟨rfl, _⟩ := List.cons.inj same
      exact absurd (by simp) (clean' name both.symm)
  · cases between with
    | nil => exact (SearchStep.entered.inj (List.cons.inj same).1).symm
    | cons step between =>
      obtain ⟨rfl, _⟩ := List.cons.inj same
      exact absurd (by simp) (clean other both)

section Resolved
variable (ran : (resolveNouns classes).outcome = .ok resolved)
include ran

/-- Every class is entangled with an entrance or is one itself, and that is a gate in the end. -/
theorem exists_entrance (defined : name ∈ classes) :
    ∃ first, Mutual classes name first ∧ Entrance classes first ∧ Gate classes resolved first := by
  have finished := (resolved_mem_iff ran).2 defined
  obtain ⟨_, final, course, rfl, steps⟩ := resolveNouns_explores ran
  have start := Settled.start classes
  have unentered : ∀ member, Mutual classes name member → .entered member ∉ ({} : Search).steps := by simp
  rcases course.entrance start (fun _ _ none => absurd none.mem (by simp)) unentered with
    none | ⟨first, late, early, both, log, none, gate⟩
  · exact absurd ((course.settled start).logged name (.inl finished)) (none name (.refl _ _))
  · refine ⟨first, both, ⟨early.reverse, late.reverse, ?_, fun member mutual' => ?_⟩, gate⟩
    · rw [steps, log]
      simp
    · simpa using none member (both.trans mutual')

theorem Entrance.gate (entrance : Entrance classes name) (defined : name ∈ classes) : Gate classes resolved name := by
  obtain ⟨first, both, firstEntrance, gate⟩ := exists_entrance ran defined
  exact entrance_unique entrance firstEntrance both ▸ gate

/-- A class has all that a class which it reaches has if it has all that the entrances have by which the search comes
into groups on the way there. -/
theorem covers_of_entrances
    (entrances : ∀ first, Entrance classes first → Entangled classes first → Reaches classes name first →
      Reaches classes first other → Covers resolved name first)
    (reaches : Reaches classes name other) : Covers resolved name other := by
  induction reaches with
  | refl => exact .refl _ _
  | @tail middle last path edge ih =>
    have before := ih fun first entrance entangled reached onward =>
      entrances first entrance entangled reached (onward.tail edge)
    by_cases entangled : Entangled classes last
    · obtain ⟨first, both, entrance, gate⟩ := exists_entrance ran edge.1
      have reached : Reaches classes name first := (path.tail edge).trans both.1
      exact (entrances first entrance (entangled.of_mutual both) reached both.2).trans (gate.covers last both.symm)
    · rcases resolved_flows ran edge with covers | ⟨_, back⟩
      · exact before.trans covers
      · by_cases same : middle = last
        · exact same ▸ before
        · exact absurd ⟨middle, same, back, .single edge⟩ entangled

/-- A word that an entrance alone has as its own gets to another class only through one outside the entrance's
group. -/
theorem outside_of_holds (entrance : Entrance classes name) (defined : name ∈ classes)
    (owned : ∀ owner, OwnWord classes owner word → owner = name) (holds : Holds resolved other word) :
    other = name ∨ ∃ outside, Reaches classes other outside ∧ Includes classes outside name ∧
      ¬ Reaches classes name outside := by
  have gate := entrance.gate ran defined
  obtain ⟨_, final, course, rfl, _⟩ := resolveNouns_explores ran
  refine course.held_induction (P := fun other => other = name ∨ ∃ outside, Reaches classes other outside ∧
    Includes classes outside name ∧ ¬ Reaches classes name outside) (Settled.start classes)
    (fun _ none => absurd none.mem (by simp)) (fun owner _ own => .inl (owned owner own)) ?_ other holds
  rintro source included edge sourceHolds _ (rfl | ⟨outside, reaches, onward, apart⟩)
  · by_cases same : source = included
    · exact .inl same
    · refine .inr ⟨source, .refl, edge, fun back => ?_⟩
      exact gate.hidden source word ⟨back, .single edge⟩ same owned sourceHolds
  · exact .inr ⟨outside, .head edge reaches, onward, apart⟩

end Resolved

/-! ## Whole groups -/

/-- A set of defined classes, each of which takes in every other one, that lies in no larger such set. -/
structure IsGroup (classes : Table NounClass) (group : Set String) : Prop where
  inhabited : group.Nonempty
  defined : ∀ name ∈ group, name ∈ classes
  entangled : ∀ name ∈ group, ∀ other ∈ group, Mutual classes name other
  largest : ∀ larger : Set String, (∀ name ∈ larger, name ∈ classes) →
    (∀ name ∈ larger, ∀ other ∈ larger, Mutual classes name other) → group ⊆ larger → larger ⊆ group

variable {group : Set String}

/-- A group is all that is entangled with any one of its members. -/
theorem IsGroup.mem_of_mutual (isGroup : IsGroup classes group) (member : name ∈ group)
    (both : Mutual classes name other) : other ∈ group := by
  have defined := isGroup.defined name member
  refine isGroup.largest { found | Mutual classes name found } (fun found foundBoth => foundBoth.1.defined defined)
    (fun first firstBoth second secondBoth => ?_) (fun found foundMember => ?_) both
  · exact Mutual.trans (Mutual.symm firstBoth) secondBoth
  · exact isGroup.entangled name member found foundMember

/-- Every group of classes that take in one another has a member which holds all that any of them holds, and so all
words that any of them has for its own. It is the one by which the search has come into the group. -/
theorem group_has_complete_member (ran : (resolveNouns classes).outcome = .ok resolved)
    (isGroup : IsGroup classes group) :
    ∃ first ∈ group, Entrance classes first ∧ ∃ most, resolved[first]? = some most ∧
      (∀ name ∈ group, ∃ words, resolved[name]? = some words ∧ ∀ word ∈ words, word ∈ most) ∧
      ∀ name ∈ group, ∀ word, OwnWord classes name word → word ∈ most := by
  obtain ⟨name, member⟩ := isGroup.inhabited
  obtain ⟨first, both, entrance, gate⟩ := exists_entrance ran (isGroup.defined name member)
  have firstMember := isGroup.mem_of_mutual member both
  obtain ⟨most, firstEntry⟩ := entry_of_mem (gate.finished first (.refl _ _))
  have covered {other word : String} (otherMember : other ∈ group) (holds : Holds resolved other word) :
      word ∈ most :=
    (holds_of_entry firstEntry).1 (gate.covers other (isGroup.entangled _ firstMember _ otherMember) word holds)
  refine ⟨first, firstMember, entrance, most, firstEntry, fun other otherMember => ?_,
    fun other otherMember word own => ?_⟩
  · obtain ⟨words, entry⟩ := entry_of_mem (gate.finished other (isGroup.entangled _ firstMember _ otherMember))
    exact ⟨words, entry, fun word held => covered otherMember ((holds_of_entry entry).2 held)⟩
  · exact covered otherMember (resolved_holds_own ran own)

theorem pantry_flora_fruit : Mutual pantry "flora" "fruit" :=
  ⟨.single (by decide +kernel), .single (by decide +kernel)⟩

/-- The two classes that take in each other are a group. The third one takes them in, but not the other way round. -/
theorem pantry_group : IsGroup pantry {"flora", "fruit"} := by
  have inward : ∀ name ∈ ["flora", "fruit"], ∀ included ∈ pantry.keys, Includes pantry name included →
      included ∈ ["flora", "fruit"] := by decide +kernel
  have reached (other : String) (reaches : Reaches pantry "flora" other) : other ∈ ["flora", "fruit"] := by
    induction reaches with
    | refl => decide
    | tail _ edge ih => exact inward _ ih _ (Std.ExtTreeMap.mem_keys.2 edge.1) edge
  constructor
  · exact ⟨"flora", .inl rfl⟩
  · rintro name (rfl | rfl) <;> decide +kernel
  · rintro name (rfl | rfl) other (rfl | rfl)
    · exact .refl _ _
    · exact pantry_flora_fruit
    · exact pantry_flora_fruit.symm
    · exact .refl _ _
  · intro larger _ entangled within name member
    have found := reached name (entangled "flora" (within (.inl rfl)) name member).1
    simp only [List.mem_cons, List.not_mem_nil, or_false] at found
    exact found

/-- One of the two classes that take in each other has all words of both. -/
theorem pantry_group_member : ∃ resolved, (resolveNouns pantry).outcome = .ok resolved ∧
    IsGroup pantry {"flora", "fruit"} ∧ ∃ first, Holds resolved first "oak" ∧ Holds resolved first "apple" := by
  obtain ⟨resolved, ran⟩ := pantry_resolves
  obtain ⟨first, _, _, most, entry, _, owned⟩ := group_has_complete_member ran pantry_group
  refine ⟨resolved, ran, pantry_group, first, (holds_of_entry entry).2 ?_, (holds_of_entry entry).2 ?_⟩
  · exact owned "flora" (.inl rfl) "oak" (by decide +kernel)
  · exact owned "fruit" (.inr rfl) "apple" (by decide +kernel)

end Wordbook
