import Wordbook.Proofs.Noun.Inclusion

/-! The course of a search through the noun classes that meets no mismatch, told without the recursion that
carries it out: the classes that are asked for one after another, and for each whether it was undefined, finished
before, on the way, or entered. What holds of every such course is proved by one induction over its steps, and
`resolveNouns` follows one course from the first class to the last. -/
namespace Wordbook
open Search

/-- Two classes do not say the opposite of each other on whether they can be counted. -/
def Agree (classes : Table NounClass) (name other : String) : Prop :=
  ∀ own theirs, flagOf classes name = some own → flagOf classes other = some theirs → own = theirs

/-- A course of the search. The classes of `way` are entered and not yet finished, the latest first; the classes
`asked` are asked for in turn, and the words gathered grow from `words` to `total` meanwhile. A class is entered
only if it agrees with everything it refers to. -/
inductive Explores (classes : Table NounClass) :
    List String → List String → WordSet → Search → WordSet → Search → Prop where
  | done {way : List String} {words : WordSet} {search : Search} :
      Explores classes way [] words search words search
  | undefined {owner name : String} {way asked : List String} {words total : WordSet} {before after : Search}
      (undefined : name ∉ classes)
      (rest : Explores classes (owner :: way) asked words (before.note (.undefinedInclusion owner name)) total after) :
      Explores classes (owner :: way) (name :: asked) words before total after
  | known {name : String} {way asked : List String} {words more total : WordSet} {before after : Search}
      (finished : before.finished[name]? = some more)
      (rest : Explores classes way asked (words ∪ more) before total after) :
      Explores classes way (name :: asked) words before total after
  | cut {name : String} {way asked : List String} {words total : WordSet} {before after : Search}
      (unfinished : name ∉ before.finished) (onWay : name ∈ way)
      (rest : Explores classes way asked words (before.note (.cycleCut name)) total after) :
      Explores classes way (name :: asked) words before total after
  | entered {name : String} {way asked : List String} {words more total : WordSet} {before inner after : Search}
      {cls : NounClass} (unfinished : name ∉ before.finished) (fresh : name ∉ way)
      (entry : classes[name]? = some cls)
      (agrees : ∀ reference ∈ cls.includes, Agree classes name (className reference))
      (below : Explores classes (name :: way) (cls.includes.map className) cls.words (before.note (.entered name))
        more inner)
      (rest : Explores classes way asked (words ∪ more) (inner.finish name more) total after) :
      Explores classes way (name :: asked) words before total after

variable {classes : Table NounClass} {way asked : List String} {name word : String}
variable {words more total : WordSet} {before after search : Search}

/-! ## The search follows a course -/

/-- Asking for a defined class with success is one step of a course, whatever is asked for next. -/
def Follows (classes : Table NounClass) (way : List String)
    (follow : String → Search → Search × Except CountabilityMismatch WordSet) : Prop :=
  ∀ name before after more, name ∈ classes → follow name before = (after, .ok more) →
    ∀ asked words total final, Explores classes way asked (words ∪ more) after total final →
      Explores classes way (name :: asked) words before total final

theorem mismatch_none_iff {name included : String} {own theirs : Option Bool} :
    mismatch? name own included theirs = none ↔ ∀ x y, own = some x → theirs = some y → x = y := by
  cases own <;> cases theirs <;> simp [mismatch?]

/-- Gathering with success follows a course through all references of the class, and the class agrees with
each of them. -/
theorem gather_explores {follow : String → Search → Search × Except CountabilityMismatch WordSet}
    (follows : Follows classes (name :: way) follow) (references : List String)
    (ran : gather classes follow name (flagOf classes name) references words before = (after, .ok total)) :
    Explores classes (name :: way) (references.map className) words before total after ∧
      ∀ reference ∈ references, Agree classes name (className reference) := by
  induction references generalizing words before with
  | nil =>
    cases ran
    exact ⟨.done, by simp⟩
  | cons reference rest ih =>
    simp only [gather] at ran
    split at ran
    · rename_i missing
      obtain ⟨course, agree⟩ := ih ran
      refine ⟨.undefined (by simpa using missing) course, ?_⟩
      rw [List.forall_mem_cons]
      exact ⟨fun _ _ _ theirs => by simp [flagOf, missing] at theirs, agree⟩
    · rename_i cls entry
      split at ran
      · cases ran
      · rename_i noMismatch
        split at ran
        · cases ran
        · rename_i middle more followed
          obtain ⟨course, agree⟩ := ih ran
          refine ⟨follows _ _ _ _ (mem_of_entry entry) followed _ _ _ _ course, ?_⟩
          rw [List.forall_mem_cons]
          refine ⟨fun own theirs ownSays theirSays => ?_, agree⟩
          exact mismatch_none_iff.1 noMismatch own theirs ownSays (by simpa [entry] using theirSays)

/-- Visiting a defined class with success is one step of a course. -/
theorem visit_follows (classes : Table NounClass) (way : List String) :
    Follows classes way (visit classes way) := by
  intro name before
  induction way, name, before using visit.induct classes with
  | case1 way name before held finished =>
    intro after more _ ran asked words total final rest
    rw [visit_of_finished finished] at ran
    cases ran
    exact .known finished rest
  | case2 way name before unfinished onWay =>
    intro after more _ ran asked words total final rest
    rw [visit_of_mem_way unfinished onWay] at ran
    cases ran
    have nothing : words ∪ (∅ : WordSet) = words := union_eq_left (by simp)
    exact .cut (by simpa using unfinished) onWay (nothing ▸ rest)
  | case3 way name before unfinished fresh missing =>
    intro after more defined
    exact absurd defined (by simpa using missing)
  | case4 way name before unfinished fresh cls entry inner mismatch gathered =>
    intro after more _ ran
    rw [visit_of_fresh unfinished fresh entry, gathered] at ran
    cases ran
  | case5 way name before unfinished fresh cls entry inner held gathered ih =>
    intro after more _ ran asked words total final rest
    rw [visit_of_fresh unfinished fresh entry, gathered] at ran
    cases ran
    rw [← flagOf_of_entry entry] at gathered
    obtain ⟨below, agrees⟩ := gather_explores ih _ gathered
    exact .entered (by simpa using unfinished) fresh entry agrees below rest

/-! ## What every course keeps -/

/-- No class on the way is finished. -/
def Apart (way : List String) (search : Search) : Prop := ∀ other ∈ way, other ∉ search.finished

theorem Apart.enter (apart : Apart way before) (unfinished : name ∉ before.finished) (step : SearchStep) :
    Apart (name :: way) (before.note step) := by
  intro other member
  rcases List.mem_cons.1 member with rfl | member
  · exact unfinished
  · exact apart other member

theorem Apart.finish (apart : Apart (name :: way) search) (fresh : name ∉ way) (words : WordSet) :
    Apart way (search.finish name words) := by
  intro other member
  have different : name ≠ other := fun same => fresh (same ▸ member)
  simpa [different] using apart other (List.mem_cons_of_mem _ member)

/-- A class on the way stays unfinished until the search comes back to it. -/
theorem Explores.apart (course : Explores classes way asked words before total after)
    (start : Apart way before) : Apart way after := by
  induction course with
  | done => exact start
  | undefined _ _ ih => exact ih start
  | known _ _ ih => exact ih start
  | cut _ _ _ ih => exact ih start
  | entered unfinished fresh _ _ _ _ belowApart ih =>
    exact ih ((belowApart (start.enter unfinished _)).finish fresh _)

/-- What a finished class holds is never changed. -/
theorem Explores.kept (course : Explores classes way asked words before total after) (start : Apart way before)
    (held : before.finished[name]? = some more) : after.finished[name]? = some more := by
  induction course with
  | done => exact held
  | undefined _ _ ih => exact ih start held
  | known _ _ ih => exact ih start held
  | cut _ _ _ ih => exact ih start held
  | @entered entered _ _ _ _ _ _ _ _ _ unfinished fresh _ _ below _ belowKept ih =>
    have enter := start.enter unfinished (.entered entered)
    have different : entered ≠ name := fun same => unfinished (same ▸ mem_of_entry held)
    exact ih ((below.apart enter).finish fresh _) (by simpa [different] using belowKept enter held)

theorem Explores.stays_finished (course : Explores classes way asked words before total after)
    (start : Apart way before) (finished : name ∈ before.finished) : name ∈ after.finished := by
  obtain ⟨held, entry⟩ := entry_of_mem finished
  exact mem_of_entry (course.kept start entry)

/-- Every defined class that was asked for is finished afterwards, unless it is on the way itself. -/
theorem Explores.answered (course : Explores classes way asked words before total after) (start : Apart way before)
    (member : name ∈ asked) (defined : name ∈ classes) : name ∈ after.finished ∨ name ∈ way := by
  induction course with
  | done => cases member
  | undefined undefined _ ih =>
    rcases List.mem_cons.1 member with rfl | member
    · exact absurd defined undefined
    · exact ih start member
  | known finished rest ih =>
    rcases List.mem_cons.1 member with rfl | member
    · exact .inl (rest.stays_finished start (mem_of_entry finished))
    · exact ih start member
  | cut _ onWay _ ih =>
    rcases List.mem_cons.1 member with rfl | member
    · exact .inr onWay
    · exact ih start member
  | @entered _ _ _ _ gathered _ _ _ _ _ unfinished fresh _ _ below rest _ ih =>
    have finish := (below.apart (start.enter unfinished _)).finish fresh gathered
    rcases List.mem_cons.1 member with rfl | member
    · exact .inl (rest.stays_finished finish (by simp))
    · exact ih finish member

/-- The state of the search between two steps: the finished classes are defined, none of them is on the way, what
they take in is finished or on the way, and no class has become either without being entered. -/
structure Settled (classes : Table NounClass) (way : List String) (search : Search) : Prop where
  defined : ∀ name ∈ search.finished, name ∈ classes
  apart : Apart way search
  closed : ∀ name included, name ∈ search.finished → Includes classes name included →
    included ∈ search.finished ∨ included ∈ way
  logged : ∀ name, name ∈ search.finished ∨ name ∈ way → .entered name ∈ search.steps

theorem Settled.start (classes : Table NounClass) : Settled classes [] {} := by
  constructor <;> simp [Apart]

theorem Settled.note (settled : Settled classes way search) (step : SearchStep) :
    Settled classes way (search.note step) where
  defined := settled.defined
  apart := settled.apart
  closed := settled.closed
  logged name met := List.mem_cons_of_mem _ (settled.logged name met)

theorem Settled.enter (settled : Settled classes way search) (unfinished : name ∉ search.finished) :
    Settled classes (name :: way) (search.note (.entered name)) where
  defined := settled.defined
  apart := settled.apart.enter unfinished _
  closed other included finished edge :=
    (settled.closed other included finished edge).imp id (List.mem_cons_of_mem _)
  logged other met := by
    by_cases same : other = name
    · subst same
      exact List.mem_cons_self
    · refine List.mem_cons_of_mem _ (settled.logged other (met.imp id fun onWay => ?_))
      exact (List.mem_cons.1 onWay).resolve_left same

/-- The class last entered may be finished once everything that it takes in is finished or on the way. -/
theorem Settled.finish (settled : Settled classes (name :: way) search) (fresh : name ∉ way)
    (defined : name ∈ classes)
    (answered : ∀ included, Includes classes name included → included ∈ search.finished ∨ included ∈ name :: way)
    (words : WordSet) : Settled classes way (search.finish name words) where
  defined other finished := by
    rcases (mem_finish ..).1 finished with rfl | finished
    · exact defined
    · exact settled.defined other finished
  apart := settled.apart.finish fresh words
  closed other included finished edge := by
    have reached : included ∈ search.finished ∨ included ∈ name :: way := by
      rcases (mem_finish ..).1 finished with rfl | finished
      · exact answered included edge
      · exact settled.closed other included finished edge
    rcases reached with finished | onWay
    · exact .inl (by simp [finished])
    · rcases List.mem_cons.1 onWay with rfl | onWay
      · exact .inl (by simp)
      · exact .inr onWay
  logged other met := by
    refine settled.logged other ?_
    rcases met with finished | onWay
    · rcases (mem_finish ..).1 finished with rfl | finished
      · exact .inr List.mem_cons_self
      · exact .inl finished
    · exact .inr (List.mem_cons_of_mem _ onWay)

/-- Everything that an entered class takes in is asked for below it. -/
theorem Explores.included_answered {cls : NounClass} (entry : classes[name]? = some cls)
    (below : Explores classes (name :: way) (cls.includes.map className) words before total after)
    (start : Apart (name :: way) before) :
    ∀ included, Includes classes name included → included ∈ after.finished ∨ included ∈ name :: way := by
  intro included edge
  obtain ⟨defined, member⟩ := (includes_iff_of_entry entry).1 edge
  exact below.answered start member defined

/-- A course leads from a settled state to a settled state. -/
theorem Explores.settled (course : Explores classes way asked words before total after)
    (start : Settled classes way before) : Settled classes way after := by
  induction course with
  | done => exact start
  | undefined _ _ ih => exact ih (start.note _)
  | known _ _ ih => exact ih start
  | cut _ _ _ ih => exact ih (start.note _)
  | entered unfinished fresh entry _ below _ belowSettled ih =>
    have enter := start.enter unfinished
    exact ih ((belowSettled enter).finish fresh (mem_of_entry entry)
      (below.included_answered entry enter.apart) _)

/-- Finishing an entered class after the course below it leads back to a settled state. -/
theorem Explores.settled_finish {cls : NounClass} (start : Settled classes way before)
    (unfinished : name ∉ before.finished) (fresh : name ∉ way) (entry : classes[name]? = some cls)
    (below : Explores classes (name :: way) (cls.includes.map className) words (before.note (.entered name))
      total after) :
    Settled classes way (after.finish name total) := by
  have enter := start.enter unfinished
  exact (below.settled enter).finish fresh (mem_of_entry entry) (below.included_answered entry enter.apart) total

/-- A course through two lists of classes is one through the first and then one through the second. -/
theorem Explores.split {first second : List String}
    (course : Explores classes way (first ++ second) words before total after) :
    ∃ between middle, Explores classes way first words before between middle ∧
      Explores classes way second between middle total after := by
  induction first generalizing words before with
  | nil => exact ⟨_, _, .done, course⟩
  | cons name first ih =>
    rw [List.cons_append] at course
    cases course with
    | undefined undefined rest =>
      obtain ⟨_, _, front, back⟩ := ih rest
      exact ⟨_, _, .undefined undefined front, back⟩
    | known finished rest =>
      obtain ⟨_, _, front, back⟩ := ih rest
      exact ⟨_, _, .known finished front, back⟩
    | cut unfinished onWay rest =>
      obtain ⟨_, _, front, back⟩ := ih rest
      exact ⟨_, _, .cut unfinished onWay front, back⟩
    | entered unfinished fresh entry agrees below rest =>
      obtain ⟨_, _, front, back⟩ := ih rest
      exact ⟨_, _, .entered unfinished fresh entry agrees below front, back⟩

/-! ## The whole resolution -/

/-- A visit gives back the words that the class is finished with, or nothing, if the class is on the way. -/
theorem visit_result {found : WordSet} (defined : name ∈ classes)
    (ran : visit classes way name before = (after, .ok found)) :
    after.finished[name]? = some found ∨ (name ∈ way ∧ found = ∅) := by
  cases finished : before.finished[name]? with
  | some held =>
    rw [visit_of_finished finished] at ran
    cases ran
    exact .inl finished
  | none =>
    by_cases onWay : name ∈ way
    · rw [visit_of_mem_way finished onWay] at ran
      cases ran
      exact .inr ⟨onWay, rfl⟩
    · obtain ⟨cls, entry⟩ := entry_of_mem defined
      rw [visit_of_fresh finished onWay entry] at ran
      split at ran
      · cases ran
      · cases ran
        exact .inl (by rw [getElem?_finish, if_pos rfl])

/-- A visit that succeeds is a course by itself. -/
theorem visit_explores {found : WordSet} (defined : name ∈ classes)
    (ran : visit classes way name before = (after, .ok found)) :
    Explores classes way [name] ∅ before (∅ ∪ found) after :=
  visit_follows classes way name before after found defined ran _ _ _ _ .done

/-- Visiting defined classes in turn with success follows a course from a settled state, and the words listed for
each are those that it holds at the end. -/
theorem visitAll_explores {names : List String} {listed resolved : Table WordSet}
    (defined : ∀ name ∈ names, name ∈ classes) (start : Settled classes [] before)
    (ran : visitAll classes names listed before = (after, .ok resolved)) (words : WordSet) :
    ∃ total, Explores classes [] names words before total after ∧
      ∀ name, resolved[name]? = if name ∈ names then after.finished[name]? else listed[name]? := by
  induction names generalizing listed words before with
  | nil =>
    cases ran
    exact ⟨words, .done, by simp⟩
  | cons first rest ih =>
    rw [visitAll] at ran
    split at ran
    · cases ran
    · rename_i middle found visited
      obtain ⟨firstDefined, restDefined⟩ := List.forall_mem_cons.1 defined
      have step := visit_follows classes [] first before middle found firstDefined visited
      have middleSettled := (visit_explores firstDefined visited).settled start
      have firstFinished := (visit_result firstDefined visited).resolve_right fun cut => List.not_mem_nil cut.1
      obtain ⟨total, course, results⟩ := ih restDefined middleSettled ran (words ∪ found)
      refine ⟨total, step _ _ _ _ course, fun name => ?_⟩
      rw [results name, Std.ExtTreeMap.getElem?_insert]
      by_cases inRest : name ∈ rest
      · simp [inRest]
      · by_cases same : first = name
        · subst same
          have finished := course.kept middleSettled.apart firstFinished
          simp [inRest, finished]
        · simp [inRest, same, Ne.symm same]

/-- A resolution that succeeds is a run of visits from the empty state to one in which exactly the resolved classes are
finished. -/
theorem resolveNouns_visitAll {resolved : Table WordSet} (ran : (resolveNouns classes).outcome = .ok resolved) :
    ∃ final, visitAll classes classes.keys ∅ {} = (final, .ok resolved) ∧ final.finished = resolved ∧
      (resolveNouns classes).steps = final.steps.reverse := by
  cases run : visitAll classes classes.keys ∅ {} with
  | mk final outcome =>
    simp only [resolveNouns, run] at ran ⊢
    subst ran
    obtain ⟨_, course, results⟩ :=
      visitAll_explores (fun _ => Std.ExtTreeMap.mem_keys.1) (Settled.start classes) run ∅
    refine ⟨final, rfl, Std.ExtTreeMap.ext_getElem? fun name => ?_, rfl⟩
    rw [results name]
    by_cases defined : name ∈ classes
    · simp [defined]
    · have unfinished : name ∉ final.finished := fun finished =>
        defined ((course.settled (Settled.start classes)).defined name finished)
      simp [defined, Std.ExtTreeMap.getElem?_eq_none unfinished]

/-- A resolution that succeeds follows a course through all classes in ascending order, from the empty state to
one in which exactly the resolved classes are finished. -/
theorem resolveNouns_explores {resolved : Table WordSet} (ran : (resolveNouns classes).outcome = .ok resolved) :
    ∃ total final, Explores classes [] classes.keys ∅ {} total final ∧ final.finished = resolved ∧
      (resolveNouns classes).steps = final.steps.reverse := by
  obtain ⟨final, run, finished, steps⟩ := resolveNouns_visitAll ran
  obtain ⟨total, course, _⟩ := visitAll_explores (fun _ => Std.ExtTreeMap.mem_keys.1) (Settled.start classes) run ∅
  exact ⟨total, final, course, finished, steps⟩

end Wordbook
