import Wordbook.Assembly
import Wordbook.Proofs.Noun.Exploration

/-! The check of countability. A class is checked against what it takes in when it is entered, and every class is
entered once, so the check misses no pair of classes; and nothing but a failed check stops the search or the
assembly built on it. -/
namespace Wordbook
open Search

/-- A class takes in another one and both say whether they can be counted, but not the same. -/
structure Opposed (classes : Table NounClass) (mismatch : CountabilityMismatch) : Prop where
  includes : Includes classes mismatch.cls mismatch.included
  own : flagOf classes mismatch.cls = some mismatch.countable
  theirs : flagOf classes mismatch.included = some mismatch.includedCountable
  differ : mismatch.countable ≠ mismatch.includedCountable

variable {classes : Table NounClass} {way asked : List String} {name included : String}
variable {words total : WordSet} {before after : Search} {mismatch : CountabilityMismatch}

private theorem mismatch_some {own theirs : Option Bool} (found : mismatch? name own included theirs = some mismatch) :
    mismatch.cls = name ∧ mismatch.included = included ∧ own = some mismatch.countable ∧
      theirs = some mismatch.includedCountable ∧ mismatch.countable ≠ mismatch.includedCountable := by
  unfold mismatch? at found
  split at found
  · split at found
    · cases found
    · cases found
      exact ⟨rfl, rfl, rfl, rfl, ‹_›⟩
  · cases found

/-- Gathering stops for a class and one that it refers to, or because following a reference did. -/
private theorem gather_opposed {follow : String → Search → Search × Except CountabilityMismatch WordSet}
    {cls : NounClass} (entry : classes[name]? = some cls)
    (below : ∀ included before after mismatch, follow included before = (after, .error mismatch) →
      Opposed classes mismatch)
    (references : List String) (referred : ∀ reference ∈ references, reference ∈ cls.includes)
    (ran : gather classes follow name cls.countable references words before = (after, .error mismatch)) :
    Opposed classes mismatch := by
  induction references generalizing words before with
  | nil => cases ran
  | cons reference rest ih =>
    obtain ⟨first, others⟩ := List.forall_mem_cons.1 referred
    simp only [gather] at ran
    split at ran
    · exact ih others ran
    · rename_i inner innerEntry
      split at ran
      · rename_i found
        cases ran
        obtain ⟨rfl, names, own, theirs, differ⟩ := mismatch_some found
        refine ⟨⟨names ▸ mem_of_entry innerEntry, cls, entry, reference, first, names.symm⟩, ?_, ?_, differ⟩
        · simpa [entry] using own
        · simpa [names, innerEntry] using theirs
      · split at ran
        · rename_i followed
          cases ran
          exact below _ _ _ _ followed
        · exact ih others ran

private theorem visit_opposed (ran : visit classes way name before = (after, .error mismatch)) :
    Opposed classes mismatch := by
  induction way, name, before using visit.induct classes generalizing after mismatch with
  | case1 way name before held finished =>
    rw [visit_of_finished finished] at ran
    cases ran
  | case2 way name before unfinished onWay =>
    rw [visit_of_mem_way unfinished onWay] at ran
    cases ran
  | case3 way name before unfinished fresh missing =>
    rw [visit_of_undefined unfinished fresh missing] at ran
    cases ran
  | case4 way name before unfinished fresh cls entry inner stopped gathered ih =>
    rw [visit_of_fresh unfinished fresh entry, gathered] at ran
    cases ran
    exact gather_opposed entry (fun _ _ _ _ failed => ih _ _ failed) _ (fun _ member => member) gathered
  | case5 way name before unfinished fresh cls entry inner held gathered ih =>
    rw [visit_of_fresh unfinished fresh entry, gathered] at ran
    cases ran

private theorem visitAll_opposed {names : List String} {listed : Table WordSet}
    (ran : visitAll classes names listed before = (after, .error mismatch)) : Opposed classes mismatch := by
  induction names generalizing listed before with
  | nil => cases ran
  | cons first rest ih =>
    rw [visitAll] at ran
    split at ran
    · rename_i visited
      cases ran
      exact visit_opposed visited
    · exact ih ran

/-- What a resolution fails with is a class and one that it takes in, with the flags that they declare. -/
theorem resolveNouns_error_opposed (failed : (resolveNouns classes).outcome = .error mismatch) :
    Opposed classes mismatch := by
  cases run : visitAll classes classes.keys ∅ {} with
  | mk final outcome =>
    simp only [resolveNouns, run] at failed
    subst failed
    exact visitAll_opposed run

/-- Along a course only such classes are finished as agree with everything that they take in. -/
theorem Explores.agrees (course : Explores classes way asked words before total after)
    (start : ∀ name ∈ before.finished, ∀ included, Includes classes name included → Agree classes name included) :
    ∀ name ∈ after.finished, ∀ included, Includes classes name included → Agree classes name included := by
  induction course with
  | done => exact start
  | undefined _ _ ih => exact ih start
  | known _ _ ih => exact ih start
  | cut _ _ _ ih => exact ih start
  | entered unfinished fresh entry agrees _ _ belowAgrees ih =>
    refine ih fun name finished included edge => ?_
    rcases (mem_finish ..).1 finished with rfl | finished
    · obtain ⟨reference, member, rfl⟩ := List.mem_map.1 ((includes_iff_of_entry entry).1 edge).2
      exact agrees reference member
    · exact belowAgrees start name finished included edge

/-- A resolution that succeeds has checked every pair of classes of which one takes in the other. -/
theorem resolveNouns_ok_agree {resolved : Table WordSet} (ran : (resolveNouns classes).outcome = .ok resolved)
    (edge : Includes classes name included) : Agree classes name included := by
  obtain ⟨total, final, course, _, _⟩ := resolveNouns_explores ran
  have listed : name ∈ classes.keys := Std.ExtTreeMap.mem_keys.2 edge.source_defined
  have finished : name ∈ final.finished :=
    (course.answered (Settled.start classes).apart listed edge.source_defined).resolve_right List.not_mem_nil
  exact course.agrees (fun _ none => absurd none (by simp)) name finished included edge

/-- Resolution fails exactly when some class takes in one of the opposite countability. -/
theorem resolveNouns_fails_iff (classes : Table NounClass) :
    (∃ mismatch, (resolveNouns classes).outcome = .error mismatch) ↔ ∃ mismatch, Opposed classes mismatch := by
  refine ⟨fun ⟨mismatch, failed⟩ => ⟨mismatch, resolveNouns_error_opposed failed⟩, ?_⟩
  rintro ⟨mismatch, opposed⟩
  cases outcome : (resolveNouns classes).outcome with
  | error stopped => exact ⟨stopped, rfl⟩
  | ok resolved =>
    exact absurd (resolveNouns_ok_agree outcome opposed.includes _ _ opposed.own opposed.theirs) opposed.differ

/-- The check of countability is exact. Resolution and assembly fail exactly when some class takes in one of the
opposite countability, whatever else there is to assemble; and the mismatch that they fail with is such a pair of
classes with the flags that the two declare. -/
theorem countability_check_exact (classes : Table NounClass) :
    ((∃ mismatch, (resolveNouns classes).outcome = .error mismatch) ↔ ∃ mismatch, Opposed classes mismatch) ∧
    (∀ mismatch, (resolveNouns classes).outcome = .error mismatch → Opposed classes mismatch) ∧
    ∀ sources : Sources, sources.nouns = classes →
      ((∃ failure, (assemble sources).result = .error failure) ↔ ∃ mismatch, Opposed classes mismatch) ∧
      ∀ failure, (assemble sources).result = .error failure →
        ∃ mismatch, failure = .countability mismatch ∧ Opposed classes mismatch := by
  refine ⟨resolveNouns_fails_iff classes, fun _ => resolveNouns_error_opposed, ?_⟩
  rintro sources rfl
  rw [← resolveNouns_fails_iff]
  cases outcome : (resolveNouns sources.nouns).outcome with
  | error mismatch =>
    have opposed := resolveNouns_error_opposed outcome
    simp only [result_assemble_of_error outcome]
    refine ⟨⟨fun _ => ⟨_, rfl⟩, fun _ => ⟨_, rfl⟩⟩, ?_⟩
    rintro failure ⟨⟩
    exact ⟨mismatch, rfl, opposed⟩
  | ok resolved =>
    simp only [result_assemble_of_ok outcome, reduceCtorEq, exists_false, false_implies, implies_true, and_self]

end Wordbook
