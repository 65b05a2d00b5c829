import Wordbook.Proofs.Noun.Exploration

/-! What the search gathers, against the inclusion graph. A resolved class holds its own words and nothing that it
does not reach. It holds everything that it reaches unless a class that comes earlier in the order of names has led
the search into a group of entangled classes that it reaches too: only there can the search have been cut. -/
namespace Wordbook
open Search

variable {classes : Table NounClass} {way asked : List String} {name other included word : String}
variable {words more total : WordSet} {before after search : Search} {table resolved : Table WordSet}

theorem holds_finish_self : Holds (search.finish name words).finished name word ↔ word ∈ words :=
  holds_of_entry (by rw [getElem?_finish, if_pos rfl])

theorem holds_finish_ne (different : name ≠ other) :
    Holds (search.finish name words).finished other word ↔ Holds search.finished other word := by
  simp [Holds, different]

/-- A course leaves what a finished class holds as it is. -/
theorem Explores.holds_iff (course : Explores classes way asked words before total after) (start : Apart way before)
    (finished : name ∈ before.finished) : Holds after.finished name word ↔ Holds before.finished name word := by
  obtain ⟨held, entry⟩ := entry_of_mem finished
  rw [holds_of_entry entry, holds_of_entry (course.kept start entry)]

theorem Explores.covers_iff (course : Explores classes way asked words before total after) (start : Apart way before)
    (finished : name ∈ before.finished) (otherFinished : other ∈ before.finished) :
    Covers after.finished name other ↔ Covers before.finished name other := by
  simp only [Covers, course.holds_iff start finished, course.holds_iff start otherFinished]

/-! ## What one course gathers -/

theorem Explores.grows (course : Explores classes way asked words before total after) (member : word ∈ words) :
    word ∈ total := by
  induction course with
  | done => exact member
  | undefined _ _ ih => exact ih member
  | known _ _ ih => exact ih (Std.ExtTreeSet.mem_union_iff.2 (.inl member))
  | cut _ _ _ ih => exact ih member
  | entered _ _ _ _ _ _ _ ih => exact ih (Std.ExtTreeSet.mem_union_iff.2 (.inl member))

/-- A course gathers all words of each finished class that was asked for or became finished on it. -/
theorem Explores.gathers (course : Explores classes way asked words before total after)
    (start : Settled classes way before) (met : name ∈ asked ∨ name ∉ before.finished)
    (holds : Holds after.finished name word) : word ∈ total := by
  induction course with
  | done =>
    rcases met with asked | new
    · cases asked
    · exact absurd holds.mem new
  | undefined undefined rest ih =>
    refine ih (start.note _) (met.imp (fun asked => ?_) id) holds
    rcases List.mem_cons.1 asked with rfl | asked
    · exact absurd ((rest.settled (start.note _)).defined _ holds.mem) undefined
    · exact asked
  | @known first _ _ _ _ _ _ _ finished rest ih =>
    by_cases same : first = name
    · subst same
      rw [holds_of_entry (rest.kept start.apart finished)] at holds
      exact rest.grows (Std.ExtTreeSet.mem_union_iff.2 (.inr holds))
    · exact ih start (met.imp (fun asked => (List.mem_cons.1 asked).resolve_left (Ne.symm same)) id) holds
  | cut unfinished onWay rest ih =>
    refine ih (start.note _) (met.imp (fun asked => ?_) id) holds
    rcases List.mem_cons.1 asked with rfl | asked
    · exact absurd holds.mem ((rest.settled (start.note _)).apart _ onWay)
    · exact asked
  | @entered first _ _ _ _ _ _ inner _ _ unfinished fresh entry _ below rest belowGathers ih =>
    have enter := start.enter unfinished
    have finish := below.settled_finish start unfinished fresh entry
    by_cases same : first = name
    · subst same
      rw [rest.holds_iff finish.apart (by simp), holds_finish_self] at holds
      exact rest.grows (Std.ExtTreeSet.mem_union_iff.2 (.inr holds))
    · rcases met with asked | new
      · exact ih finish (.inl ((List.mem_cons.1 asked).resolve_left (Ne.symm same))) holds
      · by_cases inside : name ∈ inner.finished
        · rw [rest.holds_iff finish.apart (by simp [inside]), holds_finish_ne same] at holds
          exact rest.grows (Std.ExtTreeSet.mem_union_iff.2 (.inr (belowGathers enter (.inr new) holds)))
        · exact ih finish (.inr (by simp [same, inside])) holds

/-- A class that became finished on a course is reached from one that was asked for. -/
theorem Explores.introduced (course : Explores classes way asked words before total after)
    (start : Settled classes way before) (finished : name ∈ after.finished) (new : name ∉ before.finished) :
    ∃ first ∈ asked, Reaches classes first name := by
  induction course with
  | done => exact absurd finished new
  | undefined _ _ ih =>
    obtain ⟨first, member, reaches⟩ := ih (start.note _) finished new
    exact ⟨first, List.mem_cons_of_mem _ member, reaches⟩
  | known _ _ ih =>
    obtain ⟨first, member, reaches⟩ := ih start finished new
    exact ⟨first, List.mem_cons_of_mem _ member, reaches⟩
  | cut _ _ _ ih =>
    obtain ⟨first, member, reaches⟩ := ih (start.note _) finished new
    exact ⟨first, List.mem_cons_of_mem _ member, reaches⟩
  | @entered entered _ _ _ gathered _ _ inner _ _ unfinished fresh entry _ below _ belowIntroduced ih =>
    have enter := start.enter unfinished
    by_cases inside : name ∈ (inner.finish entered gathered).finished
    · refine ⟨entered, List.mem_cons_self, ?_⟩
      rcases (mem_finish ..).1 inside with rfl | inside
      · exact .refl
      · obtain ⟨first, member, reaches⟩ := belowIntroduced enter inside new
        have firstDefined := reaches.source_defined ((below.settled enter).defined name inside)
        exact .head ((includes_iff_of_entry entry).2 ⟨firstDefined, member⟩) reaches
    · obtain ⟨first, member, reaches⟩ := ih (below.settled_finish start unfinished fresh entry) finished inside
      exact ⟨first, List.mem_cons_of_mem _ member, reaches⟩

/-! ## What finished classes hold -/

/-- Every finished class holds its own words. -/
theorem Explores.holds_own (course : Explores classes way asked words before total after)
    (start : ∀ name ∈ before.finished, ∀ word, OwnWord classes name word → Holds before.finished name word) :
    ∀ name ∈ after.finished, ∀ word, OwnWord classes name word → Holds after.finished name word := by
  induction course with
  | done => exact start
  | undefined _ _ ih => exact ih start
  | known _ _ ih => exact ih start
  | cut _ _ _ ih => exact ih start
  | @entered entered _ _ _ _ _ _ _ _ _ _ _ entry _ below _ belowOwn ih =>
    refine ih fun name finished word own => ?_
    by_cases same : entered = name
    · subst same
      obtain ⟨cls, found, member⟩ := own
      cases entry.symm.trans found
      exact holds_finish_self.2 (below.grows member)
    · have inside := ((mem_finish ..).1 finished).resolve_left same
      exact (holds_finish_ne same).2 (belowOwn start name inside word own)

/-- A word that a course gathers was there before or is held by a class that was asked for. -/
theorem Explores.origin (course : Explores classes way asked words before total after) (start : Apart way before)
    (member : word ∈ total) : word ∈ words ∨ ∃ first ∈ asked, Holds after.finished first word := by
  induction course with
  | done => exact .inl member
  | undefined _ _ ih => exact (ih start member).imp id (by simp +contextual)
  | cut _ _ _ ih => exact (ih start member).imp id (by simp +contextual)
  | @known name _ _ _ _ _ _ _ finished rest ih =>
    rcases ih start member with member | ⟨first, asked, holds⟩
    · refine (Std.ExtTreeSet.mem_union_iff.1 member).imp id fun member => ⟨name, List.mem_cons_self, ?_⟩
      exact (holds_of_entry (rest.kept start finished)).2 member
    · exact .inr ⟨first, List.mem_cons_of_mem _ asked, holds⟩
  | @entered name _ _ _ more _ _ _ _ _ unfinished fresh _ _ below rest _ ih =>
    have finish := (below.apart (start.enter unfinished _)).finish fresh more
    rcases ih finish member with member | ⟨first, asked, holds⟩
    · refine (Std.ExtTreeSet.mem_union_iff.1 member).imp id fun member => ⟨name, List.mem_cons_self, ?_⟩
      exact (rest.holds_iff finish (by simp)).2 (holds_finish_self.2 member)
    · exact .inr ⟨first, List.mem_cons_of_mem _ asked, holds⟩

/-- Every held word has come from inclusion to inclusion from a class whose own it is, so what is true there and is
handed on by an inclusion is true wherever the word is held. -/
theorem Explores.held_induction {P : String → Prop}
    (course : Explores classes way asked words before total after) (start : Settled classes way before)
    (known : ∀ name, Holds before.finished name word → P name)
    (own : ∀ name ∈ after.finished, OwnWord classes name word → P name)
    (handed : ∀ name included, Includes classes name included → Holds after.finished name word →
      Holds after.finished included word → P included → P name) :
    ∀ name, Holds after.finished name word → P name := by
  induction course with
  | done => exact known
  | undefined _ _ ih => exact ih (start.note _) known own handed
  | known _ _ ih => exact ih start known own handed
  | cut _ _ _ ih => exact ih (start.note _) known own handed
  | @entered entered _ _ _ more _ _ inner _ _ unfinished fresh entry _ below rest belowInduction ih =>
    have enter := start.enter unfinished
    have settled := below.settled enter
    have finish := below.settled_finish start unfinished fresh entry
    have apart : entered ∉ inner.finished := settled.apart _ List.mem_cons_self
    have inward : ∀ name, Holds inner.finished name word → Holds (inner.finish entered more).finished name word :=
      fun name holds => (holds_finish_ne (by rintro rfl; exact apart holds.mem)).2 holds
    have onward : ∀ name, Holds (inner.finish entered more).finished name word → Holds _ name word :=
      fun name holds => (rest.holds_iff finish.apart holds.mem).2 holds
    have inside := belowInduction enter known
      (fun name finished => own name (rest.stays_finished finish.apart (by simp [finished])))
      (fun name included edge holds includedHolds =>
        handed name included edge (onward _ (inward _ holds)) (onward _ (inward _ includedHolds)))
    refine ih finish (fun name holds => ?_) own handed
    by_cases same : entered = name
    · subst same
      rcases below.origin enter.apart (holds_finish_self.1 holds) with member | ⟨child, asked, childHolds⟩
      · exact own _ (rest.stays_finished finish.apart (by simp)) ⟨_, entry, member⟩
      · have edge := (includes_iff_of_entry entry).2 ⟨settled.defined child childHolds.mem, asked⟩
        exact handed _ child edge (onward _ holds) (onward _ (inward _ childHolds)) (inside child childHolds)
    · exact inside name ((holds_finish_ne same).1 holds)

/-- Every held word is an own word of a finished class that the holding class reaches. -/
def Sourced (classes : Table NounClass) (search : Search) : Prop :=
  ∀ name word, Holds search.finished name word →
    ∃ source ∈ search.finished, Reaches classes name source ∧ OwnWord classes source word

theorem Explores.sourced (course : Explores classes way asked words before total after)
    (start : Settled classes way before) (sourced : Sourced classes before) : Sourced classes after := by
  intro name word
  refine course.held_induction (P := fun name =>
    ∃ source ∈ after.finished, Reaches classes name source ∧ OwnWord classes source word) start ?_ ?_ ?_ name
  · intro name holds
    obtain ⟨source, finished, reaches, own⟩ := sourced name word holds
    exact ⟨source, course.stays_finished start.apart finished, reaches, own⟩
  · exact fun name finished own => ⟨name, finished, .refl, own⟩
  · rintro name included edge _ _ ⟨source, finished, reaches, own⟩
    exact ⟨source, finished, .head edge reaches, own⟩

/-- Between two finished classes of which one takes in the other, words have gone from the one finished first to the
other. Where that is not from the included class to the including one, the two are entangled or the same. -/
def Flows (classes : Table NounClass) (search : Search) : Prop :=
  ∀ name included, Includes classes name included → name ∈ search.finished → included ∈ search.finished →
    Covers search.finished name included ∨
      (Covers search.finished included name ∧ Reaches classes included name)

/-- A class that is finished after the course below it has words flow to it from all that was finished there. -/
private theorem flows_finish {cls : NounClass} (start : Settled classes way before)
    (unfinished : name ∉ before.finished) (fresh : name ∉ way) (entry : classes[name]? = some cls)
    (below : Explores classes (name :: way) (cls.includes.map className) words (before.note (.entered name)) more after)
    (flows : Flows classes after) : Flows classes (after.finish name more) := by
  intro first second edge firstFinished secondFinished
  have enter := start.enter unfinished
  have settled := below.settled enter
  by_cases firstSame : name = first
  · subst firstSame
    by_cases secondSame : name = second
    · subst secondSame
      exact .inl (.refl _ _)
    · refine .inl fun word holds => holds_finish_self.2 ?_
      have asked := ((includes_iff_of_entry entry).1 edge).2
      exact below.gathers enter (.inl asked) ((holds_finish_ne secondSame).1 holds)
  · have firstInside := ((mem_finish ..).1 firstFinished).resolve_left firstSame
    by_cases secondSame : name = second
    · subst secondSame
      -- Had the first class been finished before, the second would have been finished or on the way then.
      have new : first ∉ before.finished := fun finished =>
        (start.closed first name finished edge).elim unfinished fresh
      refine .inr ⟨fun word holds => holds_finish_self.2 ?_, ?_⟩
      · exact below.gathers enter (.inr new) ((holds_finish_ne firstSame).1 holds)
      · obtain ⟨child, asked, reaches⟩ := below.introduced enter firstInside new
        have childDefined := reaches.source_defined (settled.defined first firstInside)
        exact .head ((includes_iff_of_entry entry).2 ⟨childDefined, asked⟩) reaches
    · have secondInside := ((mem_finish ..).1 secondFinished).resolve_left secondSame
      have inside := flows first second edge firstInside secondInside
      simpa only [Covers, holds_finish_ne firstSame, holds_finish_ne secondSame] using inside

theorem Explores.flows (course : Explores classes way asked words before total after)
    (start : Settled classes way before) (flows : Flows classes before) : Flows classes after := by
  induction course with
  | done => exact flows
  | undefined _ _ ih => exact ih (start.note _) flows
  | known _ _ ih => exact ih start flows
  | cut _ _ _ ih => exact ih (start.note _) flows
  | @entered entered _ _ _ _ _ _ _ _ _ unfinished fresh entry _ below _ belowFlows ih =>
    refine ih (below.settled_finish start unfinished fresh entry) ?_
    exact flows_finish start unfinished fresh entry below (belowFlows (start.enter unfinished) flows)

/-! ## What a resolution holds -/

section Resolved
variable (ran : (resolveNouns classes).outcome = .ok resolved)
include ran

theorem resolved_mem_iff : name ∈ resolved ↔ name ∈ classes := by
  obtain ⟨_, final, course, rfl, _⟩ := resolveNouns_explores ran
  have start := Settled.start classes
  refine ⟨(course.settled start).defined name, fun defined => ?_⟩
  exact (course.answered start.apart (Std.ExtTreeMap.mem_keys.2 defined) defined).resolve_right List.not_mem_nil

theorem resolved_holds_own (own : OwnWord classes name word) : Holds resolved name word := by
  have finished := (resolved_mem_iff ran).2 own.defined
  obtain ⟨_, final, course, rfl, _⟩ := resolveNouns_explores ran
  exact course.holds_own (fun _ none => absurd none (by simp)) name finished word own

theorem resolved_within (holds : Holds resolved name word) : WordWithin classes name word := by
  obtain ⟨_, final, course, rfl, _⟩ := resolveNouns_explores ran
  have start : Sourced classes {} := fun _ _ none => absurd none.mem (by simp)
  obtain ⟨source, _, reaches, own⟩ := course.sourced (Settled.start classes) start name word holds
  exact ⟨source, reaches, own⟩

/-- A class has all that an included class has, unless that one has all that it has itself and takes it in. -/
theorem resolved_flows (edge : Includes classes name included) :
    Covers resolved name included ∨ (Covers resolved included name ∧ Reaches classes included name) := by
  have finished := (resolved_mem_iff ran).2 edge.source_defined
  have includedFinished := (resolved_mem_iff ran).2 edge.1
  obtain ⟨_, final, course, rfl, _⟩ := resolveNouns_explores ran
  exact course.flows (Settled.start classes) (fun _ _ _ none => absurd none (by simp)) name included edge finished
    includedFinished

end Resolved

/-- From a finished class only finished classes are reached when nothing is on the way. -/
theorem Settled.reached (settled : Settled classes [] search) (finished : name ∈ search.finished)
    (reaches : Reaches classes name other) : other ∈ search.finished := by
  induction reaches with
  | refl => exact finished
  | tail _ edge ih => exact (settled.closed _ _ ih edge).resolve_right List.not_mem_nil

/-- The classes listed before a class come before it in the order of names. -/
theorem keys_split (defined : name ∈ classes) :
    ∃ front back, classes.keys = front ++ name :: back ∧ ∀ earlier ∈ front, earlier < name := by
  obtain ⟨front, back, split⟩ := List.append_of_mem (Std.ExtTreeMap.mem_keys.2 defined)
  have sorted := split ▸ Std.ExtTreeMap.ordered_keys (t := classes)
  refine ⟨front, back, split, fun earlier member => ?_⟩
  exact compareOfLessAndEq_eq_lt.mp ((List.pairwise_append.1 sorted).2.2 earlier member name List.mem_cons_self)

/-- A class has all that a class which it reaches has, unless a class that comes earlier in the order of names
reaches that one too: the search from the class itself starts with nothing on the way. -/
theorem resolved_covers_or_earlier (ran : (resolveNouns classes).outcome = .ok resolved) (defined : name ∈ classes)
    (reaches : Reaches classes name other) :
    Covers resolved name other ∨ ∃ earlier ∈ classes, earlier < name ∧ Reaches classes earlier other := by
  obtain ⟨_, final, course, rfl, _⟩ := resolveNouns_explores ran
  obtain ⟨front, back, keys, sorted⟩ := keys_split defined
  rw [keys] at course
  obtain ⟨_, middle, first, second⟩ := course.split
  have start := first.settled (Settled.start classes)
  -- Whatever was finished before the turn of the class is reached from a class listed before it.
  have before : ∀ found ∈ middle.finished, Reaches classes found other →
      ∃ earlier ∈ classes, earlier < name ∧ Reaches classes earlier other := by
    intro found finished foundReaches
    obtain ⟨earlier, member, earlierReaches⟩ := first.introduced (Settled.start classes) finished (by simp)
    exact ⟨earlier, earlierReaches.source_defined (start.defined found finished), sorted earlier member,
      earlierReaches.trans foundReaches⟩
  cases second with
  | known finished rest => exact .inr (before name (mem_of_entry finished) reaches)
  | cut _ onWay _ => cases onWay
  | @entered _ _ _ _ more _ _ inner _ cls unfinished fresh entry _ below rest =>
    have enter := start.enter unfinished
    have finish := below.settled_finish start unfinished fresh entry
    have otherFinished := finish.reached ((mem_finish ..).2 (.inl rfl)) reaches
    by_cases early : other ∈ middle.finished
    · exact .inr (before other early .refl)
    · left
      rw [rest.covers_iff finish.apart (by simp) otherFinished]
      by_cases same : name = other
      · exact same ▸ .refl _ _
      · exact fun word holds => holds_finish_self.2 (below.gathers enter (.inr early) ((holds_finish_ne same).1 holds))

/-- Where no class that comes earlier has led the search into a group of entangled classes that the class reaches,
the class has all that any class it reaches has. The induction is along the inclusions: one that words did not
follow joins two classes of such a group. -/
theorem resolved_covers_reached (ran : (resolveNouns classes).outcome = .ok resolved) (defined : name ∈ classes)
    (untouched : ∀ earlier ∈ classes, earlier < name → ∀ member, Entangled classes member →
      Reaches classes name member → ¬ Reaches classes earlier member)
    (reaches : Reaches classes name other) : Covers resolved name other := by
  induction reaches with
  | refl => exact .refl _ _
  | @tail middle last path edge ih =>
    rcases resolved_flows ran edge with covers | ⟨_, back⟩
    · exact ih.trans covers
    · by_cases same : middle = last
      · exact same ▸ ih
      · have entangled : Entangled classes last := ⟨middle, same, back, .single edge⟩
        rcases resolved_covers_or_earlier ran defined (path.tail edge) with covers | ⟨earlier, early, before, reached⟩
        · exact covers
        · exact absurd reached (untouched earlier early before last entangled (path.tail edge))

theorem complete_of_covers (ran : (resolveNouns classes).outcome = .ok resolved) (defined : name ∈ classes)
    (covers : ∀ other, Reaches classes name other → Covers resolved name other) :
    CompleteAt classes resolved name := by
  obtain ⟨words, entry⟩ := entry_of_mem ((resolved_mem_iff ran).2 defined)
  refine ⟨words, entry, fun word => ?_⟩
  rw [← holds_of_entry entry]
  refine ⟨resolved_within ran, ?_⟩
  rintro ⟨other, reaches, own⟩
  exact covers other reaches word (resolved_holds_own ran own)

/-- What resolution means in terms of the inclusion graph. A resolved class holds all its own words and only own words
of classes that it reaches. It holds exactly those if no class that comes earlier in the order of names reaches a
group of entangled classes that it reaches too; so does the first class of all in any case, and so does every class
where no two classes take in each other. -/
theorem resolved_words_reachable (ran : (resolveNouns classes).outcome = .ok resolved) (defined : name ∈ classes) :
    (∃ words, resolved[name]? = some words ∧ (∀ word, OwnWord classes name word → word ∈ words) ∧
      ∀ word ∈ words, WordWithin classes name word) ∧
    ((∀ earlier ∈ classes, earlier < name → ∀ member, Entangled classes member → Reaches classes name member →
      ¬ Reaches classes earlier member) → CompleteAt classes resolved name) ∧
    ((∀ other ∈ classes, name ≤ other) → CompleteAt classes resolved name) ∧
    ((∀ first second, Mutual classes first second → first = second) → CompleteAt classes resolved name) := by
  have complete (untouched : ∀ earlier ∈ classes, earlier < name → ∀ member, Entangled classes member →
      Reaches classes name member → ¬ Reaches classes earlier member) : CompleteAt classes resolved name :=
    complete_of_covers ran defined fun _ => resolved_covers_reached ran defined untouched
  refine ⟨?_, complete, fun first => complete ?_, fun acyclic => complete ?_⟩
  · obtain ⟨words, entry⟩ := entry_of_mem ((resolved_mem_iff ran).2 defined)
    refine ⟨words, entry, fun word own => ?_, fun word member => ?_⟩
    · exact (holds_of_entry entry).1 (resolved_holds_own ran own)
    · exact resolved_within ran ((holds_of_entry entry).2 member)
  · intro earlier early before
    exact absurd before (String.not_lt.mpr (first earlier early))
  · rintro _ _ _ member ⟨partner, different, both⟩
    exact absurd (acyclic member partner both).symm different

/-- Two classes that take in each other, and one beside them that takes in the second. -/
def pantry : Table NounClass :=
  Std.ExtTreeMap.ofList [
    ("flora", ({ words := .ofList ["oak"], includes := ["fruit.json"] } : NounClass)),
    ("fruit", { words := .ofList ["apple"], includes := ["flora"] }),
    ("sweets", { words := .ofList ["toffee"], includes := ["fruit"] })]

theorem pantry_resolves : ∃ resolved, (resolveNouns pantry).outcome = .ok resolved := by
  cases outcome : (resolveNouns pantry).outcome with
  | error mismatch =>
    have succeeds : (resolveNouns pantry).outcome.isOk = true := by decide +kernel
    simp [outcome, Except.isOk, Except.toBool] at succeeds
  | ok resolved => exact ⟨resolved, rfl⟩

/-- No class takes in the one beside the two. -/
theorem pantry_sweets_untaken (owner : String) : ¬ Includes pantry owner "sweets" := by
  intro edge
  have none : ∀ name ∈ pantry.keys, ¬ Includes pantry name "sweets" := by decide +kernel
  exact none owner (Std.ExtTreeMap.mem_keys.2 edge.source_defined) edge

/-- The first class of the two on the cycle is complete. -/
theorem pantry_flora_complete : ∃ resolved, (resolveNouns pantry).outcome = .ok resolved ∧ "flora" ∈ pantry ∧
    CompleteAt pantry resolved "flora" := by
  obtain ⟨resolved, ran⟩ := pantry_resolves
  have defined : "flora" ∈ pantry := by decide +kernel
  have first : ∀ other ∈ pantry.keys, "flora" ≤ other := by decide +kernel
  exact ⟨resolved, ran, defined, (resolved_words_reachable ran defined).2.2.1 fun other member =>
    first other (Std.ExtTreeMap.mem_keys.2 member)⟩

end Wordbook
