import Wordbook.Assembly
import Wordbook.Proofs.Noun.Entrance

/-! What the log says of cycles among noun classes. A class that the search meets again on the way to itself lies on a
cycle, because every class on the way takes in the next one. And where the search is never cut, a class is finished
only after everything that it takes in, so that going down from a finished class comes to an end; no class is then on a
cycle. Finished classes of earlier searches do not hide one: they were finished in the same way. -/
namespace Wordbook
open Search

/-- A class takes in itself, directly or through others. -/
def OnCycle (classes : Table NounClass) (name : String) : Prop :=
  Relation.TransGen (Includes classes) name name

/-- What an assembly logs of a resolution. -/
def Resolution.events (resolution : Resolution) : List Event :=
  resolution.steps.filterMap SearchStep.event?

/-- The log of a resolution says, for those who debug, that a cycle was broken at a class. -/
def ReportsCycle (classes : Table NounClass) (name : String) : Prop :=
  ∃ event ∈ (resolveNouns classes).events, event.level = .debug ∧
    event.message = "Inclusion cycle through noun class '" ++ name ++ "' broken"

variable {classes : Table NounClass} {way asked : List String} {name : String}
variable {words total : WordSet} {before after : Search} {resolved : Table WordSet}

/-! ## Cuts in the log -/

/-- Of a search only the cuts are logged for those who debug. -/
theorem SearchStep.event?_debug {step : SearchStep} {event : Event} (logged : step.event? = some event)
    (debug : event.level = .debug) : ∃ name, step = .cycleCut name ∧ event = .cycleCut name := by
  cases step with
  | entered cls => simp [event?] at logged
  | cycleCut cls =>
    simp only [event?, Option.some.injEq] at logged
    exact ⟨cls, rfl, logged.symm⟩
  | undefinedInclusion cls included =>
    simp only [event?, Option.some.injEq] at logged
    simp [← logged, Event.level] at debug
  | undefinedClass cls =>
    simp only [event?, Option.some.injEq] at logged
    simp [← logged, Event.level] at debug

theorem Event.message_cycleCut_injective {other : String}
    (same : (Event.cycleCut other).message = "Inclusion cycle through noun class '" ++ name ++ "' broken") :
    other = name := by
  unfold Event.message at same
  exact (String.append_right_inj _).1 ((String.append_left_inj _).1 same)

/-- The cycles in the log are the cuts of the search. -/
theorem reportsCycle_iff : ReportsCycle classes name ↔ .cycleCut name ∈ (resolveNouns classes).steps := by
  constructor
  · rintro ⟨event, member, debug, message⟩
    obtain ⟨step, stepMember, logged⟩ := List.mem_filterMap.1 member
    obtain ⟨other, rfl, rfl⟩ := SearchStep.event?_debug logged debug
    exact Event.message_cycleCut_injective message ▸ stepMember
  · intro member
    exact ⟨.cycleCut name, List.mem_filterMap.2 ⟨_, member, rfl⟩, rfl, rfl⟩

theorem cycleCut_mem_events : .cycleCut name ∈ (resolveNouns classes).events ↔ ReportsCycle classes name := by
  rw [reportsCycle_iff, Resolution.events, List.mem_filterMap]
  constructor
  · rintro ⟨step, member, logged⟩
    obtain ⟨other, rfl, same⟩ := SearchStep.event?_debug logged rfl
    cases same
    exact member
  · exact fun member => ⟨_, member, rfl⟩

/-- The whole log of an assembly tells of the cycles that the resolution reports, and of no others. -/
theorem cycleCut_mem_log {sources : Sources} :
    .cycleCut name ∈ (assemble sources).log ↔ ReportsCycle sources.nouns name := by
  rw [← cycleCut_mem_events]
  have unsaid : ∀ finding : VerbFinding, finding.event? ≠ some (.cycleCut name) := by
    rintro (_ | _ | _) <;> simp [VerbFinding.event?]
  simp only [assemble, bind, Run.report, Run.ofExcept, pure, Resolution.events]
  split <;> simp [unsaid]

/-! ## A cut lies on a cycle -/

/-- Every class on the way leads to each of the classes that are asked for. -/
def Leads (classes : Table NounClass) (way asked : List String) : Prop :=
  ∀ upper ∈ way, upper ∈ classes ∧ ∀ first ∈ asked, first ∈ classes → Relation.TransGen (Includes classes) upper first

theorem Leads.rest (leads : Leads classes way (name :: asked)) : Leads classes way asked := fun upper onWay =>
  ⟨(leads upper onWay).1, fun first member => (leads upper onWay).2 first (List.mem_cons_of_mem _ member)⟩

/-- A class that is entered leads to what it takes in, and so does every class that leads to it. -/
theorem Leads.enter {cls : NounClass} (leads : Leads classes way (name :: asked)) (entry : classes[name]? = some cls) :
    Leads classes (name :: way) (cls.includes.map className) := by
  have edge : ∀ first ∈ cls.includes.map className, first ∈ classes → Includes classes name first :=
    fun first member found => (includes_iff_of_entry entry).2 ⟨found, member⟩
  have defined := mem_of_entry entry
  intro upper onWay
  rcases List.mem_cons.1 onWay with rfl | onWay
  · exact ⟨defined, fun first member found => .single (edge first member found)⟩
  · obtain ⟨upperDefined, onward⟩ := leads upper onWay
    exact ⟨upperDefined, fun first member found =>
      (onward name List.mem_cons_self defined).tail (edge first member found)⟩

/-- While every class on the way leads to all that is asked for, a class is cut only where it leads to itself. -/
theorem Explores.cut_onCycle (course : Explores classes way asked words before total after)
    (leads : Leads classes way asked) (cut : .cycleCut name ∈ after.steps) :
    .cycleCut name ∈ before.steps ∨ OnCycle classes name := by
  induction course with
  | done => exact .inl cut
  | undefined _ _ ih =>
    have early := ih leads.rest cut
    simpa [note] using early
  | known _ _ ih => exact ih leads.rest cut
  | cut _ onWay _ ih =>
    rcases ih leads.rest cut with early | onCycle
    · rcases List.mem_cons.1 early with same | early
      · cases same
        obtain ⟨defined, onward⟩ := leads name onWay
        exact .inr (onward name List.mem_cons_self defined)
      · exact .inl early
    · exact .inr onCycle
  | entered _ _ entry _ _ _ belowCut ih =>
    rcases ih leads.rest cut with inside | onCycle
    · have early := belowCut (leads.enter entry) inside
      simpa [note] using early
    · exact .inr onCycle

/-! ## Without a cut there is no cycle -/

/-- Going down from a class along its inclusions always comes to an end. -/
def Grounded (classes : Table NounClass) (name : String) : Prop :=
  Acc (fun included owner => Includes classes owner included) name

theorem Grounded.not_onCycle (grounded : Grounded classes name) : ¬ OnCycle classes name := by
  have below := Acc.transGen grounded
  clear grounded
  induction below with
  | intro name _ ih => exact fun onCycle => ih name (Relation.transGen_swap.1 onCycle) onCycle

/-- A course that is never cut leaves only grounded classes finished, those among them that were asked for. -/
theorem Explores.grounded (course : Explores classes way asked words before total after) (apart : Apart way before)
    (uncut : ∀ name, .cycleCut name ∉ after.steps) (start : ∀ name ∈ before.finished, Grounded classes name) :
    (∀ name ∈ after.finished, Grounded classes name) ∧
      ∀ name ∈ asked, name ∈ classes → name ∈ after.finished := by
  induction course with
  | done => exact ⟨start, by simp⟩
  | undefined undefined _ ih =>
    obtain ⟨grounded, answered⟩ := ih apart uncut start
    exact ⟨grounded, List.forall_mem_cons.2 ⟨fun found => absurd found undefined, answered⟩⟩
  | known finished rest ih =>
    obtain ⟨grounded, answered⟩ := ih apart uncut start
    exact ⟨grounded, List.forall_mem_cons.2 ⟨fun _ => rest.stays_finished apart (mem_of_entry finished), answered⟩⟩
  | @cut met _ _ _ _ _ _ _ _ rest _ =>
    obtain ⟨late, steps⟩ := rest.logs
    exact absurd (by simp [steps, note]) (uncut met)
  | @entered entered _ _ _ more _ _ inner _ _ unfinished fresh entry _ below rest belowGrounded ih =>
    obtain ⟨late, steps⟩ := rest.logs
    have innerUncut : ∀ name, .cycleCut name ∉ inner.steps := fun name cut =>
      uncut name (steps ▸ List.mem_append_right late cut)
    have enter := apart.enter unfinished (.entered entered)
    obtain ⟨inside, insideAnswered⟩ := belowGrounded enter innerUncut start
    -- All that the class takes in was finished before it.
    have own : Grounded classes entered := .intro entered fun included edge =>
      inside included (insideAnswered included ((includes_iff_of_entry entry).1 edge).2 edge.1)
    have finish := (below.apart enter).finish fresh more
    obtain ⟨grounded, answered⟩ := ih finish uncut fun name finished => by
      rcases (mem_finish ..).1 finished with rfl | finished
      · exact own
      · exact inside name finished
    exact ⟨grounded, List.forall_mem_cons.2 ⟨fun _ => rest.stays_finished finish (by simp), answered⟩⟩

/-! ## The cycles that a resolution reports -/

/-- Reports of cycles are exact. A resolution that succeeds reports a cycle exactly if there is one, a class that takes
in itself being one as well; every class that it names lies on a cycle; and where there is no cycle, it has nothing to
say for those who debug. -/
theorem cycle_reports_exact (ran : (resolveNouns classes).outcome = .ok resolved) :
    ((∃ name, ReportsCycle classes name) ↔ ∃ name, OnCycle classes name) ∧
    (∀ name, ReportsCycle classes name → OnCycle classes name) ∧
    ((∀ name, ¬ OnCycle classes name) → ∀ event ∈ (resolveNouns classes).events, event.level ≠ .debug) := by
  obtain ⟨_, final, course, rfl, steps⟩ := resolveNouns_explores ran
  have reports : ∀ name, ReportsCycle classes name ↔ .cycleCut name ∈ final.steps := by
    simp [reportsCycle_iff, steps]
  have sound : ∀ name, ReportsCycle classes name → OnCycle classes name := fun name report =>
    (course.cut_onCycle (by simp [Leads]) ((reports name).1 report)).resolve_left List.not_mem_nil
  refine ⟨⟨fun ⟨name, report⟩ => ⟨name, sound name report⟩, ?_⟩, sound, ?_⟩
  · rintro ⟨name, onCycle⟩
    by_cases reported : ∃ name, ReportsCycle classes name
    · exact reported
    have uncut : ∀ name, .cycleCut name ∉ final.steps := fun name cut => reported ⟨name, (reports name).2 cut⟩
    have start := Settled.start classes
    obtain ⟨grounded, answered⟩ := course.grounded start.apart uncut (by simp)
    obtain ⟨included, edge, _⟩ := Relation.TransGen.head'_iff.1 onCycle
    have defined := edge.source_defined
    exact absurd onCycle (grounded name (answered name (Std.ExtTreeMap.mem_keys.2 defined) defined)).not_onCycle
  · intro acyclic event member debug
    obtain ⟨step, stepMember, logged⟩ := List.mem_filterMap.1 member
    obtain ⟨name, rfl, rfl⟩ := SearchStep.event?_debug logged debug
    exact acyclic name (sound name (reportsCycle_iff.2 stepMember))

/-- The search comes back to the first of the two classes that take in each other, and says so. -/
theorem pantry_cycle_reported : ∃ resolved, (resolveNouns pantry).outcome = .ok resolved ∧
    ReportsCycle pantry "flora" ∧ OnCycle pantry "flora" := by
  obtain ⟨resolved, ran⟩ := pantry_resolves
  have report : ReportsCycle pantry "flora" := reportsCycle_iff.2 (by decide +kernel)
  exact ⟨resolved, ran, report, (cycle_reports_exact ran).2.1 "flora" report⟩

end Wordbook
