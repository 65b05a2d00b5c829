import Wordbook.Proofs.Noun.Countability
import Wordbook.Proofs.Noun.Provenance

/-! Whose words come to a class is a matter of the references alone. The words do not steer the search, and neither do
the flags as long as no check fails: a search that succeeds takes the same way without any flags. So the classes that
contribute to a class can be read off a table that has nothing but references, and what is resolved goes through unions
of words. -/
namespace Wordbook
open Search

/-- What each class refers to, and nothing else of the classes. -/
def references (classes : Table NounClass) : Table (List String) :=
  classes.map fun _ cls => cls.includes

/-- Classes with given references, each with its name as its only word and without a flag. -/
def plainClasses (graph : Table (List String)) : Table NounClass :=
  graph.map fun name includes => { words := .ofList [name], includes := includes }

/-- The classes whose own words come to a class, as the references decide it. -/
def contributors (graph : Table (List String)) (name : String) : WordSet :=
  match (resolveNouns (plainClasses graph)).outcome with
  | .ok tagged => tagged[name]?.getD ∅
  | .error _ => ∅

/-- The same classes, none of which says whether its nouns can be counted. -/
def unflagged (classes : Table NounClass) : Table NounClass :=
  classes.map fun _ cls => { cls with countable := none }

variable {classes : Table NounClass} {graph : Table (List String)} {way names asked : List String}
variable {name owner word : String} {words total : WordSet} {before after : Search} {resolved : Table WordSet}

/-! ## A search that succeeds does without flags -/

@[simp] theorem getElem?_unflagged :
    (unflagged classes)[name]? = classes[name]?.map fun cls => { cls with countable := none } :=
  Std.ExtTreeMap.getElem?_map

theorem gather_unflagged {follow follow' : String → Search → Search × Except CountabilityMismatch WordSet}
    (below : ∀ included before after more, follow included before = (after, .ok more) →
      follow' included before = (after, .ok more))
    {countable : Option Bool} (asked : List String)
    (ran : gather classes follow owner countable asked words before = (after, .ok total)) :
    gather (unflagged classes) follow' owner none asked words before = (after, .ok total) := by
  induction asked generalizing words before with
  | nil => exact ran
  | cons reference asked ih =>
    simp only [gather, getElem?_unflagged] at ran ⊢
    cases entry : classes[className reference]? with
    | none =>
      simp only [entry] at ran
      exact ih ran
    | some cls =>
      simp only [entry] at ran
      split at ran
      · cases ran
      · split at ran
        · cases ran
        · rename_i followed
          simpa only [Option.map_some, mismatch?, below _ _ _ _ followed] using ih ran

theorem visit_unflagged (ran : visit classes way name before = (after, .ok words)) :
    visit (unflagged classes) way name before = (after, .ok words) := by
  induction way, name, before using visit.induct classes generalizing after words with
  | case1 way name before held finished =>
    rw [visit_of_finished finished] at ran ⊢
    exact ran
  | case2 way name before unfinished onWay =>
    rw [visit_of_mem_way unfinished onWay] at ran ⊢
    exact ran
  | case3 way name before unfinished fresh missing =>
    rw [visit_of_undefined unfinished fresh missing] at ran
    rw [visit_of_undefined unfinished fresh (by simp [missing])]
    exact ran
  | case4 way name before unfinished fresh cls entry inner mismatch gathered =>
    rw [visit_of_fresh unfinished fresh entry, gathered] at ran
    cases ran
  | case5 way name before unfinished fresh cls entry inner held gathered ih =>
    rw [visit_of_fresh unfinished fresh entry, gathered] at ran
    cases ran
    have bare : (unflagged classes)[name]? = some { cls with countable := none } := by simp [entry]
    have again := gather_unflagged (fun _ _ _ _ followed => ih _ _ followed) cls.includes gathered
    rw [visit_of_fresh unfinished fresh bare, again]

theorem visitAll_unflagged {listed resolved : Table WordSet}
    (ran : visitAll classes names listed before = (after, .ok resolved)) :
    visitAll (unflagged classes) names listed before = (after, .ok resolved) := by
  induction names generalizing listed before with
  | nil => exact ran
  | cons first rest ih =>
    rw [visitAll] at ran ⊢
    split at ran
    · cases ran
    · rename_i visited
      rw [visit_unflagged visited]
      exact ih ran

/-- Classes that are resolved are resolved to the same words when none of them has a flag. -/
theorem resolveNouns_unflagged (ran : (resolveNouns classes).outcome = .ok resolved) :
    (resolveNouns (unflagged classes)).outcome = .ok resolved := by
  obtain ⟨final, run, _⟩ := resolveNouns_visitAll ran
  have keys : (unflagged classes).keys = classes.keys := Std.ExtTreeMap.keys_map
  simp only [resolveNouns, keys, visitAll_unflagged run]

/-! ## The contributing classes -/

theorem plainClasses_references (classes : Table NounClass) :
    plainClasses (references classes) = unflagged (nameTags classes) := by
  apply Std.ExtTreeMap.ext_getElem?
  intro name
  simp [plainClasses, references, unflagged, nameTags, Std.ExtTreeMap.getElem?_map]

/-- Without flags there is nothing that resolution could fail with. -/
theorem plainClasses_resolve (graph : Table (List String)) :
    ∃ tagged, (resolveNouns (plainClasses graph)).outcome = .ok tagged := by
  cases outcome : (resolveNouns (plainClasses graph)).outcome with
  | error mismatch =>
    have opposed := resolveNouns_error_opposed outcome
    have flagless : flagOf (plainClasses graph) mismatch.cls = none := by
      cases entry : graph[mismatch.cls]? <;> simp [flagOf, plainClasses, Std.ExtTreeMap.getElem?_map, entry]
    exact absurd opposed.own (by simp [flagless])
  | ok tagged => exact ⟨tagged, rfl⟩

theorem mem_plainClasses : name ∈ plainClasses graph ↔ name ∈ graph := by
  simp [plainClasses]

theorem ownWord_plainClasses : OwnWord (plainClasses graph) name word ↔ name ∈ graph ∧ word = name := by
  have tagged : nameTags (plainClasses graph) = plainClasses graph := by
    apply Std.ExtTreeMap.ext_getElem?
    intro name
    simp [nameTags, plainClasses, Std.ExtTreeMap.getElem?_map]
  rw [← tagged, ownWord_nameTags, mem_plainClasses]

theorem mem_contributors_iff {tagged : Table WordSet} (ran : (resolveNouns (plainClasses graph)).outcome = .ok tagged) :
    owner ∈ contributors graph name ↔ Holds tagged name owner := by
  simp only [contributors, ran]
  cases entry : tagged[name]? <;> simp [Holds, entry]

/-- The classes that contribute to a class are those that it draws on when it is resolved. -/
theorem mem_contributors_references (ran : (resolveNouns classes).outcome = .ok resolved) :
    owner ∈ contributors (references classes) name ↔ DrawsOn classes name owner := by
  obtain ⟨tagged, tagsRan⟩ := (rewords_nameTags classes).resolves ran
  have plainRan : (resolveNouns (plainClasses (references classes))).outcome = .ok tagged := by
    rw [plainClasses_references]
    exact resolveNouns_unflagged tagsRan
  rw [mem_contributors_iff plainRan]
  constructor
  · exact fun holds => ⟨tagged, tagsRan, holds⟩
  · rintro ⟨_, again, holds⟩
    cases tagsRan.symm.trans again
    exact holds

/-- A resolved class has the own words of the classes that contribute to it. -/
theorem holds_iff_contributors (ran : (resolveNouns classes).outcome = .ok resolved) :
    Holds resolved name word ↔ ∃ owner ∈ contributors (references classes) name, OwnWord classes owner word := by
  simp only [holds_iff_drawsOn ran, mem_contributors_references ran]

/-! ## Other words for the same classes -/

theorem Rewords.references_eq {second : Table NounClass} (rewords : Rewords classes second) :
    references second = references classes := by
  apply Std.ExtTreeMap.ext_getElem?
  intro name
  have same := congrArg (Option.map Prod.snd) (rewords name)
  simpa [references, Std.ExtTreeMap.getElem?_map, Function.comp_def] using same.symm

/-- Classes that have the words of two others have what both are resolved to. -/
theorem resolveNouns_unite {words words' resolved' : Table WordSet}
    (ran : (resolveNouns (withWords classes words)).outcome = .ok resolved)
    (ran' : (resolveNouns (withWords classes words')).outcome = .ok resolved') :
    (resolveNouns (withWords classes (Table.unite words words'))).outcome = .ok (Table.unite resolved resolved') := by
  have rewords (given : Table WordSet) := rewords_withWords classes given
  obtain ⟨_, baseRan⟩ := (rewords words).symm.resolves ran
  obtain ⟨united, unitedRan⟩ := (rewords (Table.unite words words')).resolves baseRan
  suffices same : united = Table.unite resolved resolved' by rw [unitedRan, same]
  apply eq_of_holds_iff
  · intro name
    rw [mem_unite, resolved_mem_iff unitedRan, resolved_mem_iff ran, resolved_mem_iff ran']
    simp only [(rewords _).mem_iff, or_self]
  · intro name word
    rw [holds_unite, holds_iff_contributors unitedRan, holds_iff_contributors ran, holds_iff_contributors ran']
    simp only [(rewords _).references_eq, ownWord_withWords, holds_unite, and_or_left, exists_or]

/-- One more word for a class is one more word for the classes that it contributes to. -/
theorem resolveNouns_insert_word {cls : NounClass} (entry : classes[owner]? = some cls)
    (ran : (resolveNouns classes).outcome = .ok resolved) :
    ∃ more, (resolveNouns (classes.insert owner { cls with words := cls.words.insert word })).outcome = .ok more ∧
      ∀ name found, Holds more name found ↔
        Holds resolved name found ∨ found = word ∧ owner ∈ contributors (references classes) name := by
  have rewords : Rewords classes (classes.insert owner { cls with words := cls.words.insert word }) := by
    intro name
    by_cases same : owner = name
    · subst same
      simp [entry]
    · simp [Std.ExtTreeMap.getElem?_insert, same]
  obtain ⟨more, moreRan⟩ := rewords.resolves ran
  refine ⟨more, moreRan, fun name found => ?_⟩
  have own : ∀ source, OwnWord (classes.insert owner { cls with words := cls.words.insert word }) source found ↔
      OwnWord classes source found ∨ source = owner ∧ found = word := by
    intro source
    by_cases same : owner = source
    · subst same
      simp [OwnWord, entry, Std.ExtTreeSet.mem_insert, or_comm, eq_comm (a := found)]
    · simp [OwnWord, Std.ExtTreeMap.getElem?_insert, same, Ne.symm same]
  rw [holds_iff_contributors moreRan, holds_iff_contributors ran, rewords.references_eq]
  simp only [own, and_or_left, exists_or]
  refine or_congr_right ⟨?_, fun ⟨new, contributes⟩ => ⟨owner, contributes, rfl, new⟩⟩
  rintro ⟨_, contributes, rfl, new⟩
  exact ⟨new, contributes⟩

/-- Which classes contribute to a class depends on the references alone. The class itself does and only defined classes
do; and whatever the words and the flags of the classes are, if they are resolved at all, a class is resolved to the
own words of those that contribute to it. So the pointwise union of two assignments of words is resolved to the
pointwise union of what the two are resolved to, and one more word for a class adds that word and nothing else, takes
nothing away, and adds it where the class contributes. -/
theorem contributors_of_references (graph : Table (List String)) :
    (∀ name ∈ graph, name ∈ contributors graph name ∧ ∀ owner ∈ contributors graph name, owner ∈ graph) ∧
    (∀ classes resolved, references classes = graph → (resolveNouns classes).outcome = .ok resolved →
      (∀ name, name ∈ resolved ↔ name ∈ graph) ∧
      ∀ name word, Holds resolved name word ↔
        ∃ owner ∈ contributors graph name, OwnWord classes owner word) ∧
    (∀ classes words words' resolved resolved', references classes = graph →
      (resolveNouns (withWords classes words)).outcome = .ok resolved →
      (resolveNouns (withWords classes words')).outcome = .ok resolved' →
      (resolveNouns (withWords classes (Table.unite words words'))).outcome =
        .ok (Table.unite resolved resolved')) ∧
    ∀ classes resolved owner cls word, references classes = graph → classes[owner]? = some cls →
      (resolveNouns classes).outcome = .ok resolved →
      ∃ more, (resolveNouns (classes.insert owner { cls with words := cls.words.insert word })).outcome = .ok more ∧
        ∀ name found, Holds more name found ↔
          Holds resolved name found ∨ found = word ∧ owner ∈ contributors graph name := by
  refine ⟨fun name defined => ?_, ?_, ?_, ?_⟩
  · obtain ⟨tagged, ran⟩ := plainClasses_resolve graph
    simp only [mem_contributors_iff ran]
    refine ⟨resolved_holds_own ran (ownWord_plainClasses.2 ⟨defined, rfl⟩), fun owner holds => ?_⟩
    obtain ⟨source, _, own⟩ := resolved_within ran holds
    obtain ⟨sourceDefined, rfl⟩ := ownWord_plainClasses.1 own
    exact sourceDefined
  · rintro classes resolved rfl ran
    refine ⟨fun name => ?_, fun name word => holds_iff_contributors ran⟩
    rw [resolved_mem_iff ran, references, Std.ExtTreeMap.mem_map]
  · rintro classes words words' resolved resolved' rfl
    exact resolveNouns_unite
  · rintro classes resolved owner cls word rfl
    exact resolveNouns_insert_word

/-- The first of the two classes that take in each other does not contribute to the class beside them, whatever the
words are: here is one more for it, which the class beside them does not get. -/
theorem pantry_contributors : ∃ resolved cls, (resolveNouns pantry).outcome = .ok resolved ∧
    pantry["flora"]? = some cls ∧ ∃ more,
      (resolveNouns (pantry.insert "flora" { cls with words := cls.words.insert "fern" })).outcome = .ok more ∧
      ¬ Holds more "sweets" "fern" ∧ Holds more "flora" "fern" := by
  obtain ⟨resolved, ran⟩ := pantry_resolves
  obtain ⟨cls, entry⟩ := entry_of_mem (by decide +kernel : "flora" ∈ pantry)
  obtain ⟨more, moreRan, holds⟩ :=
    (contributors_of_references (references pantry)).2.2.2 pantry resolved "flora" cls "fern" rfl entry ran
  refine ⟨resolved, cls, ran, entry, more, moreRan, ?_, ?_⟩
  · have lacking : (resolveNouns pantry).outcome.toOption.any (fun table => Holds table "sweets" "fern") = false := by
      decide +kernel
    have apart : "flora" ∉ contributors (references pantry) "sweets" := by decide +kernel
    rw [holds]
    rintro (held | ⟨_, contributes⟩)
    · simp [ran, Except.toOption, held] at lacking
    · exact apart contributes
  · exact (holds "flora" "fern").2 (.inr ⟨rfl, by decide +kernel⟩)

end Wordbook
