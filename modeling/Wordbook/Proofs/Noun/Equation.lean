import Wordbook.Proofs.Noun.Reachability

/-! Resolved classes against one another. A class has its own words and nothing else but what the classes have that it
takes in. Of these it lacks words only where they take it in as well, for only there is the search cut.

The results that are compared come from different places: some were found when the search started at the class, others
while it was gathering another one. So the second half is about every visit in the course of a resolution: it gives
back what the class is resolved to in the end, or nothing, because the class is on the way. -/
namespace Wordbook
open Search

/-- In the course of a resolution a class is visited, from a state and with classes on the way: each listed class in
its turn, and each class that is taken in by one that is being gathered, after the references in front. -/
inductive Visits (classes : Table NounClass) : List String → String → Search → Prop where
  | listed {name : String} {front back : List String} {search : Search} {found : Table WordSet}
      (keys : classes.keys = front ++ name :: back)
      (earlier : visitAll classes front ∅ {} = (search, .ok found)) :
      Visits classes [] name search
  | included {owner reference : String} {way front back : List String} {before search : Search} {words : WordSet}
      {cls : NounClass} (visits : Visits classes way owner before)
      (unfinished : owner ∉ before.finished) (fresh : owner ∉ way)
      (entry : classes[owner]? = some cls) (references : cls.includes = front ++ reference :: back)
      (earlier : gather classes (visit classes (owner :: way)) owner cls.countable front cls.words
        (before.note (.entered owner)) = (search, .ok words))
      (defined : className reference ∈ classes)
      (agrees : mismatch? owner cls.countable (className reference) (flagOf classes (className reference)) = none) :
      Visits classes (owner :: way) (className reference) search

/-- What is finished in a state is in the table, with the same words. -/
def Lasting (resolved : Table WordSet) (search : Search) : Prop :=
  ∀ (name : String) (words : WordSet), search.finished[name]? = some words → resolved[name]? = some words

variable {classes : Table NounClass} {way front back : List String} {name owner included word : String}
variable {words total : WordSet} {before middle after search : Search} {resolved : Table WordSet} {cls : NounClass}

/-! ## What a class has, it has from itself or from a class that it takes in -/

theorem resolved_origin (ran : (resolveNouns classes).outcome = .ok resolved) (holds : Holds resolved name word) :
    OwnWord classes name word ∨ ∃ included, Includes classes name included ∧ Holds resolved included word := by
  obtain ⟨_, final, course, rfl, _⟩ := resolveNouns_explores ran
  refine course.held_induction (P := fun name => OwnWord classes name word ∨
    ∃ included, Includes classes name included ∧ Holds final.finished included word) (Settled.start classes)
    (fun _ none => absurd none.mem (by simp)) (fun _ _ own => .inl own) ?_ name holds
  exact fun _ included edge _ includedHolds _ => .inr ⟨included, edge, includedHolds⟩

/-- A class has all that a class has which it takes in and which does not take it in. -/
theorem resolved_covers_included (ran : (resolveNouns classes).outcome = .ok resolved)
    (edge : Includes classes name included) (apart : ¬ Reaches classes included name) :
    Covers resolved name included :=
  (resolved_flows ran edge).resolve_right fun hidden => apart hidden.2

/-! ## Every visit gives back the final words or nothing -/

/-- Gathering goes on where it is after the references in front. -/
theorem gather_append {follow : String → Search → Search × Except CountabilityMismatch WordSet}
    {countable : Option Bool} (ran : gather classes follow owner countable front words before = (middle, .ok total)) :
    gather classes follow owner countable (front ++ back) words before =
      gather classes follow owner countable back total middle := by
  induction front generalizing words before with
  | nil =>
    cases ran
    rfl
  | cons reference front ih =>
    simp only [List.cons_append, gather] at ran ⊢
    split at ran
    · exact ih ran
    · split at ran
      · cases ran
      · split at ran
        · cases ran
        · exact ih ran

theorem visitAll_append {listed found : Table WordSet}
    (ran : visitAll classes front listed before = (middle, .ok found)) :
    visitAll classes (front ++ back) listed before = visitAll classes back found middle := by
  induction front generalizing listed before with
  | nil =>
    cases ran
    rfl
  | cons first front ih =>
    simp only [List.cons_append, visitAll] at ran ⊢
    split at ran
    · cases ran
    · exact ih ran

/-- What is finished after a course lasts only if what was finished before it does. -/
theorem Lasting.of_course {asked : List String} (lasting : Lasting resolved after)
    (course : Explores classes way asked words before total after) (start : Apart way before) :
    Lasting resolved before :=
  fun name words finished => lasting name words (course.kept start finished)

/-- What a class is finished with replaces nothing, if it was not finished before. -/
theorem Lasting.of_finish (lasting : Lasting resolved (search.finish name words))
    (unfinished : name ∉ search.finished) : Lasting resolved search := by
  intro other held finished
  have different : name ≠ other := fun same => unfinished (same ▸ mem_of_entry finished)
  exact lasting other held (by rw [getElem?_finish, if_neg different, finished])

/-- A visit in the course of a resolution succeeds, and what is finished after it lasts. -/
theorem Visits.lasting (visits : Visits classes way name search)
    (ran : (resolveNouns classes).outcome = .ok resolved) :
    name ∈ classes ∧ Settled classes way search ∧
      ∃ after words, visit classes way name search = (after, .ok words) ∧ Lasting resolved after := by
  induction visits with
  | @listed name front back search found keys earlier =>
    have listed : ∀ other ∈ front ++ name :: back, other ∈ classes := fun other member =>
      Std.ExtTreeMap.mem_keys.1 (keys ▸ member)
    simp only [List.forall_mem_append, List.forall_mem_cons] at listed
    obtain ⟨frontDefined, defined, backDefined⟩ := listed
    obtain ⟨_, course, _⟩ := visitAll_explores frontDefined (Settled.start classes) earlier ∅
    have settled := course.settled (Settled.start classes)
    obtain ⟨final, run, finished, _⟩ := resolveNouns_visitAll ran
    rw [keys, visitAll_append earlier, visitAll] at run
    split at run
    · cases run
    · rename_i middle words visited
      have middleSettled := (visit_explores defined visited).settled settled
      obtain ⟨_, onward, _⟩ := visitAll_explores backDefined middleSettled run ∅
      have last : Lasting resolved final := fun _ _ held => finished ▸ held
      exact ⟨defined, settled, middle, words, visited, last.of_course onward middleSettled.apart⟩
  | @included owner reference way front back before search words cls _ unfinished fresh entry references earlier defined
      agrees ih =>
    obtain ⟨_, settled, after, total, visited, lasting⟩ := ih
    have missing : before.finished[owner]? = none := Std.ExtTreeMap.getElem?_eq_none unfinished
    rw [visit_of_fresh missing fresh entry, references, gather_append earlier] at visited
    split at visited
    · cases visited
    · rename_i inner gathered ran'
      cases visited
      obtain ⟨target, targetEntry⟩ := entry_of_mem defined
      rw [flagOf_of_entry targetEntry] at agrees
      simp only [gather, targetEntry, agrees] at ran'
      split at ran'
      · cases ran'
      · rename_i middle more followed
        rw [← flagOf_of_entry entry] at earlier ran'
        have follows := visit_follows classes (owner :: way)
        have searchSettled := (gather_explores follows front earlier).1.settled (settled.enter unfinished)
        have middleSettled := (visit_explores defined followed).settled searchSettled
        have onward := (gather_explores follows back ran').1
        have apart : owner ∉ inner.finished := (onward.settled middleSettled).apart owner List.mem_cons_self
        exact ⟨defined, searchSettled, middle, more, followed,
          (lasting.of_finish apart).of_course onward middleSettled.apart⟩

/-- The inclusion equation. What a class has is its own or what a class has that it takes in; and it has all of that,
but for the classes that take it in as well. So the equation holds where no other class does that it takes in. And it
makes no difference when a result was found: in the course of the resolution every visit gives back the final words of
the class, or nothing if the class is on the way, and whatever is finished before or after a visit is so with its final
words. -/
theorem inclusion_equation (ran : (resolveNouns classes).outcome = .ok resolved) (entry : classes[name]? = some cls) :
    (∃ words, resolved[name]? = some words ∧
      (∀ word ∈ words, word ∈ cls.words ∨
        ∃ included, Includes classes name included ∧ Holds resolved included word) ∧
      (∀ word ∈ cls.words, word ∈ words) ∧
      (∀ included, Includes classes name included → ¬ Reaches classes included name →
        ∀ word, Holds resolved included word → word ∈ words) ∧
      ((∀ included, Includes classes name included → included ≠ name → ¬ Reaches classes included name) →
        ∀ word, word ∈ words ↔ word ∈ cls.words ∨
          ∃ included, Includes classes name included ∧ Holds resolved included word)) ∧
    ∀ way visited search, Visits classes way visited search →
      ∃ after words, visit classes way visited search = (after, .ok words) ∧
        (resolved[visited]? = some words ∨ (visited ∈ way ∧ words = ∅)) ∧
        ∀ held, search.finished[name]? = some held ∨ after.finished[name]? = some held →
          resolved[name]? = some held := by
  constructor
  · obtain ⟨words, found⟩ := entry_of_mem ((resolved_mem_iff ran).2 (mem_of_entry entry))
    have origin : ∀ word ∈ words, word ∈ cls.words ∨
        ∃ included, Includes classes name included ∧ Holds resolved included word := by
      intro word member
      simpa [OwnWord, entry] using resolved_origin ran ((holds_of_entry found).2 member)
    have own : ∀ word ∈ cls.words, word ∈ words := fun word member =>
      (holds_of_entry found).1 (resolved_holds_own ran ⟨cls, entry, member⟩)
    have given : ∀ included, Includes classes name included → ¬ Reaches classes included name →
        ∀ word, Holds resolved included word → word ∈ words := fun included edge apart word holds =>
      (holds_of_entry found).1 (resolved_covers_included ran edge apart word holds)
    refine ⟨words, found, origin, own, given, fun apart word => ⟨origin word, ?_⟩⟩
    rintro (member | ⟨included, edge, holds⟩)
    · exact own word member
    · by_cases same : included = name
      · exact (holds_of_entry found).1 (same ▸ holds)
      · exact given included edge (apart included edge same) word holds
  · intro way visited search visits
    obtain ⟨defined, settled, after, words, result, lasting⟩ := visits.lasting ran
    have earlier := lasting.of_course (visit_explores defined result) settled.apart
    refine ⟨after, words, result, ?_, fun held found => found.elim (earlier name held) (lasting name held)⟩
    exact (visit_result defined result).imp (lasting visited words) id

/-- Of the three classes the last one takes in the second and is taken in by none. The second is visited while the
first is on the way, and that visit finds what it is resolved to in the end. -/
theorem pantry_equation : ∃ resolved, (resolveNouns pantry).outcome = .ok resolved ∧
    (∀ word, Holds resolved "sweets" word ↔ OwnWord pantry "sweets" word ∨ Holds resolved "fruit" word) ∧
    ∃ search after words, Visits pantry ["flora"] "fruit" search ∧
      visit pantry ["flora"] "fruit" search = (after, .ok words) ∧ resolved["fruit"]? = some words := by
  obtain ⟨resolved, ran⟩ := pantry_resolves
  refine ⟨resolved, ran, fun word => ?_, ?_⟩
  · obtain ⟨cls, entry⟩ := entry_of_mem (by decide +kernel : "sweets" ∈ pantry)
    have takesIn : ∀ included ∈ pantry.keys, Includes pantry "sweets" included ↔ included = "fruit" := by decide +kernel
    have apart (included : String) (_ : Includes pantry "sweets" included) (different : included ≠ "sweets") :
        ¬ Reaches pantry included "sweets" := by
      intro reaches
      cases reaches with
      | refl => exact different rfl
      | tail _ edge => exact pantry_sweets_untaken _ edge
    obtain ⟨⟨words, found, _, _, _, equation⟩, _⟩ := inclusion_equation ran entry
    have only : ∀ included, Includes pantry "sweets" included ↔ included = "fruit" := fun included =>
      ⟨fun edge => (takesIn included (Std.ExtTreeMap.mem_keys.2 edge.1)).1 edge,
        fun same => same ▸ (takesIn "fruit" (by decide +kernel)).2 rfl⟩
    rw [holds_of_entry found, equation apart word]
    simp [OwnWord, entry, only]
  · have keys : pantry.keys = [] ++ "flora" :: ["fruit", "sweets"] := by decide +kernel
    have first : Visits pantry [] "flora" {} := .listed keys rfl
    have references : ["fruit.json"] = [] ++ "fruit.json" :: [] := rfl
    have second : Visits pantry ["flora"] "fruit" _ :=
      .included first (by decide +kernel) List.not_mem_nil rfl references rfl (by decide +kernel) (by decide +kernel)
    obtain ⟨cls, entry⟩ := entry_of_mem (by decide +kernel : "fruit" ∈ pantry)
    obtain ⟨after, words, result, found, _⟩ := (inclusion_equation ran entry).2 _ _ _ second
    exact ⟨_, after, words, second, result, found.resolve_right fun cut => absurd cut.1 (by decide)⟩

end Wordbook
