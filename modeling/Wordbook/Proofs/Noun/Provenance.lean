import Wordbook.Proofs.Noun.Completeness

/-! Whose words a class is given. The search hands own words from class to class, and whose words come to a class does
not depend on what they are: with the names of the classes for words, the resolved class lists the classes that it
draws on. A class that draws on another one draws on all that the other draws on, on cycles as well, because a class
that is being gathered gets either all that a finished class holds or nothing of it. So resolved words are not changed
by resolving them again. -/
namespace Wordbook
open Search

/-- The search gives a class the own words of `owner`. -/
def DrawsOn (classes : Table NounClass) (name owner : String) : Prop :=
  ∃ tagged, (resolveNouns (nameTags classes)).outcome = .ok tagged ∧ Holds tagged name owner

/-- The same classes with other words. A class that no words are given for has none. -/
def withWords (classes : Table NounClass) (words : Table WordSet) : Table NounClass :=
  classes.map fun name cls => { cls with words := words[name]?.getD ∅ }

/-- Every held word is an own word of a finished class of which the holding class has everything. -/
def Rooted (classes : Table NounClass) (search : Search) : Prop :=
  ∀ name word, Holds search.finished name word →
    ∃ source ∈ search.finished, OwnWord classes source word ∧ Covers search.finished name source

variable {classes other : Table NounClass} {way asked : List String} {name owner third word : String}
variable {words total : WordSet} {before after : Search} {resolved : Table WordSet}

/-! ## What the search hands on, it hands on whole -/

/-- A class that is finished after the course below it has got its words from finished classes, of each of them all. -/
private theorem rooted_finish {cls : NounClass} (start : Settled classes way before)
    (unfinished : name ∉ before.finished) (entry : classes[name]? = some cls)
    (below : Explores classes (name :: way) (cls.includes.map className) cls.words (before.note (.entered name))
      total after)
    (rooted : Rooted classes after) : Rooted classes (after.finish name total) := by
  have enter := start.enter unfinished
  have apart : name ∉ after.finished := below.apart enter.apart name List.mem_cons_self
  have inside : ∀ source ∈ after.finished, ∀ word,
      Holds (after.finish name total).finished source word ↔ Holds after.finished source word :=
    fun source finished word => holds_finish_ne fun same => apart (same ▸ finished)
  intro holder word holds
  by_cases same : name = holder
  · subst same
    rcases below.origin enter.apart (holds_finish_self.1 holds) with member | ⟨child, childAsked, childHolds⟩
    · exact ⟨name, by simp, ⟨cls, entry, member⟩, .refl _ _⟩
    · obtain ⟨source, finished, own, covers⟩ := rooted child word childHolds
      refine ⟨source, by simp [finished], own, ?_⟩
      intro more sourceHolds
      have childHasMore := covers more ((inside source finished more).1 sourceHolds)
      exact holds_finish_self.2 (below.gathers enter (.inl childAsked) childHasMore)
  · have holdsInside := (holds_finish_ne same).1 holds
    obtain ⟨source, finished, own, covers⟩ := rooted holder word holdsInside
    refine ⟨source, by simp [finished], own, ?_⟩
    intro more sourceHolds
    rw [inside holder holdsInside.mem]
    exact covers more ((inside source finished more).1 sourceHolds)

theorem Explores.rooted (course : Explores classes way asked words before total after)
    (start : Settled classes way before) (rooted : Rooted classes before) : Rooted classes after := by
  induction course with
  | done => exact rooted
  | undefined _ _ ih => exact ih (start.note _) rooted
  | known _ _ ih => exact ih start rooted
  | cut _ _ _ ih => exact ih (start.note _) rooted
  | entered unfinished fresh entry _ below _ belowRooted ih =>
    have inner := belowRooted (start.enter unfinished) rooted
    exact ih (below.settled_finish start unfinished fresh entry) (rooted_finish start unfinished entry below inner)

theorem resolved_rooted (ran : (resolveNouns classes).outcome = .ok resolved) (holds : Holds resolved name word) :
    ∃ source, OwnWord classes source word ∧ Covers resolved name source := by
  obtain ⟨_, final, course, rfl, _⟩ := resolveNouns_explores ran
  have start : Rooted classes {} := fun _ _ none => absurd none.mem (by simp)
  obtain ⟨source, _, own, covers⟩ := course.rooted (Settled.start classes) start name word holds
  exact ⟨source, own, covers⟩

/-! ## The classes that a class draws on -/

theorem DrawsOn.trans (first : DrawsOn classes name owner) (second : DrawsOn classes owner third) :
    DrawsOn classes name third := by
  obtain ⟨tagged, ran, holds⟩ := first
  obtain ⟨_, again, ownerHolds⟩ := second
  cases ran.symm.trans again
  obtain ⟨source, own, covers⟩ := resolved_rooted ran holds
  obtain ⟨_, rfl⟩ := ownWord_nameTags.1 own
  exact ⟨tagged, ran, covers third ownerHolds⟩

theorem DrawsOn.refl (ran : (resolveNouns classes).outcome = .ok resolved) (defined : name ∈ classes) :
    DrawsOn classes name name := by
  obtain ⟨tagged, tagsRan⟩ := (rewords_nameTags classes).resolves ran
  exact ⟨tagged, tagsRan, resolved_holds_own tagsRan (ownWord_nameTags.2 ⟨defined, rfl⟩)⟩

theorem Rewords.nameTags_eq (rewords : Rewords classes other) : nameTags other = nameTags classes := by
  apply Std.ExtTreeMap.ext_getElem?
  intro name
  rw [nameTags, nameTags, Std.ExtTreeMap.getElem?_map, Std.ExtTreeMap.getElem?_map]
  cases entry : classes[name]? with
  | none => rw [rewords.missing entry]
  | some cls =>
    obtain ⟨twin, twinEntry, flag, references⟩ := rewords.entry entry
    simp [twinEntry, flag, references]

/-- Which classes a class draws on does not depend on the words. -/
theorem Rewords.drawsOn_iff (rewords : Rewords classes other) :
    DrawsOn other name owner ↔ DrawsOn classes name owner := by
  rw [DrawsOn, DrawsOn, rewords.nameTags_eq]

/-- The words are those of the classes that are listed. -/
private def Spelled (classes : Table NounClass) (listed words : WordSet) : Prop :=
  ∀ word, word ∈ words ↔ ∃ owner ∈ listed, OwnWord classes owner word

private theorem relates_spelled (classes : Table NounClass) :
    Relates (Spelled classes) (nameTags classes) classes where
  own name tagged cls taggedEntry entry word := by
    have tags : ∀ owner, owner ∈ tagged.words ↔ owner = name := by
      intro owner
      have owned : OwnWord (nameTags classes) name owner ↔ name ∈ classes ∧ owner = name := ownWord_nameTags
      simpa [OwnWord, taggedEntry, mem_of_entry entry] using owned
    simp [tags, OwnWord, entry]
  empty word := by simp
  union listed more words words' spelled spelled' word := by
    simp only [Std.ExtTreeSet.mem_union_iff, spelled word, spelled' word, or_and_right, exists_or]

/-- A resolved class holds the own words of the classes that it draws on. -/
theorem holds_iff_drawsOn (ran : (resolveNouns classes).outcome = .ok resolved) :
    Holds resolved name word ↔ ∃ owner, DrawsOn classes name owner ∧ OwnWord classes owner word := by
  have tags := rewords_nameTags classes
  rcases (resolveNouns_alike tags.symm (relates_spelled classes)).2 with
    ⟨_, _, failed⟩ | ⟨tagged, found, tagsRan, again, related⟩
  · rw [ran] at failed
    cases failed
  · cases ran.symm.trans again
    have draws : ∀ owner, DrawsOn classes name owner ↔ Holds tagged name owner := by
      intro owner
      constructor
      · rintro ⟨_, tagsAgain, holds⟩
        cases tagsRan.symm.trans tagsAgain
        exact holds
      · exact fun holds => ⟨tagged, tagsRan, holds⟩
    simp only [draws]
    by_cases defined : name ∈ classes
    · obtain ⟨words, entry⟩ := entry_of_mem ((resolved_mem_iff ran).2 defined)
      obtain ⟨listed, tagsEntry⟩ := entry_of_mem ((resolved_mem_iff tagsRan).2 (tags.mem_iff.2 defined))
      simp only [holds_of_entry entry, holds_of_entry tagsEntry]
      exact related.entry tagsEntry entry word
    · have missing : ∀ owner, ¬ Holds tagged name owner := fun owner holds =>
        defined (tags.mem_iff.1 ((resolved_mem_iff tagsRan).1 holds.mem))
      have nothing : ¬ Holds resolved name word := fun holds => defined ((resolved_mem_iff ran).1 holds.mem)
      simp [missing, nothing]

/-! ## Resolving again -/

theorem rewords_withWords (classes : Table NounClass) (words : Table WordSet) :
    Rewords classes (withWords classes words) := by
  intro name
  simp [withWords, Std.ExtTreeMap.getElem?_map, Function.comp_def]

theorem ownWord_withWords {words : Table WordSet} :
    OwnWord (withWords classes words) name word ↔ name ∈ classes ∧ Holds words name word := by
  cases entry : classes[name]? with
  | none =>
    have undefined : name ∉ classes := by simpa using entry
    simp [OwnWord, withWords, undefined]
  | some cls => cases held : words[name]? <;> simp [OwnWord, withWords, Holds, mem_of_entry entry, held]

/-- Classes that have their resolved words for their own are resolved to the same words, whatever cycles there are. -/
theorem resolveNouns_idempotent (ran : (resolveNouns classes).outcome = .ok resolved) :
    (resolveNouns (withWords classes resolved)).outcome = .ok resolved := by
  have rewords := rewords_withWords classes resolved
  obtain ⟨again, second⟩ := rewords.resolves ran
  suffices same : again = resolved by rw [second, same]
  apply eq_of_holds_iff
  · intro name
    rw [resolved_mem_iff second, resolved_mem_iff ran, rewords.mem_iff]
  · intro name word
    rw [holds_iff_drawsOn second]
    simp only [rewords.drawsOn_iff, ownWord_withWords]
    constructor
    · rintro ⟨owner, draws, _, holds⟩
      obtain ⟨source, ownerDraws, own⟩ := (holds_iff_drawsOn ran).1 holds
      exact (holds_iff_drawsOn ran).2 ⟨source, draws.trans ownerDraws, own⟩
    · intro holds
      have defined := (resolved_mem_iff ran).1 holds.mem
      exact ⟨name, .refl ran defined, defined, holds⟩

/-- Two of these classes take in each other, and one of the two lacks a word of the other. -/
theorem pantry_resolved_again : ∃ resolved, (resolveNouns pantry).outcome = .ok resolved ∧
    (resolveNouns (withWords pantry resolved)).outcome = .ok resolved := by
  obtain ⟨resolved, ran⟩ := pantry_resolves
  exact ⟨resolved, ran, resolveNouns_idempotent ran⟩

end Wordbook
