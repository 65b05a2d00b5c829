import Mathlib.Order.WellFoundedSet
import Wordbook.Proofs.Noun.Entrance
import Wordbook.Proofs.Noun.Wording

/-! Which classes the search leaves complete. A class that takes in a group of entangled classes gets all that they
have if it comes to the entrance of the group from outside the group. A class that comes into the group elsewhere
can miss words, even when it lies on no cycle itself. Which words those are depends on what the classes have; whether
there are words that show the loss does not. -/
namespace Wordbook
open Search

variable {classes : Table NounClass} {name word : String} {resolved : Table WordSet}

/-- A class takes in another one and is not taken in by it. -/
def Above (classes : Table NounClass) (name other : String) : Prop :=
  Reaches classes name other ∧ ¬ Reaches classes other name

/-- There are finitely many classes, so one cannot go up for ever. -/
theorem above_wellFounded (classes : Table NounClass) : WellFounded (Above classes) := by
  have : IsStrictOrder String (Above classes) :=
    { irrefl := fun _ above => above.2 above.1
      trans := fun _ _ _ first second =>
        ⟨first.1.trans second.1, fun back => second.2 (back.trans first.1)⟩ }
  have listed : ∀ name other, Above classes name other → name ∈ classes.keys ∧ other ∈ classes.keys := by
    rintro name other ⟨reaches, apart⟩
    have defined : other ∈ classes := by
      cases reaches with
      | refl => exact absurd .refl apart
      | tail _ edge => exact edge.1
    exact ⟨Std.ExtTreeMap.mem_keys.2 (reaches.source_defined defined), Std.ExtTreeMap.mem_keys.2 defined⟩
  have onKeys := (List.finite_toSet classes.keys).wellFoundedOn (r := Above classes)
  refine (Set.wellFoundedOn_iff.1 onKeys).mono fun name other above => ?_
  exact ⟨above, listed name other above⟩

/-- The search comes into each group of entangled classes that a class reaches by one that the class reaches from
outside the group, or by the class itself. -/
def MeetsEntrances (classes : Table NounClass) (name : String) : Prop :=
  ∀ first, Entrance classes first → Entangled classes first → Reaches classes name first →
    first = name ∨ ∃ outside, Reaches classes name outside ∧ Includes classes outside first ∧
      ¬ Reaches classes first outside

/-- A class is complete exactly if it has all that the entrances have of the groups that it reaches. -/
theorem complete_iff_covers_entrances (ran : (resolveNouns classes).outcome = .ok resolved) (defined : name ∈ classes) :
    CompleteAt classes resolved name ↔ ∀ first, Entrance classes first → Entangled classes first →
      Reaches classes name first → Covers resolved name first := by
  constructor
  · rintro ⟨words, entry, exactly⟩ first _ _ reaches word holds
    obtain ⟨owner, onward, own⟩ := resolved_within ran holds
    exact (holds_of_entry entry).2 ((exactly word).2 ⟨owner, reaches.trans onward, own⟩)
  · exact fun covers => complete_of_covers ran defined fun other => covers_of_entrances ran
      fun first entrance entangled reached _ => covers first entrance entangled reached

/-- The induction is on the entrances, from above: whatever is above an entrance is met before it. -/
theorem complete_of_meets (ran : (resolveNouns classes).outcome = .ok resolved) (defined : name ∈ classes)
    (meets : MeetsEntrances classes name) : CompleteAt classes resolved name := by
  refine (complete_iff_covers_entrances ran defined).2 fun first entrance entangled reached => ?_
  induction first using (above_wellFounded classes).induction with
  | _ first ih =>
    rcases meets first entrance entangled reached with rfl | ⟨outside, outsideReached, edge, apart⟩
    · exact .refl _ _
    · have covers : Covers resolved name outside :=
        covers_of_entrances ran (fun earlier entrance entangled reached onward =>
          ih earlier ⟨onward.tail edge, fun back => apart (back.trans onward)⟩ entrance entangled reached)
          outsideReached
      rcases resolved_flows ran edge with flows | ⟨_, back⟩
      · exact covers.trans flows
      · exact absurd back apart

/-- The same classes, each with its name as its only word. -/
def nameTags (classes : Table NounClass) : Table NounClass :=
  classes.map fun name cls => { cls with words := .ofList [name] }

theorem rewords_nameTags (classes : Table NounClass) : Rewords classes (nameTags classes) := by
  intro name
  simp [nameTags, Std.ExtTreeMap.getElem?_map, Function.comp_def]

theorem ownWord_nameTags : OwnWord (nameTags classes) name word ↔ name ∈ classes ∧ word = name := by
  cases entry : classes[name]? with
  | none =>
    have undefined : name ∉ classes := fun defined => by simpa [entry] using entry_of_mem defined
    simp [OwnWord, nameTags, undefined]
  | some cls => simpa [OwnWord, nameTags, mem_of_entry entry] using (eq_comm : name = word ↔ word = name)

/-- Where the search comes into a group has nothing to do with words, and neither has who meets it there. -/
theorem Rewords.entrance_iff {other : Table NounClass} (rewords : Rewords classes other) :
    Entrance other name ↔ Entrance classes name := by
  simp only [Entrance, Mutual, rewords.reaches_eq, rewords.steps_eq]

theorem Rewords.meets_iff {other : Table NounClass} (rewords : Rewords classes other) :
    MeetsEntrances other name ↔ MeetsEntrances classes name := by
  simp only [MeetsEntrances, Entangled, Mutual, rewords.entrance_iff, rewords.reaches_eq, rewords.includes_eq]

/-- Which classes are complete whatever their words are. -/
theorem complete_for_all_wordings_iff (ran : (resolveNouns classes).outcome = .ok resolved) (defined : name ∈ classes) :
    (∀ other, Rewords classes other → ∃ resolved, (resolveNouns other).outcome = .ok resolved ∧
      CompleteAt other resolved name) ↔ MeetsEntrances classes name := by
  constructor
  · intro complete first entrance entangled reaches
    have tagged := rewords_nameTags classes
    obtain ⟨_, tagsRan, words, entry, exactly⟩ := complete (nameTags classes) tagged
    have firstDefined := reaches.defined defined
    have within : WordWithin (nameTags classes) name first :=
      ⟨first, tagged.reaches_eq ▸ reaches, ownWord_nameTags.2 ⟨firstDefined, rfl⟩⟩
    have owned : ∀ owner, OwnWord (nameTags classes) owner first → owner = first :=
      fun owner own => (ownWord_nameTags.1 own).2.symm
    have holds := (holds_of_entry entry).2 ((exactly first).2 within)
    have outside := outside_of_holds tagsRan (tagged.entrance_iff.2 entrance) (tagged.mem_iff.2 firstDefined)
      owned holds
    simpa only [tagged.reaches_eq, tagged.includes_eq, eq_comm] using outside
  · intro meets other rewords
    obtain ⟨found, otherRan⟩ := rewords.resolves ran
    exact ⟨found, otherRan, complete_of_meets otherRan (rewords.mem_iff.2 defined) (rewords.meets_iff.2 meets)⟩

/-- When a class is complete that takes in no class which takes it in. It is not always, and a class which takes in
others without being taken in by them still depends on where the search came into each group of entangled classes
that it reaches: it has all that it should exactly if it has all that the first class of each group has, and it does
so for all words that the classes may have exactly if it comes to each of these from outside the group. -/
theorem complete_off_cycles_iff (ran : (resolveNouns classes).outcome = .ok resolved) (defined : name ∈ classes)
    (offCycles : ∀ other, Mutual classes name other → other = name) :
    (CompleteAt classes resolved name ↔ ∀ first, Entrance classes first → Entangled classes first →
      Reaches classes name first → Covers resolved name first) ∧
    ((∀ other, Rewords classes other → ∃ resolved, (resolveNouns other).outcome = .ok resolved ∧
      CompleteAt other resolved name) ↔
      ∀ first, Entrance classes first → Entangled classes first → Reaches classes name first →
        ∃ outside, Reaches classes name outside ∧ Includes classes outside first ∧
          ¬ Reaches classes first outside) := by
  refine ⟨complete_iff_covers_entrances ran defined, ?_⟩
  rw [complete_for_all_wordings_iff ran defined]
  refine ⟨fun meets first entrance entangled reaches => ?_, fun meets first entrance entangled reaches =>
    .inr (meets first entrance entangled reaches)⟩
  rcases meets first entrance entangled reaches with rfl | outside
  · obtain ⟨partner, different, both⟩ := entangled
    exact absurd (offCycles partner both) different
  · exact outside

/-! ## A class off the cycle of two others -/

private theorem pantry_off_cycles (other : String) (both : Mutual pantry "sweets" other) : other = "sweets" := by
  cases both.2 with
  | refl => rfl
  | tail _ edge => exact absurd edge (pantry_sweets_untaken _)

private theorem pantry_sweets_flora : Reaches pantry "sweets" "flora" :=
  .head (by decide +kernel : Includes pantry "sweets" "fruit") pantry_flora_fruit.2

/-- The search comes into the cycle at its first class, and the class beside it takes in the second. So there are
words with which that class is not complete. -/
theorem pantry_sweets_not_always_complete : ∃ resolved, (resolveNouns pantry).outcome = .ok resolved ∧
    "sweets" ∈ pantry ∧ (∀ other, Mutual pantry "sweets" other → other = "sweets") ∧
    ¬ ∀ other, Rewords pantry other → ∃ resolved, (resolveNouns other).outcome = .ok resolved ∧
      CompleteAt other resolved "sweets" := by
  obtain ⟨resolved, ran⟩ := pantry_resolves
  have defined : "sweets" ∈ pantry := by decide +kernel
  refine ⟨resolved, ran, defined, pantry_off_cycles, fun complete => ?_⟩
  have entrance : Entrance pantry "flora" :=
    ⟨[], (resolveNouns pantry).steps.tail, by decide +kernel, fun _ _ => List.not_mem_nil⟩
  have entangled : Entangled pantry "flora" := ⟨"fruit", by decide, pantry_flora_fruit⟩
  obtain ⟨outside, _, edge, apart⟩ := (complete_off_cycles_iff ran defined pantry_off_cycles).2.1 complete
    "flora" entrance entangled pantry_sweets_flora
  have inside : ∀ name ∈ pantry.keys, Includes pantry name "flora" → name = "fruit" := by decide +kernel
  cases inside outside (Std.ExtTreeMap.mem_keys.2 edge.source_defined) edge
  exact apart pantry_flora_fruit.1

/-- A class that lies on no cycle need not be complete: this one lacks a word of the first class of the cycle. -/
theorem off_cycles_not_complete : ¬ ∀ (classes : Table NounClass) (resolved : Table WordSet) (name : String),
    (resolveNouns classes).outcome = .ok resolved → name ∈ classes →
    (∀ other, Mutual classes name other → other = name) → CompleteAt classes resolved name := by
  intro complete
  obtain ⟨resolved, ran⟩ := pantry_resolves
  obtain ⟨words, entry, exactly⟩ := complete pantry resolved "sweets" ran (by decide +kernel) pantry_off_cycles
  have member := (exactly "oak").2 ⟨"flora", pantry_sweets_flora, by decide +kernel⟩
  have lacking : (resolveNouns pantry).outcome.toOption.any (fun table => Holds table "sweets" "oak") = false := by
    decide +kernel
  simp [ran, Except.toOption, holds_of_entry entry, member] at lacking

end Wordbook
