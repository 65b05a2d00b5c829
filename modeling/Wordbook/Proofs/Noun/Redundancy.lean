import Wordbook.Proofs.Noun.Reachability

/-! References that change nothing. A class may refer to itself, to a class that is not defined, or once more to a class
that it refers to before: none of these tells the search anything new. The two searches, with such references and
without, are followed side by side. They differ in the steps that they note, but not in what is finished or gathered,
nor in the mismatch that stops them: a reference is only redundant behind one that has passed the same check. -/
namespace Wordbook
open Search

/-- The second list is the first with redundant references put in, where those in front refer to the classes `seen`. -/
inductive Padded (classes : Table NounClass) (owner : String) : List String → List String → List String → Prop where
  | done {seen : List String} : Padded classes owner seen [] []
  | kept {reference : String} {seen references padded : List String}
      (rest : Padded classes owner (className reference :: seen) references padded) :
      Padded classes owner seen (reference :: references) (reference :: padded)
  | added {reference : String} {seen references padded : List String}
      (redundant : className reference = owner ∨ className reference ∉ classes ∨ className reference ∈ seen)
      (rest : Padded classes owner seen references padded) :
      Padded classes owner seen references (reference :: padded)

/-- The second table has the classes of the first, with redundant references put in. -/
def Pads (classes other : Table NounClass) : Prop :=
  ∀ name : String, Option.Rel (fun cls twin : NounClass => twin.words = cls.words ∧ twin.countable = cls.countable ∧
    Padded classes name [] cls.includes twin.includes) classes[name]? other[name]?

/-- A class that is not defined adds nothing when `owner` refers to it, and neither does one that passes the check and
is on the way, or is finished with words that are gathered already. -/
def Spent (classes : Table NounClass) (way : List String) (owner : String) (words : WordSet) (search : Search)
    (name : String) : Prop :=
  name ∈ classes → Agree classes owner name ∧
    (name ∈ way ∨ ∃ held, search.finished[name]? = some held ∧ ∀ word ∈ held, word ∈ words)

/-- Two searches have finished the same classes with the same words, and come to the same. -/
inductive SameAnswer {α : Type} :
    Search × Except CountabilityMismatch α → Search × Except CountabilityMismatch α → Prop where
  | error {search second : Search} {mismatch : CountabilityMismatch} (same : second.finished = search.finished) :
      SameAnswer (search, .error mismatch) (second, .error mismatch)
  | ok {search second : Search} {found : α} (same : second.finished = search.finished) :
      SameAnswer (search, .ok found) (second, .ok found)

variable {classes other : Table NounClass} {way seen references padded : List String} {name owner reference : String}
variable {words more : WordSet} {search second before after : Search} {cls : NounClass}

theorem Pads.entry (pads : Pads classes other) (entry : classes[name]? = some cls) :
    ∃ twin, other[name]? = some twin ∧ twin.words = cls.words ∧ twin.countable = cls.countable ∧
      Padded classes name [] cls.includes twin.includes := by
  have both := pads name
  rw [entry] at both
  cases twinEntry : other[name]? with
  | none => rw [twinEntry] at both; cases both
  | some twin =>
    rw [twinEntry] at both
    cases both with
    | some same => exact ⟨twin, rfl, same⟩

theorem Pads.missing (pads : Pads classes other) (missing : classes[name]? = none) : other[name]? = none := by
  have both := pads name
  rw [missing] at both
  cases twinEntry : other[name]? with
  | none => rfl
  | some twin => rw [twinEntry] at both; cases both

/-! ## A redundant reference -/

/-- What is spent stays so while more is finished and gathered. -/
theorem Spent.later (spent : Spent classes way owner words before name) {words' : WordSet}
    (kept : ∀ (name : String) (held : WordSet), before.finished[name]? = some held → after.finished[name]? = some held)
    (grown : ∀ word ∈ words, word ∈ words') : Spent classes way owner words' after name := by
  intro defined
  obtain ⟨agrees, onWay | ⟨held, finished, within⟩⟩ := spent defined
  · exact ⟨agrees, .inl onWay⟩
  · exact ⟨agrees, .inr ⟨held, kept name held finished, fun word member => grown word (within word member)⟩⟩

/-- Following a reference to what is spent leaves only a note. -/
theorem gather_spent (pads : Pads classes other) (apart : Apart way search)
    (spent : Spent classes way owner words search (className reference)) (padded : List String) :
    ∃ after, after.finished = search.finished ∧
      gather other (visit other way) owner (flagOf classes owner) (reference :: padded) words search =
        gather other (visit other way) owner (flagOf classes owner) padded words after := by
  cases entry : classes[className reference]? with
  | none =>
    refine ⟨search.note (.undefinedInclusion owner (className reference)), rfl, ?_⟩
    simp only [gather, pads.missing entry]
  | some cls =>
    obtain ⟨twin, twinEntry, _, flag, _⟩ := pads.entry entry
    obtain ⟨agrees, place⟩ := spent (mem_of_entry entry)
    have passes : mismatch? owner (flagOf classes owner) (className reference) twin.countable = none :=
      mismatch_none_iff.2 fun own theirs ownSays theirSays => agrees own theirs ownSays (by simpa [entry, ← flag])
    rcases place with onWay | ⟨held, finished, within⟩
    · have unfinished := Std.ExtTreeMap.getElem?_eq_none (apart _ onWay)
      have nothing : words ∪ ∅ = words := union_eq_left (by simp)
      refine ⟨search.note (.cycleCut (className reference)), rfl, ?_⟩
      simp only [gather, twinEntry, passes, visit_of_mem_way unfinished onWay, nothing]
    · refine ⟨search, rfl, ?_⟩
      simp only [gather, twinEntry, passes, visit_of_finished finished, union_eq_left within]

/-- A redundant reference is to a class that is spent. -/
theorem spent_of_redundant
    (redundant : className reference = owner ∨ className reference ∉ classes ∨ className reference ∈ seen)
    (spent : ∀ name ∈ seen, Spent classes (owner :: way) owner words search name) :
    Spent classes (owner :: way) owner words search (className reference) := by
  rcases redundant with same | undefined | met
  · rw [same]
    exact fun _ => ⟨fun own theirs ownSays theirSays => Option.some.inj (ownSays.symm.trans theirSays),
      .inl List.mem_cons_self⟩
  · exact fun defined => absurd defined undefined
  · exact spent _ met

/-! ## Two searches side by side -/

section Gather
variable (pads : Pads classes other)
variable (below : ∀ included search second, Settled classes (owner :: way) search →
  second.finished = search.finished →
    SameAnswer (visit classes (owner :: way) included search) (visit other (owner :: way) included second))
include pads below

/-- Gathering comes to the same along references with redundant ones put in. -/
theorem gather_padded (words : WordSet) (padding : Padded classes owner seen references padded)
    (settled : Settled classes (owner :: way) search) (same : second.finished = search.finished)
    (spent : ∀ name ∈ seen, Spent classes (owner :: way) owner words search name) :
    SameAnswer (gather classes (visit classes (owner :: way)) owner (flagOf classes owner) references words search)
      (gather other (visit other (owner :: way)) owner (flagOf classes owner) padded words second) := by
  induction padding generalizing words search second with
  | done => exact .ok same
  | @added reference seen references padded redundant _ ih =>
    have apart : Apart (owner :: way) second := fun name onWay => same ▸ settled.apart name onWay
    have idle : Spent classes (owner :: way) owner words second (className reference) :=
      (spent_of_redundant redundant spent).later (fun _ _ finished => same ▸ finished) (fun _ member => member)
    obtain ⟨after, afterSame, gathered⟩ := gather_spent pads apart idle padded
    rw [gathered]
    exact ih words settled (afterSame.trans same) spent
  | @kept reference seen references padded _ ih =>
    simp only [gather]
    cases entry : classes[className reference]? with
    | none =>
      rw [pads.missing entry]
      refine ih words (settled.note _) same (List.forall_mem_cons.2 ⟨fun defined => ?_, spent⟩)
      exact absurd defined (by simpa using entry)
    | some cls =>
      obtain ⟨twin, twinEntry, _, flag, _⟩ := pads.entry entry
      simp only [twinEntry, flag]
      split
      · exact .error same
      · rename_i passes
        have defined := mem_of_entry entry
        have followed := below (className reference) search second settled same
        cases first : visit classes (owner :: way) (className reference) search with
        | mk middle outcome =>
          cases last : visit other (owner :: way) (className reference) second with
          | mk middle' outcome' =>
            rw [first, last] at followed
            cases followed with
            | error finished => exact .error finished
            | @ok _ _ more finished =>
              have course := visit_explores defined first
              refine ih (words ∪ more) (course.settled settled) finished (List.forall_mem_cons.2 ⟨fun _ => ⟨?_, ?_⟩, ?_⟩)
              · exact fun own theirs ownSays theirSays =>
                  mismatch_none_iff.1 passes own theirs ownSays (by simpa [entry] using theirSays)
              · rcases visit_result defined first with held | ⟨onWay, _⟩
                · exact .inr ⟨more, held, fun word member => Std.ExtTreeSet.mem_union_iff.2 (.inr member)⟩
                · exact .inl onWay
              · exact fun name met => (spent name met).later (fun _ _ => course.kept settled.apart)
                  fun word member => Std.ExtTreeSet.mem_union_iff.2 (.inl member)

end Gather

private theorem entered_padded (pads : Pads classes other) (settled : Settled classes way search)
    (same : second.finished = search.finished) (unfinished : search.finished[name]? = none) (fresh : name ∉ way)
    (entry : classes[name]? = some cls)
    (below : ∀ included search second, Settled classes (name :: way) search →
      second.finished = search.finished →
        SameAnswer (visit classes (name :: way) included search) (visit other (name :: way) included second)) :
    SameAnswer (visit classes way name search) (visit other way name second) := by
  obtain ⟨twin, twinEntry, ownWords, flag, padding⟩ := pads.entry entry
  rw [visit_of_fresh unfinished fresh entry, visit_of_fresh (same ▸ unfinished) fresh twinEntry, ownWords, flag,
    ← flagOf_of_entry entry]
  have enter : Settled classes (name :: way) (search.note (.entered name)) := settled.enter (by simpa using unfinished)
  have sameNoted : (second.note (.entered name)).finished = (search.note (.entered name)).finished := same
  have both := gather_padded pads below cls.words padding enter sameNoted (by simp)
  generalize gather classes _ _ _ _ _ _ = first at both ⊢
  generalize gather other _ _ _ _ _ _ = last at both ⊢
  cases both with
  | error same => exact .error same
  | ok same => exact .ok (by simp only [finish, same])

theorem visit_padded (pads : Pads classes other) (way : List String) (name : String) (settled : Settled classes way search)
    (same : second.finished = search.finished) :
    SameAnswer (visit classes way name search) (visit other way name second) := by
  induction way, name, search using visit.induct classes generalizing second with
  | case1 way name search words finished =>
    rw [visit_of_finished finished, visit_of_finished (same ▸ finished)]
    exact .ok same
  | case2 way name search unfinished onWay =>
    rw [visit_of_mem_way unfinished onWay, visit_of_mem_way (same ▸ unfinished) onWay]
    exact .ok same
  | case3 way name search unfinished fresh missing =>
    rw [visit_of_undefined unfinished fresh missing, visit_of_undefined (same ▸ unfinished) fresh (pads.missing missing)]
    exact .ok same
  | case4 way name search unfinished fresh cls entry _ _ _ ih =>
    exact entered_padded pads settled same unfinished fresh entry fun _ _ _ settled same => ih _ _ settled same
  | case5 way name search unfinished fresh cls entry _ _ _ ih =>
    exact entered_padded pads settled same unfinished fresh entry fun _ _ _ settled same => ih _ _ settled same

theorem visitAll_padded (pads : Pads classes other) {names : List String} {listed : Table WordSet}
    (defined : ∀ name ∈ names, name ∈ classes) (settled : Settled classes [] search)
    (same : second.finished = search.finished) :
    SameAnswer (visitAll classes names listed search) (visitAll other names listed second) := by
  induction names generalizing listed search second with
  | nil => exact .ok same
  | cons first rest ih =>
    obtain ⟨firstDefined, restDefined⟩ := List.forall_mem_cons.1 defined
    have visited := visit_padded pads [] first settled same
    rw [visitAll, visitAll]
    cases result : visit classes [] first search with
    | mk middle outcome =>
      cases result' : visit other [] first second with
      | mk middle' outcome' =>
        rw [result, result'] at visited
        cases visited with
        | error same => exact .error same
        | ok same => exact ih restDefined ((visit_explores firstDefined result).settled settled) same

/-- Classes with redundant references put in are resolved to the same, or fail with the same mismatch. -/
theorem Pads.outcome_eq (pads : Pads classes other) :
    (resolveNouns other).outcome = (resolveNouns classes).outcome := by
  have keys : other.keys = classes.keys := keys_eq_of_mem_iff fun name => by
    cases entry : classes[name]? with
    | none =>
      simp only [Std.ExtTreeMap.mem_iff_isSome_getElem?, entry, pads.missing entry]
    | some cls =>
      obtain ⟨twin, twinEntry, _⟩ := pads.entry entry
      simp only [mem_of_entry entry, mem_of_entry twinEntry]
  have both : SameAnswer (visitAll classes classes.keys ∅ {}) (visitAll other classes.keys ∅ {}) :=
    visitAll_padded pads (fun _ => Std.ExtTreeMap.mem_keys.1) (Settled.start classes) rfl
  simp only [resolveNouns, keys]
  generalize visitAll classes classes.keys ∅ {} = first at both ⊢
  generalize visitAll other classes.keys ∅ {} = last at both ⊢
  cases both <;> rfl

/-! ## One more reference -/

theorem Padded.refl (classes : Table NounClass) (owner : String) (seen references : List String) :
    Padded classes owner seen references references := by
  induction references generalizing seen with
  | nil => exact .done
  | cons reference rest ih => exact .kept (ih _)

/-- A reference put in behind others is redundant if one of these means the same class. -/
theorem Padded.insert {extra : String} {front back : List String} (redundant : className extra = owner ∨
      className extra ∉ classes ∨ className extra ∈ seen ∨ ∃ reference ∈ front, className reference = className extra) :
    Padded classes owner seen (front ++ back) (front ++ extra :: back) := by
  induction front generalizing seen with
  | nil => exact .added (by simpa using redundant) (.refl ..)
  | cons first front ih =>
    refine .kept (ih ?_)
    rcases redundant with same | undefined | met | ⟨reference, member, same⟩
    · exact .inl same
    · exact .inr (.inl undefined)
    · exact .inr (.inr (.inl (List.mem_cons_of_mem _ met)))
    · rcases List.mem_cons.1 member with rfl | member
      · exact .inr (.inr (.inl (same ▸ List.mem_cons_self)))
      · exact .inr (.inr (.inr ⟨reference, member, same⟩))

/-- Redundant references change nothing. Whatever reference of a class is put in at whatever place, if it is to the class
itself, to a class that is not defined, or to one that a reference in front of it is to already, the classes are
resolved to the same words, or resolution fails with the same mismatch. -/
theorem outcome_of_redundant_reference {extra : String} {front back : List String}
    (entry : classes[name]? = some cls) (split : cls.includes = front ++ back)
    (redundant : className extra = name ∨ className extra ∉ classes ∨
      ∃ reference ∈ front, className reference = className extra) :
    (resolveNouns (classes.insert name { cls with includes := front ++ extra :: back })).outcome =
      (resolveNouns classes).outcome := by
  apply Pads.outcome_eq
  intro found
  by_cases same : name = found
  · subst same
    rw [entry, Std.ExtTreeMap.getElem?_insert_self]
    refine .some ⟨rfl, rfl, ?_⟩
    rw [split]
    exact .insert (redundant.imp id (.imp id .inr))
  · rw [Std.ExtTreeMap.getElem?_insert, if_neg (by simpa using same)]
    cases classes[found]? with
    | none => exact .none
    | some other => exact .some ⟨rfl, rfl, .refl ..⟩

/-- The first of the classes, which is on a cycle, may as well refer to itself first and to the second class twice. -/
theorem pantry_redundant_references : ∃ cls, pantry["flora"]? = some cls ∧ cls.includes = ["fruit.json"] ∧
    (resolveNouns (pantry.insert "flora" { cls with includes := ["flora", "fruit.json"] })).outcome =
      (resolveNouns pantry).outcome ∧
    (resolveNouns (pantry.insert "flora" { cls with includes := ["fruit.json", "fruit"] })).outcome =
      (resolveNouns pantry).outcome := by
  have entry : pantry["flora"]? = some { words := .ofList ["oak"], includes := ["fruit.json"] } := rfl
  have front : ["fruit.json"] = [] ++ ["fruit.json"] := rfl
  have back : ["fruit.json"] = ["fruit.json"] ++ [] := rfl
  exact ⟨_, entry, rfl, outcome_of_redundant_reference entry front (.inl (by decide +kernel)),
    outcome_of_redundant_reference entry back (.inr (.inr ⟨"fruit.json", by decide, by decide +kernel⟩))⟩

end Wordbook
