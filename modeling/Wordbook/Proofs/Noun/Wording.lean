import Wordbook.Proofs.Noun.Inclusion

/-! The words of noun classes do not steer the search. Two tables that define the same classes with other words make
it take the same steps and come to the same mismatch or to none, and a relation between the words of the two that
goes through unions holds of all that the two searches gather. -/
namespace Wordbook
open Search

/-- Two tables define the same classes with the same flags and references. The words may differ. -/
def Rewords (classes other : Table NounClass) : Prop :=
  ∀ name : String, (classes[name]?).map (fun cls : NounClass => (cls.countable, cls.includes)) =
    (other[name]?).map fun cls : NounClass => (cls.countable, cls.includes)

/-- The own words of each class are related to those of its twin, nothing to nothing, and unions to unions. -/
structure Relates (R : WordSet → WordSet → Prop) (classes other : Table NounClass) : Prop where
  own : ∀ (name : String) (cls twin : NounClass), classes[name]? = some cls → other[name]? = some twin →
    R cls.words twin.words
  empty : R ∅ ∅
  union : ∀ words more words' more', R words words' → R more more' → R (words ∪ more) (words' ∪ more')

/-- Two searches have taken the same steps and finished the same classes, with related words. -/
structure Alike (R : WordSet → WordSet → Prop) (search second : Search) : Prop where
  steps : second.steps = search.steps
  finished : ∀ name : String, Option.Rel R search.finished[name]? second.finished[name]?

/-- Two searches have come to the same mismatch, or to related results. -/
inductive AlikeResult {α : Type} (S : α → α → Prop) (R : WordSet → WordSet → Prop) :
    Search × Except CountabilityMismatch α → Search × Except CountabilityMismatch α → Prop where
  | error {search second : Search} {mismatch : CountabilityMismatch} (alike : Alike R search second) :
      AlikeResult S R (search, .error mismatch) (second, .error mismatch)
  | ok {search second : Search} {found twin : α} (alike : Alike R search second) (related : S found twin) :
      AlikeResult S R (search, .ok found) (second, .ok twin)

variable {R : WordSet → WordSet → Prop} {classes other : Table NounClass}
variable {name included : String} {words words' : WordSet} {search second : Search}

theorem Rewords.entry {cls : NounClass} (rewords : Rewords classes other) (entry : classes[name]? = some cls) :
    ∃ twin, other[name]? = some twin ∧ twin.countable = cls.countable ∧ twin.includes = cls.includes := by
  have same := rewords name
  rw [entry] at same
  cases twin : other[name]? with
  | none => simp [twin] at same
  | some twin => simpa [twin, eq_comm] using same

theorem Rewords.missing (rewords : Rewords classes other) (missing : classes[name]? = none) :
    other[name]? = none := by
  simpa [missing] using (rewords name).symm

theorem Rewords.symm (rewords : Rewords classes other) : Rewords other classes := fun name => (rewords name).symm

private theorem Rewords.includes (rewords : Rewords classes other) (edge : Includes classes name included) :
    Includes other name included := by
  obtain ⟨defined, cls, entry, reference, member, names⟩ := edge
  obtain ⟨_, includedEntry⟩ := entry_of_mem defined
  obtain ⟨_, includedTwin, _, _⟩ := rewords.entry includedEntry
  obtain ⟨twin, twinEntry, _, references⟩ := rewords.entry entry
  exact ⟨mem_of_entry includedTwin, twin, twinEntry, reference, references ▸ member, names⟩

theorem Rewords.includes_eq (rewords : Rewords classes other) : Includes other = Includes classes := by
  funext name included
  exact propext ⟨rewords.symm.includes, rewords.includes⟩

theorem Rewords.reaches_eq (rewords : Rewords classes other) : Reaches other = Reaches classes := by
  simp only [Reaches, rewords.includes_eq]

theorem Rewords.mem_iff (rewords : Rewords classes other) : name ∈ other ↔ name ∈ classes := by
  have same := congrArg Option.isSome (rewords name)
  rw [Option.isSome_map, Option.isSome_map] at same
  rw [Std.ExtTreeMap.mem_iff_isSome_getElem?, Std.ExtTreeMap.mem_iff_isSome_getElem?, same]

theorem Rewords.keys_eq (rewords : Rewords classes other) : other.keys = classes.keys :=
  keys_eq_of_mem_iff fun _ => rewords.mem_iff

theorem Alike.note (alike : Alike R search second) (step : SearchStep) :
    Alike R (search.note step) (second.note step) :=
  ⟨by simp [Search.note, alike.steps], alike.finished⟩

theorem Alike.finish (alike : Alike R search second) (related : R words words') :
    Alike R (search.finish name words) (second.finish name words') where
  steps := alike.steps
  finished found := by
    rw [getElem?_finish, getElem?_finish]
    split
    · exact .some related
    · exact alike.finished found

theorem Alike.held (alike : Alike R search second) (finished : search.finished[name]? = some words) :
    ∃ twin, second.finished[name]? = some twin ∧ R words twin := by
  have both := alike.finished name
  rw [finished] at both
  cases twin : second.finished[name]? with
  | none => rw [twin] at both; cases both
  | some held =>
    rw [twin] at both
    cases both with
    | some related => exact ⟨held, rfl, related⟩

theorem Alike.unfinished (alike : Alike R search second) (unfinished : search.finished[name]? = none) :
    second.finished[name]? = none := by
  have both := alike.finished name
  rw [unfinished] at both
  cases twin : second.finished[name]? with
  | none => rfl
  | some held => rw [twin] at both; cases both

/-- Gathering along the same references goes alike if following each of them does. -/
theorem gather_alike (name : String) (rewords : Rewords classes other) (relates : Relates R classes other)
    {follow follow' : String → Search → Search × Except CountabilityMismatch WordSet}
    (below : ∀ included search second, Alike R search second →
      AlikeResult R R (follow included search) (follow' included second))
    (countable : Option Bool) (references : List String) (related : R words words') (alike : Alike R search second) :
    AlikeResult R R (gather classes follow name countable references words search)
      (gather other follow' name countable references words' second) := by
  induction references generalizing words words' search second with
  | nil => exact .ok alike related
  | cons reference rest ih =>
    simp only [gather]
    cases entry : classes[className reference]? with
    | none =>
      rw [rewords.missing entry]
      exact ih related (alike.note _)
    | some cls =>
      obtain ⟨twin, twinEntry, flag, _⟩ := rewords.entry entry
      simp only [twinEntry, flag]
      split
      · exact .error alike
      · have followed := below (className reference) search second alike
        cases first : follow (className reference) search with
        | mk middle outcome =>
          cases last : follow' (className reference) second with
          | mk middle' outcome' =>
            rw [first, last] at followed
            cases followed with
            | error alike => exact .error alike
            | ok alike more => exact ih (relates.union _ _ _ _ related more) alike

private theorem entered_alike {cls : NounClass} {way : List String} (rewords : Rewords classes other)
    (relates : Relates R classes other) (alike : Alike R search second)
    (unfinished : search.finished[name]? = none) (fresh : name ∉ way) (entry : classes[name]? = some cls)
    (below : ∀ included search second, Alike R search second →
      AlikeResult R R (visit classes (name :: way) included search) (visit other (name :: way) included second)) :
    AlikeResult R R (visit classes way name search) (visit other way name second) := by
  obtain ⟨twin, twinEntry, flag, references⟩ := rewords.entry entry
  rw [visit_of_fresh unfinished fresh entry, visit_of_fresh (alike.unfinished unfinished) fresh twinEntry,
    flag, references]
  have both := gather_alike name rewords relates below cls.countable cls.includes
    (relates.own name cls twin entry twinEntry) (alike.note (.entered name))
  generalize gather classes _ _ _ _ _ _ = first at both ⊢
  generalize gather other _ _ _ _ _ _ = last at both ⊢
  cases both with
  | error alike => exact .error alike
  | ok alike related => exact .ok (alike.finish related) related

theorem visit_alike (rewords : Rewords classes other) (relates : Relates R classes other) (way : List String)
    (name : String) (search second : Search) (alike : Alike R search second) :
    AlikeResult R R (visit classes way name search) (visit other way name second) := by
  induction way, name, search using visit.induct classes generalizing second with
  | case1 way name search words finished =>
    obtain ⟨twin, twinFinished, related⟩ := alike.held finished
    rw [visit_of_finished finished, visit_of_finished twinFinished]
    exact .ok alike related
  | case2 way name search unfinished onWay =>
    rw [visit_of_mem_way unfinished onWay, visit_of_mem_way (alike.unfinished unfinished) onWay]
    exact .ok (alike.note _) relates.empty
  | case3 way name search unfinished fresh missing =>
    rw [visit_of_undefined unfinished fresh missing,
      visit_of_undefined (alike.unfinished unfinished) fresh (rewords.missing missing)]
    exact .ok (alike.note _) relates.empty
  | case4 way name search unfinished fresh cls entry _ _ _ ih =>
    exact entered_alike rewords relates alike unfinished fresh entry ih
  | case5 way name search unfinished fresh cls entry _ _ _ ih =>
    exact entered_alike rewords relates alike unfinished fresh entry ih

/-- Tables with related words under every name. -/
def RelatedTables (R : WordSet → WordSet → Prop) (table second : Table WordSet) : Prop :=
  ∀ name : String, Option.Rel R table[name]? second[name]?

theorem RelatedTables.entry {table second : Table WordSet} (related : RelatedTables R table second)
    (entry : table[name]? = some words) (entry' : second[name]? = some words') : R words words' := by
  have both := related name
  rw [entry, entry'] at both
  cases both with
  | some holds => exact holds

theorem visitAll_alike (rewords : Rewords classes other) (relates : Relates R classes other) (names : List String)
    {listed listed' : Table WordSet} (related : RelatedTables R listed listed') (alike : Alike R search second) :
    AlikeResult (RelatedTables R) R (visitAll classes names listed search) (visitAll other names listed' second) := by
  induction names generalizing listed listed' search second with
  | nil => exact .ok alike related
  | cons first rest ih =>
    have visited := visit_alike rewords relates [] first search second alike
    rw [visitAll, visitAll]
    generalize visit classes [] first search = result at visited ⊢
    generalize visit other [] first second = result' at visited ⊢
    cases visited with
    | error alike => exact .error alike
    | ok alike found =>
      refine ih (fun name => ?_) alike
      rw [Std.ExtTreeMap.getElem?_insert, Std.ExtTreeMap.getElem?_insert]
      split
      · exact .some found
      · exact related name

/-- Resolutions of classes that differ in their words alone. -/
theorem resolveNouns_alike (rewords : Rewords classes other) (relates : Relates R classes other) :
    (resolveNouns other).steps = (resolveNouns classes).steps ∧
      ((∃ mismatch, (resolveNouns classes).outcome = .error mismatch ∧ (resolveNouns other).outcome = .error mismatch) ∨
      ∃ resolved resolved', (resolveNouns classes).outcome = .ok resolved ∧
        (resolveNouns other).outcome = .ok resolved' ∧ RelatedTables R resolved resolved') := by
  have nothing : RelatedTables R ∅ ∅ := fun _ => by simp
  have both := visitAll_alike rewords relates classes.keys nothing (⟨rfl, fun _ => by simp⟩ : Alike R {} {})
  simp only [resolveNouns, rewords.keys_eq]
  generalize visitAll classes classes.keys ∅ {} = result at both ⊢
  generalize visitAll other classes.keys ∅ {} = result' at both ⊢
  cases both with
  | error alike => exact ⟨by simp [alike.steps], .inl ⟨_, rfl, rfl⟩⟩
  | ok alike related => exact ⟨by simp [alike.steps], .inr ⟨_, _, rfl, rfl, related⟩⟩

private theorem relates_true : Relates (fun _ _ => True) classes other :=
  ⟨fun _ _ _ _ _ => trivial, trivial, fun _ _ _ _ _ _ => trivial⟩

/-- The search takes the same steps whatever the words are. -/
theorem Rewords.steps_eq (rewords : Rewords classes other) :
    (resolveNouns other).steps = (resolveNouns classes).steps :=
  (resolveNouns_alike rewords relates_true).1

/-- Whether resolution succeeds does not depend on the words. -/
theorem Rewords.resolves {resolved : Table WordSet} (rewords : Rewords classes other)
    (ran : (resolveNouns classes).outcome = .ok resolved) :
    ∃ resolved, (resolveNouns other).outcome = .ok resolved := by
  rcases (resolveNouns_alike rewords relates_true).2 with ⟨_, failed, _⟩ | ⟨_, found, _, otherRan, _⟩
  · rw [ran] at failed
    cases failed
  · exact ⟨found, otherRan⟩

end Wordbook
