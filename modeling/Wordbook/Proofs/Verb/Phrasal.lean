import Wordbook.Proofs.Verb.Decoding

/-! Phrasal verbs read back. A token is cut at its underscores, and each kind of phrasal verb is written in a number of
segments of its own, the second of them empty just where there is a particle. So the segments tell the kind and the
parts, and a token is read as a phrasal verb exactly if it is how that one is written. -/
namespace Wordbook

namespace PhrasalVerb

/-- A phrasal verb that can be written: there is a verb, and no part has an underscore. -/
structure WellFormed (verb : PhrasalVerb) : Prop where
  nonempty : verb.main ≠ ""
  main : Unbroken verb.main
  particle : ∀ part ∈ verb.particle?, Unbroken part
  preposition : ∀ part ∈ verb.preposition?, Unbroken part

/-- The segments that a phrasal verb is written in. The empty one sets off the particle. -/
def pieces : PhrasalVerb → List String
  | plain main => [main]
  | particle main part => [main, "", part]
  | preposition main prep => [main, prep]
  | particlePreposition main part prep => [main, "", part, prep]

/-- Nothing can follow but what belongs to the last part. An empty preposition is not the last part: with another
underscore behind it, it sets off a particle. -/
def Full : PhrasalVerb → Prop
  | plain _ | particle _ _ => False
  | preposition _ prep => prep ≠ ""
  | particlePreposition _ _ _ => True

/-- A token that no phrasal verb is written as: it has no verb, or an underscore too many. -/
inductive NoMember : String → Prop
  | empty : NoMember ""
  | headless {rest : String} : NoMember ("_" ++ rest)
  | overlong {verb : PhrasalVerb} {rest : String} : verb.WellFormed → verb.Full →
      NoMember (verb.member ++ "_" ++ rest)

end PhrasalVerb

variable {token rest text : String} {texts front back : List String} {verb other : PhrasalVerb}

/-! ## Segments -/

theorem unbroken_of_mem_segments (member : text ∈ segments token) : Unbroken text := by
  obtain ⟨letters, found, rfl⟩ := List.mem_map.1 member
  rw [Unbroken, String.toList_ofList]
  exact not_mem_of_mem_splitOn found

theorem segments_ne_nil (token : String) : segments token ≠ [] := by
  simp [segments]

/-- Segments without underscores are those of some text. -/
theorem exists_segments (unbroken : ∀ text ∈ texts, Unbroken text) (nonempty : texts ≠ []) :
    ∃ token, segments token = texts := by
  have apart : ∀ letters ∈ texts.map String.toList, '_' ∉ letters := by simpa [Unbroken] using unbroken
  have cut := List.splitOn_intercalate '_' apart (by simpa using nonempty)
  refine ⟨String.ofList (['_'].intercalate (texts.map String.toList)), ?_⟩
  simp [segments, cut]

/-- A text can be cut behind any of its segments but the last. -/
theorem exists_append_of_segments (cut : segments token = front ++ back) (nonemptyFront : front ≠ [])
    (nonemptyBack : back ≠ []) : ∃ before rest, segments before = front ∧ token = before ++ "_" ++ rest := by
  have unbroken : ∀ text ∈ front ++ back, Unbroken text := fun text member =>
    unbroken_of_mem_segments (cut ▸ member)
  obtain ⟨unbrokenFront, unbrokenBack⟩ := List.forall_mem_append.1 unbroken
  obtain ⟨before, rfl⟩ := exists_segments unbrokenFront nonemptyFront
  obtain ⟨rest, rfl⟩ := exists_segments unbrokenBack nonemptyBack
  exact ⟨before, rest, rfl, segments_injective (by rw [cut, segments_append])⟩

/-! ## Writing and reading -/

namespace PhrasalVerb

theorem pieces_ne_nil (verb : PhrasalVerb) : verb.pieces ≠ [] := by
  cases verb <;> exact List.cons_ne_nil _ _

theorem segments_member (wellFormed : verb.WellFormed) : segments verb.member = verb.pieces := by
  have mainAlone := segments_of_unbroken wellFormed.main
  have particleAlone : ∀ part ∈ verb.particle?, segments part = [part] := fun part given =>
    segments_of_unbroken (wellFormed.particle part given)
  have prepositionAlone : ∀ prep ∈ verb.preposition?, segments prep = [prep] := fun prep given =>
    segments_of_unbroken (wellFormed.preposition prep given)
  have doubled (front back : String) : segments (front ++ "__" ++ back) = segments front ++ "" :: segments back :=
    segments_mark rfl (by decide)
  cases verb <;> simp_all [main, particle?, preposition?, member, pieces, segments_append]

/-- Reading goes by the segments alone. -/
theorem ofMember?_eq_some_iff_segments :
    ofMember? token = some verb ↔ verb.main ≠ "" ∧ segments token = verb.pieces := by
  constructor
  · intro read
    unfold ofMember? at read
    unfold segments
    split at read <;> cases read <;> simp_all [main, pieces]
  · rintro ⟨nonempty, same⟩
    have letters : token.toList.splitOn '_' = verb.pieces.map String.toList := by
      simp [← same, segments, Function.comp_def]
    obtain ⟨first, others, spelled⟩ : ∃ first others, verb.main.toList = first :: others :=
      List.exists_cons_of_ne_nil (by simpa using nonempty)
    have whole : String.ofList (first :: others) = verb.main := by rw [← spelled, String.ofList_toList]
    unfold ofMember?
    cases verb <;> simp_all [main, pieces]

/-- What is read from a token can be written. -/
theorem WellFormed.of_ofMember? (read : ofMember? token = some verb) : verb.WellFormed := by
  obtain ⟨nonempty, cut⟩ := ofMember?_eq_some_iff_segments.1 read
  have unbroken : ∀ piece ∈ verb.pieces, Unbroken piece := fun piece listed =>
    unbroken_of_mem_segments (cut ▸ listed)
  obtain ⟨particle, preposition⟩ := ofMember?_unbroken read
  refine ⟨nonempty, ?_, particle, preposition⟩
  cases verb <;> exact unbroken _ List.mem_cons_self

/-- Reading is the inverse of writing. -/
theorem ofMember?_eq_some_iff : ofMember? token = some verb ↔ verb.WellFormed ∧ verb.member = token := by
  constructor
  · intro read
    have wellFormed := WellFormed.of_ofMember? read
    have cut := (ofMember?_eq_some_iff_segments.1 read).2
    exact ⟨wellFormed, segments_injective ((segments_member wellFormed).trans cut.symm)⟩
  · rintro ⟨wellFormed, rfl⟩
    exact ofMember?_eq_some_iff_segments.2 ⟨wellFormed.nonempty, segments_member wellFormed⟩

/-! ## Tokens that are not read -/

/-- With more behind it, a phrasal verb that has no room for it is none. -/
theorem Full.pieces_append_ne (full : verb.Full) (nonempty : back ≠ []) : verb.pieces ++ back ≠ other.pieces := by
  obtain ⟨first, others, rfl⟩ := List.exists_cons_of_ne_nil nonempty
  cases verb <;> cases other <;> simp_all [Full, pieces]

theorem NoMember.ofMember?_eq_none (noMember : NoMember token) : ofMember? token = none := by
  have differs (verb : PhrasalVerb) : ofMember? token ≠ some verb := by
    rw [Ne, ofMember?_eq_some_iff_segments]
    rintro ⟨nonempty, cut⟩
    cases noMember with
    | empty =>
      rw [segments_of_unbroken (by decide)] at cut
      cases verb <;> simp_all [main, pieces]
    | @headless rest =>
      have parted : "_" ++ rest = "" ++ "_" ++ rest := rfl
      rw [parted, segments_append, segments_of_unbroken (by decide)] at cut
      cases verb <;> simp_all [main, pieces]
    | overlong wellFormed full =>
      rw [segments_append, segments_member wellFormed] at cut
      exact full.pieces_append_ne (segments_ne_nil _) cut
  exact Option.eq_none_iff_forall_ne_some.2 differs

theorem NoMember.of_verbless (cut : segments token = "" :: back) : NoMember token := by
  have bare : segments "" = [""] := segments_of_unbroken (by decide)
  cases back with
  | nil =>
    obtain rfl : token = "" := segments_injective (cut.trans bare.symm)
    exact .empty
  | cons next others =>
    have parted : segments token = [""] ++ next :: others := cut
    obtain ⟨before, rest, cutBefore, rfl⟩ :=
      exists_append_of_segments parted (List.cons_ne_nil _ _) (List.cons_ne_nil _ _)
    obtain rfl : before = "" := segments_injective (cutBefore.trans bare.symm)
    exact .headless

theorem Full.noMember (full : verb.Full) (nonempty : verb.main ≠ "") (cut : segments token = verb.pieces ++ back)
    (more : back ≠ []) : NoMember token := by
  obtain ⟨before, rest, cutBefore, rfl⟩ := exists_append_of_segments cut verb.pieces_ne_nil more
  obtain ⟨wellFormed, rfl⟩ := ofMember?_eq_some_iff.1 (ofMember?_eq_some_iff_segments.2 ⟨nonempty, cutBefore⟩)
  exact .overlong wellFormed full

/-- One segment, two of them, or three or four of which the second is empty, would have been read. -/
theorem NoMember.of_ofMember? (unread : ofMember? token = none) : NoMember token := by
  have differs (verb : PhrasalVerb) (nonempty : verb.main ≠ "") : segments token ≠ verb.pieces := by
    intro cut
    rw [ofMember?_eq_some_iff_segments.2 ⟨nonempty, cut⟩] at unread
    cases unread
  cases cut : segments token with
  | nil => exact absurd cut (segments_ne_nil token)
  | cons first behind =>
    by_cases verbless : first = ""
    · exact .of_verbless (verbless ▸ cut)
    · rcases behind with _ | ⟨second, _ | ⟨third, others⟩⟩
      · exact absurd cut (differs (.plain first) verbless)
      · exact absurd cut (differs (.preposition first second) verbless)
      · by_cases particled : second = ""
        · subst particled
          rcases others with _ | ⟨fourth, _ | ⟨fifth, more⟩⟩
          · exact absurd cut (differs (.particle first third) verbless)
          · exact absurd cut (differs (.particlePreposition first third fourth) verbless)
          · have full : (particlePreposition first third fourth).Full := trivial
            exact full.noMember verbless cut (List.cons_ne_nil fifth more)
        · have full : (preposition first second).Full := particled
          exact full.noMember verbless cut (List.cons_ne_nil third others)

/-- A token is read as a phrasal verb exactly if this can be written and the token is how it is written. So the tokens
that are not read are those that no phrasal verb is written as: those that are empty, begin with an underscore, or have
one behind a phrasal verb that nothing can follow. -/
theorem members_read_exactly (token : String) :
    (∀ verb, ofMember? token = some verb ↔ verb.WellFormed ∧ verb.member = token) ∧
    (ofMember? token = none ↔ ¬ ∃ verb, PhrasalVerb.WellFormed verb ∧ verb.member = token) ∧
    (ofMember? token = none ↔ NoMember token) := by
  refine ⟨fun verb => ofMember?_eq_some_iff, ?_, .of_ofMember?, NoMember.ofMember?_eq_none⟩
  rw [Option.eq_none_iff_forall_ne_some, not_exists]
  exact forall_congr' fun verb => not_congr ofMember?_eq_some_iff

end PhrasalVerb

end Wordbook
