import Mathlib.Data.List.Nodup
import Wordbook.Verb.Frame
import Wordbook.Verb.Phrasal

/-! Tags read back. A tag is cut at its underscores, and the first segment that announces a particle or a preposition
ends its head; what is announced is one segment, as particles and prepositions have no underscore. So the parts of a
tag can be recovered from it, and no two frames share one that differ in more than an `It` for a subject. -/
namespace Wordbook

/-- A text without an underscore. -/
def Unbroken (text : String) : Prop := '_' ∉ text.toList

instance (text : String) : Decidable (Unbroken text) := inferInstanceAs (Decidable (¬ _))

/-- The segments of a text between its underscores. -/
def segments (text : String) : List String := (text.toList.splitOn '_').map String.ofList

/-- What a tag is made of. A tag without insertions is all head. -/
structure TagParts where
  leading : List String
  particle : Option String
  preposition : Option String
  trailing : List String
deriving DecidableEq

/-- The segments of an insertion behind its mark. -/
def insertion (mark : String) : Option String → List String
  | some part => [mark, part]
  | none => []

/-- The insertion that the segments begin with, if any, and the segments that follow it. -/
def takeInsertion (mark : String) : List String → Option String × List String
  | [] => (none, [])
  | [segment] => (none, [segment])
  | segment :: part :: rest => if segment = mark then (some part, rest) else (none, segment :: part :: rest)

/-- A segment announces an insertion. -/
def isMark (segment : String) : Bool := segment == "prt" || segment == "prp"

/-- The parts of a tag, found from its segments alone. -/
def TagParts.ofSegments (segments : List String) : TagParts :=
  let fromMark := takeInsertion "prt" (segments.dropWhile (!isMark ·))
  let behindParticle := takeInsertion "prp" fromMark.2
  { leading := segments.takeWhile (!isMark ·)
    particle := fromMark.1
    preposition := behindParticle.1
    trailing := behindParticle.2 }

namespace FramePattern

/-- The segments of the tail. The empty tail has none, not an empty one. -/
def tailSegments (pattern : FramePattern) : List String :=
  if pattern.tail = "" then [] else segments pattern.tail

/-- The parts that the tags of a pattern are meant to have. -/
def tagParts (pattern : FramePattern) (particle preposition : Option String) : TagParts :=
  if particle.isNone && preposition.isNone then ⟨segments pattern.base, none, none, []⟩
  else ⟨segments pattern.head, particle, preposition, pattern.tailSegments⟩

end FramePattern

/-- The slots with `NP` in the place of a leading `It`. -/
def plainSubject : List String → List String
  | "It" :: rest => "NP" :: rest
  | slots => slots

variable {text front back mark tag : String} {leading trailing slots : List String}
variable {particle preposition part : Option String} {pattern other : FramePattern}

/-! ## Segments -/

theorem segments_append (front back : String) : segments (front ++ "_" ++ back) = segments front ++ segments back := by
  simp [segments, List.splitOn_append_cons_self]

theorem segments_of_unbroken (unbroken : Unbroken text) : segments text = [text] := by
  simp [segments, List.splitOn_eq_singleton unbroken]

theorem segments_injective (same : segments front = segments back) : front = back := by
  have pieces : front.toList.splitOn '_' = back.toList.splitOn '_' :=
    List.map_injective_iff.2 (fun _ _ equal => String.ofList_injective equal) same
  apply String.toList_injective
  calc front.toList = ['_'].intercalate (front.toList.splitOn '_') := (List.intercalate_splitOn '_').symm
    _ = ['_'].intercalate (back.toList.splitOn '_') := by rw [pieces]
    _ = back.toList := List.intercalate_splitOn '_'

theorem not_mem_of_mem_splitOn {letters piece : List Char} (member : piece ∈ letters.splitOn '_') : '_' ∉ piece := by
  induction letters generalizing piece with
  | nil =>
    rw [List.splitOn_nil, List.mem_singleton] at member
    rw [member]
    exact List.not_mem_nil
  | cons first rest ih =>
    rw [List.splitOn_cons_eq_if_modifyHead] at member
    split at member
    · rcases List.mem_cons.1 member with rfl | member
      · exact List.not_mem_nil
      · exact ih member
    · rename_i letter
      cases pieces : rest.splitOn '_' with
      | nil => exact absurd pieces (List.splitOn_ne_nil _ _)
      | cons head tail =>
        rw [pieces] at member ih
        rcases List.mem_cons.1 member with rfl | member
        · rw [List.mem_cons, not_or]
          exact ⟨fun same => letter (by rw [← same]; rfl), ih List.mem_cons_self⟩
        · exact ih (List.mem_cons_of_mem _ member)

/-- Members are cut at their underscores, so what they say of particle and preposition has none. -/
theorem ofMember?_unbroken {member : String} {verb : PhrasalVerb} (read : PhrasalVerb.ofMember? member = some verb) :
    (∀ part ∈ verb.particle?, Unbroken part) ∧ ∀ part ∈ verb.preposition?, Unbroken part := by
  have unbroken : ∀ piece ∈ member.toList.splitOn '_', Unbroken (String.ofList piece) := by
    intro piece found
    rw [Unbroken, String.toList_ofList]
    exact not_mem_of_mem_splitOn found
  unfold PhrasalVerb.ofMember? at read
  split at read
  all_goals cases read
  all_goals simp_all [PhrasalVerb.particle?, PhrasalVerb.preposition?]

/-! ## The segments of a tag -/

/-- A text put behind a mark adds the mark and itself. -/
theorem segments_mark {joint : String} (spelled : joint = "_" ++ mark ++ "_") (unbroken : Unbroken mark) :
    segments (front ++ joint ++ back) = segments front ++ mark :: segments back := by
  have parted : front ++ joint ++ back = front ++ "_" ++ mark ++ "_" ++ back := by
    simp only [spelled, String.append_assoc]
  rw [parted, segments_append, segments_append, segments_of_unbroken unbroken, List.append_assoc,
    List.singleton_append]

theorem segments_insertedTag (particleUnbroken : ∀ part ∈ particle, Unbroken part)
    (prepositionUnbroken : ∀ part ∈ preposition, Unbroken part) :
    segments (pattern.insertedTag particle preposition) =
      segments pattern.head ++ insertion "prt" particle ++ insertion "prp" preposition ++ pattern.tailSegments := by
  have prt (front back : String) : segments (front ++ "_prt_" ++ back) = segments front ++ "prt" :: segments back :=
    segments_mark rfl (by decide +kernel)
  have prp (front back : String) : segments (front ++ "_prp_" ++ back) = segments front ++ "prp" :: segments back :=
    segments_mark rfl (by decide +kernel)
  have particled (text : String) (given : particle = some text) : segments text = [text] :=
    segments_of_unbroken (particleUnbroken text given)
  have prepositioned (text : String) (given : preposition = some text) : segments text = [text] :=
    segments_of_unbroken (prepositionUnbroken text given)
  by_cases bare : pattern.tail = ""
  all_goals cases particle
  all_goals cases preposition
  all_goals simp_all [FramePattern.insertedTag, FramePattern.tailSegments, insertion, segments_append]

/-! ## Reading back -/

theorem takeInsertion_insertion (ends : trailing.head? ≠ some mark) :
    takeInsertion mark (insertion mark part ++ trailing) = (part, trailing) := by
  cases part with
  | some part => simp [insertion, takeInsertion]
  | none =>
    match trailing with
    | [] => rfl
    | [segment] => rfl
    | segment :: next :: rest =>
      have different : segment ≠ mark := by simpa using ends
      simp [insertion, takeInsertion, different]

/-- The parts of a tag are found where neither its head nor its tail has a mark. A tail needs an insertion before it,
or it would be taken for a part of the head. -/
theorem ofSegments_append (leadingPlain : ∀ segment ∈ leading, isMark segment = false)
    (trailingPlain : ∀ segment ∈ trailing, isMark segment = false)
    (inserted : particle.isNone = true → preposition.isNone = true → trailing = []) :
    TagParts.ofSegments (leading ++ insertion "prt" particle ++ insertion "prp" preposition ++ trailing) =
      ⟨leading, particle, preposition, trailing⟩ := by
  have head : ∀ segment ∈ leading, (!isMark segment) = true := by simpa using leadingPlain
  have ends (mark : String) (marks : isMark mark = true) : trailing.head? ≠ some mark := by
    intro first
    have plain := trailingPlain mark (List.mem_of_head? first)
    simp [plain] at marks
  have rest : (insertion "prt" particle ++ insertion "prp" preposition ++ trailing).takeWhile (!isMark ·) = [] ∧
      (insertion "prt" particle ++ insertion "prp" preposition ++ trailing).dropWhile (!isMark ·) =
        insertion "prt" particle ++ (insertion "prp" preposition ++ trailing) := by
    cases particle with
    | some particle => simp [insertion, isMark]
    | none =>
      cases preposition with
      | some preposition => simp [insertion, isMark]
      | none => simp [insertion, inserted rfl rfl]
  have prepositionFirst : (insertion "prp" preposition ++ trailing).head? ≠ some "prt" := by
    cases preposition with
    | some preposition => simp [insertion]
    | none => simpa [insertion] using ends "prt" (by decide)
  simp only [List.append_assoc] at rest prepositionFirst ⊢
  simp only [TagParts.ofSegments, List.takeWhile_append_of_pos head, List.dropWhile_append_of_pos head, rest,
    takeInsertion_insertion prepositionFirst, takeInsertion_insertion (ends "prp" (by decide)), List.append_nil]

/-! ## The catalogue -/

/-- No piece of the catalogue has a segment that is a mark. -/
theorem catalogue_plain : ∀ pattern ∈ FramePattern.catalogue,
    (∀ segment ∈ segments pattern.base, isMark segment = false) ∧
    (∀ segment ∈ segments pattern.head, isMark segment = false) ∧
    ∀ segment ∈ pattern.tailSegments, isMark segment = false := by
  decide +kernel

/-- Rows that differ in more than an `It` for the subject differ in their tags without insertions, and in the head or
the tail that go around insertions. -/
theorem catalogue_rows : ∀ pattern ∈ FramePattern.catalogue, ∀ other ∈ FramePattern.catalogue,
    (plainSubject pattern.slots = plainSubject other.slots ↔ pattern.base = other.base) ∧
    (plainSubject pattern.slots = plainSubject other.slots ↔
      pattern.head = other.head ∧ pattern.tail = other.tail) := by
  decide +kernel

theorem catalogue_takesPreposition : ∀ pattern ∈ FramePattern.catalogue,
    (pattern.takesPreposition = false ↔ pattern.slots = ["NP", "V"] ∨ pattern.slots = ["It", "V"]) := by
  decide +kernel

theorem catalogue_slots_nodup : (FramePattern.catalogue.map (·.slots)).Nodup := by decide +kernel

theorem eq_of_slots_eq (listed : pattern ∈ FramePattern.catalogue) (otherListed : other ∈ FramePattern.catalogue)
    (same : pattern.slots = other.slots) : pattern = other :=
  List.inj_on_of_nodup_map catalogue_slots_nodup listed otherListed same

theorem frameTag?_of_listed (listed : pattern ∈ FramePattern.catalogue) :
    frameTag? pattern.slots particle preposition = pattern.tag? particle preposition := by
  cases found : FramePattern.catalogue.find? (·.slots = pattern.slots) with
  | none => exact absurd (List.find?_eq_none.1 found pattern listed) (by simp)
  | some first =>
    have same : first.slots = pattern.slots := by simpa using List.find?_some found
    rw [frameTag?, found, Option.bind_some, eq_of_slots_eq (List.mem_of_find?_eq_some found) listed same]

/-- What has a tag is a row of the catalogue, with what that row lets go with the verb. -/
theorem frameTag?_eq_some_iff : frameTag? slots particle preposition = some tag ↔
    ∃ pattern ∈ FramePattern.catalogue, pattern.slots = slots ∧ pattern.tag? particle preposition = some tag := by
  constructor
  · intro tagged
    obtain ⟨pattern, found, tagged⟩ := Option.bind_eq_some_iff.1 tagged
    exact ⟨pattern, List.mem_of_find?_eq_some found, by simpa using List.find?_some found, tagged⟩
  · rintro ⟨pattern, listed, rfl, tagged⟩
    rw [frameTag?_of_listed listed, tagged]

theorem tag?_isSome : (pattern.tag? particle preposition).isSome = true ↔
    ¬ (pattern.takesPreposition = false ∧ preposition.isSome = true) := by
  unfold FramePattern.tag?
  cases preposition <;> cases pattern.takesPreposition <;> cases particle <;> simp

theorem eq_of_tag? (tagged : pattern.tag? particle preposition = some tag) :
    tag = if particle.isNone && preposition.isNone then pattern.base else pattern.insertedTag particle preposition := by
  unfold FramePattern.tag? at tagged
  split at tagged
  · cases tagged
  · split at tagged <;> cases tagged <;> simp [*]

/-- The parts of every tag are found again. -/
theorem ofSegments_tag (listed : pattern ∈ FramePattern.catalogue)
    (tagged : pattern.tag? particle preposition = some tag) (particleUnbroken : ∀ part ∈ particle, Unbroken part)
    (prepositionUnbroken : ∀ part ∈ preposition, Unbroken part) :
    TagParts.ofSegments (segments tag) = pattern.tagParts particle preposition := by
  obtain ⟨base, head, tail⟩ := catalogue_plain pattern listed
  rw [eq_of_tag? tagged, FramePattern.tagParts]
  split
  · have parts : TagParts.ofSegments (segments pattern.base ++ insertion "prt" none ++ insertion "prp" none ++ []) =
        ⟨segments pattern.base, none, none, []⟩ := ofSegments_append base (by simp) (by simp)
    simpa [insertion] using parts
  · rename_i inserted
    rw [segments_insertedTag particleUnbroken prepositionUnbroken]
    refine ofSegments_append head tail fun noParticle noPreposition => absurd ?_ inserted
    rw [noParticle, noPreposition, Bool.and_self]

theorem tailSegments_injective (same : pattern.tailSegments = other.tailSegments) : pattern.tail = other.tail := by
  have some_segment (text : String) : segments text ≠ [] := by simp [segments]
  unfold FramePattern.tailSegments at same
  split at same <;> split at same
  · simp_all
  · exact absurd same.symm (some_segment _)
  · exact absurd same (some_segment _)
  · exact segments_injective same

/-- Two tags are the same only if their frames and what goes with their verbs are, but for the subject. -/
theorem tag_eq_iff {tag' : String} {particle' preposition' : Option String}
    (listed : pattern ∈ FramePattern.catalogue) (otherListed : other ∈ FramePattern.catalogue)
    (tagged : pattern.tag? particle preposition = some tag)
    (otherTagged : other.tag? particle' preposition' = some tag')
    (unbroken : ∀ given ∈ [particle, preposition, particle', preposition'], ∀ part ∈ given, Unbroken part) :
    tag = tag' ↔ particle = particle' ∧ preposition = preposition' ∧
      plainSubject pattern.slots = plainSubject other.slots := by
  simp only [List.forall_mem_cons, List.not_mem_nil, false_implies, implies_true, and_true] at unbroken
  obtain ⟨particleUnbroken, prepositionUnbroken, particleUnbroken', prepositionUnbroken'⟩ := unbroken
  obtain ⟨sameBase, samePieces⟩ := catalogue_rows pattern listed other otherListed
  constructor
  · rintro rfl
    have parts : pattern.tagParts particle preposition = other.tagParts particle' preposition' :=
      (ofSegments_tag listed tagged particleUnbroken prepositionUnbroken).symm.trans
        (ofSegments_tag otherListed otherTagged particleUnbroken' prepositionUnbroken')
    unfold FramePattern.tagParts at parts
    split at parts <;> split at parts <;> rename_i first second <;> injection parts with leading particles prepositions
    · simp only [Bool.and_eq_true, Option.isNone_iff_eq_none] at first second
      exact ⟨first.1.trans second.1.symm, first.2.trans second.2.symm, sameBase.2 (segments_injective leading)⟩
    · exact absurd (by simp [← particles, ← prepositions]) second
    · exact absurd (by simp [particles, prepositions]) first
    · rename_i trailing
      exact ⟨particles, prepositions, samePieces.2 ⟨segments_injective leading, tailSegments_injective trailing⟩⟩
  · rintro ⟨rfl, rfl, same⟩
    obtain ⟨head, tail⟩ := samePieces.1 same
    rw [eq_of_tag? tagged, eq_of_tag? otherTagged, sameBase.1 same]
    simp only [FramePattern.insertedTag, head, tail]

/-- A frame has a tag exactly if its slots are those of one row of the catalogue, unless the row has no complement and
there is a preposition. Tags of verbs whose particles and prepositions have no underscore, as those of members have
none, are the same only if particles, prepositions and frames are the same, but for an `It` in the place of `NP`. -/
theorem frameTag_uniquely_decodable :
    (∀ slots particle preposition, (frameTag? slots particle preposition).isSome = true ↔
      (∃! pattern, pattern ∈ FramePattern.catalogue ∧ pattern.slots = slots) ∧
        ¬ ((slots = ["NP", "V"] ∨ slots = ["It", "V"]) ∧ preposition.isSome = true)) ∧
    (∀ slots particle preposition tag slots' particle' preposition' tag',
      (∀ given ∈ [particle, preposition, particle', preposition'], ∀ part ∈ given, Unbroken part) →
      frameTag? slots particle preposition = some tag → frameTag? slots' particle' preposition' = some tag' →
      (tag = tag' ↔ particle = particle' ∧ preposition = preposition' ∧ plainSubject slots = plainSubject slots')) ∧
    ∀ member verb, PhrasalVerb.ofMember? member = some verb →
      (∀ part ∈ verb.particle?, Unbroken part) ∧ ∀ part ∈ verb.preposition?, Unbroken part := by
  refine ⟨fun slots particle preposition => ⟨fun tagged => ?_, ?_⟩, ?_, fun _ _ => ofMember?_unbroken⟩
  · obtain ⟨tag, tagged⟩ := Option.isSome_iff_exists.1 tagged
    obtain ⟨pattern, listed, rfl, rowTagged⟩ := frameTag?_eq_some_iff.1 tagged
    have unique : ∀ other, other ∈ FramePattern.catalogue ∧ other.slots = pattern.slots → other = pattern :=
      fun other both => eq_of_slots_eq both.1 listed both.2
    refine ⟨⟨pattern, ⟨listed, rfl⟩, unique⟩, ?_⟩
    rw [← catalogue_takesPreposition pattern listed]
    exact tag?_isSome.1 (Option.isSome_iff_exists.2 ⟨tag, rowTagged⟩)
  · rintro ⟨⟨pattern, ⟨listed, rfl⟩, _⟩, complement⟩
    rw [← catalogue_takesPreposition pattern listed] at complement
    rw [frameTag?_of_listed listed]
    exact tag?_isSome.2 complement
  · intro slots particle preposition tag slots' particle' preposition' tag' unbroken tagged otherTagged
    obtain ⟨pattern, listed, rfl, rowTagged⟩ := frameTag?_eq_some_iff.1 tagged
    obtain ⟨other, otherListed, rfl, otherRowTagged⟩ := frameTag?_eq_some_iff.1 otherTagged
    exact tag_eq_iff listed otherListed rowTagged otherRowTagged unbroken

/-- A verb whose particle is empty and whose preposition reads like a mark, in two frames that differ in the subject. -/
theorem frameTag_same_beside_subject :
    (∀ given ∈ [some "", some "prt", some "", some "prt"], ∀ part ∈ given, Unbroken part) ∧
    frameTag? ["NP", "V", "NP"] (some "") (some "prt") = some "vb_prt__prp_prt_o" ∧
    frameTag? ["It", "V", "NP"] (some "") (some "prt") = some "vb_prt__prp_prt_o" ∧
    ("vb_prt__prp_prt_o" = "vb_prt__prp_prt_o" ↔ some "" = some "" ∧ some "prt" = some "prt" ∧
      plainSubject ["NP", "V", "NP"] = plainSubject ["It", "V", "NP"]) := by
  have unbroken : ∀ given ∈ [some "", some "prt", some "", some "prt"], ∀ part ∈ given, Unbroken part := by
    simp only [List.forall_mem_cons, Option.mem_some_iff, forall_eq']
    decide +kernel
  have tagged : frameTag? ["NP", "V", "NP"] (some "") (some "prt") = some "vb_prt__prp_prt_o" := by decide +kernel
  have otherTagged : frameTag? ["It", "V", "NP"] (some "") (some "prt") = some "vb_prt__prp_prt_o" := by decide +kernel
  exact ⟨unbroken, tagged, otherTagged,
    frameTag_uniquely_decodable.2.1 _ _ _ _ _ _ _ _ unbroken tagged otherTagged⟩

end Wordbook
