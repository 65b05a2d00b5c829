import Wordbook.Proofs.Verb.Families
import Wordbook.Proofs.Verb.Phrasal

/-! What is gathered from verb classes. Every member of a class meets every frame of the same class, and each meeting
leaves one finding of its own. So the categories are the product of members and frames, class by class; and what nothing
can come of, a member that is no phrasal verb or a frame that is not in the catalogue, leaves no trace in the categories
and none in the findings about other members and frames. -/
namespace Wordbook

/-- Slots that have a row in the catalogue. -/
def slotsListed (slots : List String) : Bool := FramePattern.catalogue.any (·.slots = slots)

/-- Whether a member stands for a phrasal verb. -/
def isReadable (member : String) : Bool := (PhrasalVerb.ofMember? (Text.lowercase member)).isSome

/-- The class less the members and the frames that nothing can come of. -/
def VerbClass.usable (verbs : VerbClass) : VerbClass where
  members := verbs.members.filter isReadable
  frames := verbs.frames.filter (slotsListed ·.slots)

/-- Whether a finding is about a member and a frame that are both of use. -/
def VerbFinding.isUsable : VerbFinding → Bool
  | filed _ _ => true
  | unrecognized _ => false
  | unmatched _ slots => slotsListed slots

/-- Some member of a class has the verb for its main one, and the tag in some frame of the same class. -/
def VerbClass.Files (verbs : VerbClass) (tag verb : String) : Prop :=
  ∃ member ∈ verbs.members, ∃ frame ∈ verbs.frames, ∃ phrasal,
    PhrasalVerb.ofMember? (Text.lowercase member) = some phrasal ∧ phrasal.main = verb ∧
      frameTag? frame.slots phrasal.particle? phrasal.preposition? = some tag

variable {classes : List VerbClass} {slots : List String} {particle preposition : Option String} {tag verb : String}

/-! ## The product -/

theorem holds_verbCategories_iff :
    Holds (verbCategories classes) tag verb ↔ ∃ cls ∈ classes, cls.Files tag verb := by
  rw [holds_verbCategories, filed_iff]
  constructor
  · rintro ⟨cls, listed, frame, framed, member, among, phrasal, read, tagged, main⟩
    exact ⟨cls, listed, member, among, frame, framed, phrasal, read, main, tagged⟩
  · rintro ⟨cls, listed, member, among, frame, framed, phrasal, read, main, tagged⟩
    exact ⟨cls, listed, frame, framed, member, among, phrasal, read, tagged, main⟩

/-- The verbs of the tags are verbs of tokens, so there is something of them and no underscore in it. -/
theorem plain_of_holds (holds : Holds (verbCategories classes) tag verb) : verb ≠ "" ∧ Unbroken verb := by
  obtain ⟨_, _, _, _, _, _, phrasal, read, rfl, _⟩ := holds_verbCategories_iff.1 holds
  have wellFormed := PhrasalVerb.WellFormed.of_ofMember? read
  exact ⟨wellFormed.nonempty, wellFormed.main⟩

/-! ## What nothing comes of -/

theorem slotsListed_of_frameTag? (tagged : frameTag? slots particle preposition = some tag) :
    slotsListed slots = true := by
  obtain ⟨pattern, listed, rfl, _⟩ := frameTag?_eq_some_iff.1 tagged
  simpa [slotsListed] using ⟨pattern, listed, rfl⟩

/-- A finding tells whether its member and its frame are of use. -/
theorem isUsable_of (slots : List String) (member : String) :
    (VerbFinding.of slots (Text.lowercase member)).isUsable = (slotsListed slots && isReadable member) := by
  unfold VerbFinding.of isReadable
  cases PhrasalVerb.ofMember? (Text.lowercase member) with
  | none => simp [VerbFinding.isUsable]
  | some phrasal =>
    cases tagged : frameTag? slots phrasal.particle? phrasal.preposition? with
    | none => simp [tagged, VerbFinding.isUsable]
    | some tag => simp [tagged, VerbFinding.isUsable, slotsListed_of_frameTag? tagged]

/-- The findings of use in one frame, of members all of which meet it. -/
theorem filter_row (slots : List String) (members : List String) :
    ((members.map Text.lowercase).map (VerbFinding.of slots)).filter VerbFinding.isUsable =
      if slotsListed slots then ((members.filter isReadable).map Text.lowercase).map (VerbFinding.of slots) else [] := by
  cases listed : slotsListed slots <;> simp [List.filter_map, Function.comp_def, isUsable_of, listed]

/-- To leave out what nothing comes of is to leave out the findings about it. -/
theorem findings_usable (verbs : VerbClass) :
    verbs.usable.findings = verbs.findings.filter VerbFinding.isUsable := by
  obtain ⟨members, frames⟩ := verbs
  simp only [VerbClass.findings, VerbClass.usable]
  induction frames with
  | nil => rfl
  | cons frame rest ih =>
    rw [List.flatMap_cons, List.filter_append, filter_row, ← ih, List.filter_cons]
    split <;> rfl

theorem verbFindings_usable (classes : List VerbClass) :
    verbFindings (classes.map VerbClass.usable) = (verbFindings classes).filter VerbFinding.isUsable := by
  simp only [verbFindings, List.flatMap_map, List.filter_flatMap, findings_usable]

/-- Only findings of use are filed. -/
theorem foldl_filter_usable (findings : List VerbFinding) (table : Table WordSet) :
    (findings.filter VerbFinding.isUsable).foldl VerbFinding.file table = findings.foldl VerbFinding.file table := by
  induction findings generalizing table with
  | nil => rfl
  | cons finding rest ih =>
    rw [List.filter_cons, List.foldl_cons]
    split
    case isTrue => rw [List.foldl_cons, ih]
    case isFalse unusable =>
      rw [ih]
      cases finding with
      | filed => exact absurd rfl unusable
      | unrecognized | unmatched => rfl

theorem verbCategories_usable (classes : List VerbClass) :
    verbCategories (classes.map VerbClass.usable) = verbCategories classes := by
  rw [verbCategories, verbFindings_usable, foldl_filter_usable, verbCategories]

/-- The categories are the product of members and frames, class by class: a verb is under a tag exactly if it is the
main verb of some member of some class that has the tag in some frame of the same class. No tag is without verbs, and
no verb is empty or has an underscore. Classes that differ only in members that are no phrasal verbs and in frames that
are not in the catalogue have the same categories, and the same findings about all other members and frames. -/
theorem verbCategories_exact (classes : List VerbClass) :
    (∀ tag verb, Holds (verbCategories classes) tag verb ↔ ∃ cls ∈ classes, cls.Files tag verb) ∧
    (∀ (tag : String) (words : WordSet), (verbCategories classes)[tag]? = some words → ∃ verb, verb ∈ words) ∧
    (∀ tag verb, Holds (verbCategories classes) tag verb → verb ≠ "" ∧ Unbroken verb) ∧
    ∀ others : List VerbClass, others.map VerbClass.usable = classes.map VerbClass.usable →
      verbCategories others = verbCategories classes ∧
      (verbFindings others).filter VerbFinding.isUsable = (verbFindings classes).filter VerbFinding.isUsable := by
  refine ⟨fun tag verb => holds_verbCategories_iff, fun tag words entry => ?_, fun tag verb => plain_of_holds,
    fun others same => ⟨?_, ?_⟩⟩
  · obtain ⟨verb, holds⟩ := mem_verbCategories.1 (mem_of_entry entry)
    exact ⟨verb, (holds_of_entry entry).1 holds⟩
  · rw [← verbCategories_usable others, same, verbCategories_usable]
  · rw [← verbFindings_usable, same, verbFindings_usable]

end Wordbook
