import Wordbook.Proofs.Table
import Wordbook.Verb.Class
import Wordbook.Verb.Family

/-! The tags of verbs. A verb is kept under a tag exactly if some finding filed it there, and every tag begins with
the letters that the label of a family takes the place of. -/
namespace Wordbook

/-- A tag begins with the two letters that the label of a family takes the place of. -/
def BeginsVb (tag : String) : Prop :=
  ∃ rest, tag = "vb" ++ rest

variable {classes : List VerbClass} {findings : List VerbFinding} {table : Table WordSet}
variable {tag verb member : String} {slots : List String} {particle preposition : Option String}

theorem BeginsVb.of_isPrefixOf (leading : "vb".toList.isPrefixOf tag.toList = true) : BeginsVb tag := by
  obtain ⟨rest, letters⟩ := List.isPrefixOf_iff_prefix.1 leading
  exact ⟨String.ofList rest, String.toList_injective (by simpa using letters.symm)⟩

theorem BeginsVb.append (begins : BeginsVb tag) (more : String) : BeginsVb (tag ++ more) := by
  obtain ⟨rest, rfl⟩ := begins
  exact ⟨rest ++ more, String.append_assoc⟩

/-- Findings without a tag leave the table as it is. -/
theorem holds_foldl_findings :
    Holds (findings.foldl VerbFinding.file table) tag verb ↔ Holds table tag verb ∨ .filed tag verb ∈ findings := by
  induction findings generalizing table with
  | nil => simp
  | cons finding rest ih =>
    rw [List.foldl_cons, ih]
    cases finding with
    | filed => simp [VerbFinding.file, eq_comm, or_assoc]
    | unrecognized => simp [VerbFinding.file]
    | unmatched => simp [VerbFinding.file]

theorem holds_verbCategories : Holds (verbCategories classes) tag verb ↔ .filed tag verb ∈ verbFindings classes := by
  simp [verbCategories, holds_foldl_findings]

/-- A member is filed in a frame exactly if it is read as a phrasal verb that has a tag there. -/
theorem of_eq_filed_iff : VerbFinding.of slots member = .filed tag verb ↔
    ∃ phrasal, PhrasalVerb.ofMember? member = some phrasal ∧
      frameTag? slots phrasal.particle? phrasal.preposition? = some tag ∧ phrasal.main = verb := by
  unfold VerbFinding.of
  split
  · simp_all
  · split <;> simp_all

/-- What is filed is filed for a member of a class in a frame of the same class. -/
theorem filed_iff : .filed tag verb ∈ verbFindings classes ↔ ∃ cls ∈ classes, ∃ frame ∈ cls.frames,
    ∃ member ∈ cls.members, ∃ phrasal, PhrasalVerb.ofMember? (Text.lowercase member) = some phrasal ∧
      frameTag? frame.slots phrasal.particle? phrasal.preposition? = some tag ∧ phrasal.main = verb := by
  simp [verbFindings, VerbClass.findings, of_eq_filed_iff]

theorem insertedTag_beginsVb {pattern : FramePattern} (head : BeginsVb pattern.head) :
    BeginsVb (pattern.insertedTag particle preposition) := by
  cases particle <;> cases preposition <;> grind [FramePattern.insertedTag, BeginsVb.append]

/-- The pieces of every pattern begin with `vb`, and what is put in goes behind the head. -/
theorem frameTag_beginsVb (found : frameTag? slots particle preposition = some tag) : BeginsVb tag := by
  obtain ⟨pattern, matched, tagged⟩ := Option.bind_eq_some_iff.1 found
  have pieces : ∀ pattern ∈ FramePattern.catalogue, "vb".toList.isPrefixOf pattern.head.toList = true ∧
      "vb".toList.isPrefixOf pattern.base.toList = true := by decide +kernel
  obtain ⟨head, base⟩ := pieces pattern (List.mem_of_find?_eq_some matched)
  unfold FramePattern.tag? at tagged
  split at tagged
  · cases tagged
  · split at tagged
    · cases tagged
      exact .of_isPrefixOf base
    · cases tagged
      exact insertedTag_beginsVb (.of_isPrefixOf head)

theorem verbCategories_beginsVb (holds : Holds (verbCategories classes) tag verb) : BeginsVb tag := by
  obtain ⟨_, _, _, _, _, _, _, _, tagged, _⟩ := filed_iff.1 (holds_verbCategories.1 holds)
  exact frameTag_beginsVb tagged

@[simp] theorem familyTag_vb (label rest : String) : familyTag label ("vb" ++ rest) = label ++ rest := by
  simp [familyTag]

end Wordbook
