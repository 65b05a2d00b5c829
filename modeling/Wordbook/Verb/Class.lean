import Wordbook.Table
import Wordbook.Text.Lowercase
import Wordbook.Verb.Frame
import Wordbook.Verb.Phrasal

/-! Verb classes and the categories of their members. A class lists member verbs and the frames that all
of them share, so every member meets every frame of its own class. Each meeting is looked at on its own
and leaves one finding; the categories gather the findings that have a tag. -/
namespace Wordbook

/-- A class of verbs that share their frames. -/
structure VerbClass where
  members : List String := []
  frames : List Frame := []
deriving DecidableEq, Repr

/-- What came of one member in one frame. -/
inductive VerbFinding where
  | filed (tag main : String)
  | unrecognized (member : String)
  | unmatched (member : String) (slots : List String)
deriving DecidableEq, Repr

/-- The finding for a member, in lower case, in a frame with the given slots. -/
def VerbFinding.of (slots : List String) (member : String) : VerbFinding :=
  match PhrasalVerb.ofMember? member with
  | none => unrecognized member
  | some verb => match frameTag? slots verb.particle? verb.preposition? with
    | some tag => filed tag verb.main
    | none => unmatched member slots

/-- The findings of one class, frame by frame. -/
def VerbClass.findings (verbs : VerbClass) : List VerbFinding :=
  let members := verbs.members.map Text.lowercase
  verbs.frames.flatMap fun frame => members.map (VerbFinding.of frame.slots)

/-- The findings of several classes, in their order. -/
def verbFindings (classes : List VerbClass) : List VerbFinding :=
  classes.flatMap VerbClass.findings

/-- Puts a verb under its tag. -/
def VerbFinding.file (categories : Table WordSet) : VerbFinding → Table WordSet
  | filed tag main => Table.addWords categories tag [main]
  | unrecognized _ | unmatched _ _ => categories

/-- The main verbs of every tag. -/
def verbCategories (classes : List VerbClass) : Table WordSet :=
  (verbFindings classes).foldl VerbFinding.file ∅

end Wordbook
