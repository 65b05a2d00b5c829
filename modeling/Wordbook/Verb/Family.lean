import Wordbook.Inflection.Irregular

/-! Families of verb categories. Every frame category of a verb lemma gives eight categories of inflected
forms, one for each family. Their names are the frame's tag with the family in the place of the leading
`vb`. -/
namespace Wordbook

/-- The tag of a family: the leading `vb` of a frame tag makes way for the family's label. A tag without
it is kept whole behind the label. -/
def familyTag (label tag : String) : String :=
  match tag.toList with
  | 'v' :: 'b' :: rest => label ++ String.ofList rest
  | _ => label ++ tag

/-- The inflected forms that get categories of their own. The two finite families collect the forms that
can stand with a singular and with a plural subject. -/
inductive VerbFamily where
  | infinitive
  | preterite
  | pastParticiple
  | gerund
  | thirdSingular
  | thirdPlural
  | finiteSingular
  | finitePlural
deriving DecidableEq, Repr

namespace VerbFamily

/-- All families, in the order in which they are filed. -/
def all : List VerbFamily :=
  [infinitive, preterite, pastParticiple, gerund, thirdSingular, thirdPlural, finiteSingular, finitePlural]

/-- What the names of the family's categories begin with. -/
def label : VerbFamily → String
  | infinitive => "inf"
  | preterite => "vbd"
  | pastParticiple => "vbn"
  | gerund => "vbg"
  | thirdSingular => "vbz"
  | thirdPlural => "vbp"
  | finiteSingular => "vbf_sg"
  | finitePlural => "vbf_pl"

/-- The forms of one verb that belong to the family. -/
def forms : VerbFamily → VerbForms → List String
  | infinitive, verb => [verb.base]
  | preterite, verb => [verb.preterite]
  | pastParticiple, verb => [verb.pastParticiple]
  | gerund, verb => [verb.gerund]
  | thirdSingular, verb => [verb.thirdSingular]
  | thirdPlural, verb => [verb.thirdPlural]
  | finiteSingular, verb => [verb.preterite, verb.thirdSingular]
  | finitePlural, verb => [verb.preterite, verb.thirdPlural]

end VerbFamily

end Wordbook
