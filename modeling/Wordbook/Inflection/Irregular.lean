import Wordbook.Inflection.Regular
import Wordbook.Table

/-! Irregular inflection. A table of exceptions always wins over the spelling rules, form by form: an
irregular verb may state some of its forms and leave the others to the rules. -/
namespace Wordbook

/-- An irregular noun. -/
structure IrregularNoun where
  plural : String
deriving DecidableEq, Repr

/-- An irregular verb. A form left out is formed by rule. -/
structure IrregularVerb where
  base : Option String := none
  preterite : Option String := none
  pastParticiple : Option String := none
  gerund : Option String := none
  thirdSingular : Option String := none
  thirdPlural : Option String := none
deriving DecidableEq, Repr

/-- The six forms of one verb. -/
structure VerbForms where
  base : String
  preterite : String
  pastParticiple : String
  gerund : String
  thirdSingular : String
  thirdPlural : String
deriving DecidableEq, Repr

/-- The words that do not follow the spelling rules, by their dictionary form. -/
structure IrregularForms where
  nouns : Table IrregularNoun := ∅
  verbs : Table IrregularVerb := ∅
deriving DecidableEq

/-- The plural of a noun. -/
def IrregularForms.plural (irregular : IrregularForms) (noun : String) : String :=
  match irregular.nouns[noun]? with
  | some entry => entry.plural
  | none => Inflection.sForm noun

/-- The forms of a verb. A past participle that is not stated is the past tense, stated or not. -/
def IrregularForms.verbForms (irregular : IrregularForms) (verb : String) : VerbForms :=
  let stated := irregular.verbs[verb]?.getD {}
  let preterite := stated.preterite.getD (Inflection.preterite verb)
  { base := stated.base.getD verb
    preterite := preterite
    pastParticiple := stated.pastParticiple.getD preterite
    gerund := stated.gerund.getD (Inflection.gerund verb)
    thirdSingular := stated.thirdSingular.getD (Inflection.sForm verb)
    thirdPlural := stated.thirdPlural.getD verb }

end Wordbook
