import Wordbook.Json.Document
import Wordbook.Json.Record
import Wordbook.Lexicon.Basic
import Wordbook.Sources.Basic

/-! The kinds of data files. Each kind says which JSON values it stands for; a value of the wrong shape
stands for none. The values of a word map are gloss and the like, and are not looked at. -/
namespace Wordbook

/-- A frame has its slot descriptors as its only field. -/
def Frame.ofJson? (json : Json) : Option Frame :=
  match json.record? ["primary"] with
  | some [primary] => do
    return { primary := ← Json.required? (Json.list? Json.text?) primary }
  | _ => none

/-- A verb class lists members and frames, both of which may be left out. -/
def VerbClass.ofJson? (json : Json) : Option VerbClass :=
  match json.record? ["members", "frames"] with
  | some [members, frames] => do
    return {
      members := ← Json.withDefault? [] (Json.list? Json.text?) members
      frames := ← Json.withDefault? [] (Json.list? Frame.ofJson?) frames }
  | _ => none

/-- A noun class may leave out every field, and may leave open whether it is countable. -/
def NounClass.ofJson? (json : Json) : Option NounClass :=
  match json.record? ["words", "countable", "classes"] with
  | some [words, countable, classes] => do
    return {
      words := ← Json.withDefault? ∅ Json.keys? words
      countable := ← Json.withDefault? none (Json.orNull? Json.bool?) countable
      includes := ← Json.withDefault? [] (Json.list? Json.text?) classes }
  | _ => none

/-- A word class has words and the categories they carry. -/
def WordClass.ofJson? (json : Json) : Option WordClass :=
  match json.record? ["words", "classes"] with
  | some [words, classes] => do
    return {
      words := ← Json.withDefault? ∅ Json.keys? words
      categories := ← Json.withDefault? [] (Json.list? Json.text?) classes }
  | _ => none

/-- An irregular noun must state its plural. -/
def IrregularNoun.ofJson? (json : Json) : Option IrregularNoun :=
  match json.record? ["plural"] with
  | some [plural] => do
    return { plural := ← Json.required? Json.text? plural }
  | _ => none

/-- An irregular verb states its forms under their tags. -/
def IrregularVerb.ofJson? (json : Json) : Option IrregularVerb :=
  let form := Json.withDefault? none (Json.orNull? Json.text?)
  match json.record? ["VB", "VBD", "VBN", "VBG", "VBZ", "VBP"] with
  | some [vb, vbd, vbn, vbg, vbz, vbp] => do
    return {
      base := ← form vb
      preterite := ← form vbd
      pastParticiple := ← form vbn
      gerund := ← form vbg
      thirdSingular := ← form vbz
      thirdPlural := ← form vbp }
  | _ => none

/-- A lexicon is an object of category lists. -/
def Lexicon.ofJson? (json : Json) : Option Lexicon :=
  (json.table? (Json.list? Json.text?)).map fun entries => { entries := entries }

end Wordbook
