import Wordbook.Json.Token

/-! The value that a JSON text stands for. The tokens are read one by one by a machine that keeps the
arrays and objects still open on a stack, so a text may be nested to any depth. -/
namespace Wordbook.Json

/-- An array or object that is still open, with its contents so far, the latest first. -/
inductive Holder where
  | items (items : List Json)
  | fields (fields : List (Option String × Json))
  /-- An object whose latest key has no value yet. -/
  | field (fields : List (Option String × Json)) (key : Option String)
deriving Repr

/-- What may come next. -/
inductive Expected where
  | value
  | firstItem
  | firstKey
  | key
  | colon
  /-- A comma or the end of what is open. -/
  | separator
  /-- Nothing: the text is complete with this value. -/
  | nothing (value : Json)
deriving Repr

/-- The state of the reader: what is open, the innermost first, and what may come next. -/
structure Reader where
  opened : List Holder := []
  expected : Expected := .value
deriving Repr

namespace Reader

/-- Puts a complete value into what is open. -/
def fill (value : Json) : List Holder → Option Reader
  | [] => some { expected := .nothing value }
  | .items items :: outer => some { opened := .items (value :: items) :: outer, expected := .separator }
  | .field fields key :: outer =>
    some { opened := .fields ((key, value) :: fields) :: outer, expected := .separator }
  | .fields _ :: _ => none

/-- Reads a token that begins a value. -/
def beginValue (opened : List Holder) : Token → Option Reader
  | .scalar value => fill value opened
  | .openArray => some { opened := .items [] :: opened, expected := .firstItem }
  | .openObject => some { opened := .fields [] :: opened, expected := .firstKey }
  | .closeArray | .closeObject | .comma | .colon => none

/-- Reads a token that must be a key of the innermost object. -/
def beginField : List Holder → Token → Option Reader
  | .fields fields :: outer, .scalar (.string key) =>
    some { opened := .field fields key :: outer, expected := .colon }
  | _, _ => none

/-- Reads a token that must close what is innermost. -/
def close : List Holder → Token → Option Reader
  | .items items :: outer, .closeArray => fill (.array items.reverse) outer
  | .fields fields :: outer, .closeObject => fill (.object fields.reverse) outer
  | _, _ => none

/-- Reads one token. -/
def step (reader : Reader) (token : Token) : Option Reader :=
  match reader.expected with
  | .value => beginValue reader.opened token
  | .firstItem => (close reader.opened token).or (beginValue reader.opened token)
  | .firstKey => (close reader.opened token).or (beginField reader.opened token)
  | .key => beginField reader.opened token
  | .colon => match token with
    | .colon => some { reader with expected := .value }
    | _ => none
  | .separator => match reader.opened, token with
    | .items _ :: _, .comma => some { reader with expected := .value }
    | .fields _ :: _, .comma => some { reader with expected := .key }
    | opened, token => close opened token
  | .nothing _ => none

/-- The value at the end of the tokens. -/
def finish (reader : Reader) : Option Json :=
  match reader.expected with
  | .nothing value => some value
  | _ => none

end Reader

/-- The value that tokens spell, or none if they do not spell exactly one. -/
def ofTokens? (tokens : List Token) : Option Json :=
  (tokens.foldlM Reader.step {}).bind Reader.finish

/-- The value of a JSON text. -/
def parse? (text : String) : Option Json := (tokens? text).bind ofTokens?

end Wordbook.Json
