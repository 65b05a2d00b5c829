import Wordbook.Json.Basic
import Wordbook.Table

/-! Typed reading of JSON values. A record is an object in which every known field is given at most once,
fields with other names being passed over; it may also be written as an array of its fields in their
order, of which the last ones may be left out. A map takes the last value of a repeated key. No key may be
a string that spells no text, not even the key of a field that is passed over. -/
namespace Wordbook.Json

/-- The fields of an object under their names, in the order of the text. -/
def namedFields? : Json → Option (List (String × Json))
  | object fields => fields.mapM fun field => field.1.map fun key => (key, field.2)
  | _ => none

/-- The only value that a name has among the fields, if any. Two values are a fault. -/
def single? (fields : List (String × Json)) (name : String) : Option (Option Json) :=
  match fields.filter fun field => field.1 == name with
  | [] => some none
  | [field] => some (some field.2)
  | _ => none

/-- The values of the fields of a record, in the order of the names given. -/
def record? (names : List String) : Json → Option (List (Option Json))
  | array items =>
    if items.length ≤ names.length then
      some (items.map some ++ List.replicate (names.length - items.length) none)
    else none
  | json => do
    let fields ← json.namedFields?
    names.mapM (single? fields)

/-- The value of a field that must be there. -/
def required? {α : Type} (read : Json → Option α) (field : Option Json) : Option α :=
  field.bind read

/-- The value of a field, or the value it has when it is left out. -/
def withDefault? {α : Type} (fallback : α) (read : Json → Option α) : Option Json → Option α
  | none => some fallback
  | some json => read json

/-- A value that may also be given as null. -/
def orNull? {α : Type} (read : Json → Option α) : Json → Option (Option α)
  | null => some none
  | json => (read json).map some

/-- A text. -/
def text? : Json → Option String
  | string text => text
  | _ => none

/-- A truth value. -/
def bool? : Json → Option Bool
  | bool value => some value
  | _ => none

/-- A list of values of one kind. -/
def list? {α : Type} (read : Json → Option α) : Json → Option (List α)
  | array items => items.mapM read
  | _ => none

/-- A table of values of one kind. -/
def table? {α : Type} (read : Json → Option α) (json : Json) : Option (Table α) := do
  let fields ← json.namedFields?
  let entries ← fields.mapM fun field => (read field.2).map fun value => (field.1, value)
  return Std.ExtTreeMap.ofList entries

/-- The keys of an object, whatever their values. -/
def keys? (json : Json) : Option WordSet := do
  let fields ← json.namedFields?
  return Std.ExtTreeSet.ofList (fields.map (·.1))

end Wordbook.Json
