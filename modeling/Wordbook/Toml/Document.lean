import Wordbook.Toml.Statement

/-! The tables that the lines of a TOML text make. A header opens a table, and the pairs below it go into
that table. No table may be opened twice, but a table that is only implied by the header of another one may
still be opened, once; no key may be given twice. -/
namespace Wordbook.Toml

/-- Changes the table that a path of headers leads to. Tables on the way that are not there yet are
implied, and the way through an array of tables leads into the latest one. -/
def Entries.changeAt (change : Entries → Option Entries) : List String → Entries → Option Entries
  | [], entries => change entries
  | part :: rest, entries =>
    match entries.lookup part with
    | none => do return entries.set part (.table .implied (← Entries.changeAt change rest []))
    | some (.table origin inner) => do
      return entries.set part (.table origin (← Entries.changeAt change rest inner))
    | some (.tables elements) =>
      match elements.getLast? with
      | some last => do
        return entries.set part (.tables (elements.dropLast ++ [← Entries.changeAt change rest last]))
      | none => none
    | some _ => none

/-- Opens a table. -/
def Entries.openTable (key : String) (entries : Entries) : Option Entries :=
  match entries.lookup key with
  | none => some (entries.set key (.table .header []))
  | some (.table .implied inner) => some (entries.set key (.table .header inner))
  | some _ => none

/-- Opens one more table of an array. -/
def Entries.openElement (key : String) (entries : Entries) : Option Entries :=
  match entries.lookup key with
  | none => some (entries.set key (.tables [[]]))
  | some (.tables elements) => some (entries.set key (.tables (elements ++ [[]])))
  | some _ => none

/-- The text so far: its tables, and the path of the latest header. -/
structure Document where
  root : Entries := []
  current : List String := []

/-- Takes in what one line says. -/
def Document.add (document : Document) : Statement → Option Document
  | .header path key => do
    return {
      root := ← Entries.changeAt (Entries.openTable key) path document.root
      current := path ++ [key] }
  | .arrayHeader path key => do
    return {
      root := ← Entries.changeAt (Entries.openElement key) path document.root
      current := path ++ [key] }
  | .pair path key value => do
    return { document with
      root := ← Entries.changeAt (Entries.addDotted value key path) document.current document.root }

/-- The entries of the outermost table of a text. -/
def parse? (text : String) : Option Entries := do
  let statements ← statements? text
  let document ← statements.foldlM Document.add {}
  return document.root

end Wordbook.Toml
