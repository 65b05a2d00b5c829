import Wordbook.Build
import Wordbook.Proofs.Json.Reading
import Wordbook.Proofs.Table
import Wordbook.Proofs.Writing

/-! Writing a lexicon loses nothing. Its text, on one line or indented, spells one JSON value, and that value is read as
the lexicon again: whatever characters the words and categories have, in whatever order and however often a list has
them, and whether lists or the whole lexicon are empty. -/
namespace Wordbook
open Json

variable {layout : Layout} {text : String} {tree : FileTree} {file : Path}

/-- A lexicon as a JSON value. -/
def Lexicon.toJson (lexicon : Lexicon) : Json :=
  .object (lexicon.toList.map fun entry =>
    (some entry.1, .array (entry.2.map fun category => .string (some category))))

/-- The tokens of a word with its categories. -/
def entryTokens (entry : String × List String) : List Token :=
  .scalar (.string (some entry.1)) :: .colon ::
    (.openArray :: separated (entry.2.map fun category => [.scalar (.string (some category))]) ++ [.closeArray])

/-! ## The text and its value -/

private theorem forall₂_of_each {α β γ : Type} {R : β → γ → Prop} {write : α → β} {meant : α → γ}
    (each : ∀ item, R (write item) (meant item)) (items : List α) :
    List.Forall₂ R (items.map write) (items.map meant) := by
  simp only [List.forall₂_map_left_iff, List.forall₂_map_right_iff, each, List.forall₂_same, implies_true]

theorem lexes_writeEntry (blank : layout.Blank) (entry : String × List String) :
    Lexes (Lexicon.writeEntry layout entry) (entryTokens entry) := by
  have categories : List.Forall₂ Lexes (entry.2.map writeString)
      (entry.2.map fun category => [.scalar (.string (some category))]) := forall₂_of_each lexes_writeString _
  have opens : Token.ofMark? '[' = some .openArray := rfl
  have closes : Token.ofMark? ']' = some .closeArray := rfl
  have list := lexes_bracketed blank 1 opens closes categories
  exact ((lexes_writeString entry.1).append blank.colon).append list

theorem reads_entry (entry : String × List String) :
    ReadsField (entryTokens entry) (some entry.1, .array (entry.2.map fun category => .string (some category))) :=
  .field (reads_array (forall₂_of_each (fun _ => reads_scalar _) _))

theorem parse?_write (blank : layout.Blank) (lexicon : Lexicon) :
    parse? (lexicon.write layout) = some lexicon.toJson := by
  have written : List.Forall₂ Lexes (lexicon.toList.map (Lexicon.writeEntry layout))
      (lexicon.toList.map entryTokens) := forall₂_of_each (lexes_writeEntry blank) _
  have fields : List.Forall₂ ReadsField (lexicon.toList.map entryTokens) (lexicon.toList.map fun entry =>
      (some entry.1, .array (entry.2.map fun category => .string (some category)))) := forall₂_of_each reads_entry _
  have lexed : tokens? (lexicon.write layout) =
      some (.openObject :: separated (lexicon.toList.map entryTokens) ++ [.closeObject]) := by
    apply tokens?_of_lexes
    rw [Lexicon.write, String.toList_ofList]
    exact lexes_bracketed blank 0 rfl rfl written
  rw [parse?, lexed, Option.bind_some, ofTokens?_of_reads (reads_object fields), Lexicon.toJson]

/-! ## The value and the lexicon -/

private theorem mapM_of_read {α β : Type} (read : α → Option β) (write : β → α)
    (each : ∀ item, read (write item) = some item) (items : List β) : (items.map write).mapM read = some items := by
  induction items with
  | nil => rfl
  | cons first rest ih => simp [each, ih]

/-- The value of a lexicon is read as the lexicon. -/
theorem ofJson?_toJson (lexicon : Lexicon) : Lexicon.ofJson? lexicon.toJson = some lexicon := by
  have categories (listed : List String) :
      list? text? (.array (listed.map fun category => .string (some category))) = some listed :=
    mapM_of_read text? (fun category => .string (some category)) (fun _ => rfl) listed
  let value (entry : String × List String) : String × Json :=
    (entry.1, .array (entry.2.map fun category => .string (some category)))
  have named : lexicon.toJson.namedFields? = some (lexicon.toList.map value) := by
    have fields := mapM_of_read (fun field : Option String × Json => field.1.map fun key => (key, field.2))
      (fun field => (some field.1, field.2)) (fun _ => rfl) (lexicon.toList.map value)
    rwa [List.map_map] at fields
  have entries : (lexicon.toList.map value).mapM
      (fun field => (list? text? field.2).map fun categories => (field.1, categories)) = some lexicon.toList :=
    mapM_of_read _ value (fun entry => by simp [value, categories]) lexicon.toList
  have read : table? (list? text?) lexicon.toJson = some lexicon.entries := by
    rw [table?, named]
    simp only [Option.bind_eq_bind, Option.bind_some, entries]
    rw [Lexicon.toList, ofList_toList]
    rfl
  rw [Lexicon.ofJson?, read, Option.map_some]

/-! ## The text and the lexicon -/

theorem ofJson?_write (blank : layout.Blank) (lexicon : Lexicon) :
    (parse? (lexicon.write layout)).bind Lexicon.ofJson? = some lexicon := by
  rw [parse?_write blank, Option.bind_some, ofJson?_toJson]

/-- A lexicon is the only one with its text. -/
theorem write_injective (blank : layout.Blank) {lexicon other : Lexicon}
    (same : other.write layout = lexicon.write layout) : other = lexicon := by
  apply Option.some.inj
  rw [← ofJson?_write blank other, ← ofJson?_write blank lexicon, same]

theorem load_of_find {lexicon : Lexicon} (spelled : (parse? text).bind Lexicon.ofJson? = some lexicon)
    (found : tree.find file = .ok (.file text.toUTF8)) : Lexicon.load tree file = .ok lexicon := by
  rw [Lexicon.load, found]
  simp only [fromUTF8?_toUTF8, Option.bind_some, spelled]

/-- What a save that succeeds leaves behind is found under the path that it was given. -/
theorem find_save {lexicon : Lexicon} (saved : ((lexicon.save file).run tree).result = .ok ()) :
    ((lexicon.save file).run tree).tree.find file = .ok (.file lexicon.savedText.toUTF8) := by
  cases written : tree.write file lexicon.savedText with
  | error fault => simp [Lexicon.save, Job.write, written] at saved
  | ok after => simpa [Lexicon.save, Job.write, written] using FileTree.find_write written

/-- Nothing of a lexicon is lost in its text. Both texts are read as the lexicon, from a file as well; a lexicon that
was saved is loaded again; and lexicons with the same text are the same. -/
theorem written_lossless (lexicon : Lexicon) :
    (∀ text, text = lexicon.savedText ∨ text = lexicon.compactText →
      (parse? text).bind Lexicon.ofJson? = some lexicon ∧
      ∀ tree file, tree.find file = .ok (.file text.toUTF8) → Lexicon.load tree file = .ok lexicon) ∧
    (∀ tree file, ((lexicon.save file).run tree).result = .ok () →
      Lexicon.load ((lexicon.save file).run tree).tree file = .ok lexicon) ∧
    ∀ other : Lexicon, other.savedText = lexicon.savedText ∨ other.compactText = lexicon.compactText →
      other = lexicon := by
  have saved := ofJson?_write indented_blank lexicon
  have compact := ofJson?_write compact_blank lexicon
  refine ⟨?_, fun tree file done => load_of_find saved (find_save done), ?_⟩
  · rintro text (rfl | rfl)
    · exact ⟨saved, fun _ _ => load_of_find saved⟩
    · exact ⟨compact, fun _ _ => load_of_find compact⟩
  · rintro other (same | same)
    · exact write_injective indented_blank same
    · exact write_injective compact_blank same

/-- A lexicon with an unsorted list that repeats a category, and with characters that must be escaped. -/
def oddities : Lexicon where
  entries := Std.ExtTreeMap.ofList [("", []), ("a\\\"\n\x01/\x7f😀", ["vb_o", "adv", "vb_o", ""])]

theorem oddities_loaded :
    ((oddities.save ⟨"lexicon.json"⟩).run {}).result = .ok () ∧
    Lexicon.load ((oddities.save ⟨"lexicon.json"⟩).run {}).tree ⟨"lexicon.json"⟩ = .ok oddities := by
  have saved : ((oddities.save ⟨"lexicon.json"⟩).run {}).result = .ok () := by rfl
  exact ⟨saved, (written_lossless oddities).2.1 _ _ saved⟩

end Wordbook
