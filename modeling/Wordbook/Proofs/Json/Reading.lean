import Wordbook.Json.Document
import Wordbook.Proofs.Json.Lexing

/-! What the reader makes of the tokens of a value. It puts the value into whatever is open at that point, so a value
can stand by itself, in an array or behind a key, and an array or object is read if its parts are. -/
namespace Wordbook.Json

/-- Where a value may begin the reader goes through the tokens and puts the value into what is open. -/
def Reads (tokens : List Token) (value : Json) : Prop :=
  ∀ opened expected, expected = .value ∨ expected = .firstItem →
    tokens.foldlM Reader.step { opened := opened, expected := expected } = Reader.fill value opened

/-- The tokens are those of a field: its key, a colon, and what gives its value. -/
inductive ReadsField : List Token → Option String × Json → Prop where
  | field {key : Option String} {tokens : List Token} {value : Json} (reads : Reads tokens value) :
      ReadsField (.scalar (.string key) :: .colon :: tokens) (key, value)

variable {tokens : List Token} {parts : List (List Token)} {value : Json} {values : List Json}
variable {fields : List (Option String × Json)} {opened outer : List Holder}

theorem ofTokens?_of_reads (reads : Reads tokens value) : ofTokens? tokens = some value := by
  simp [ofTokens?, reads [] .value (.inl rfl), Reader.fill, Reader.finish]

theorem reads_scalar (value : Json) : Reads [.scalar value] value := by
  have open_stays (opened : List Holder) : Reader.close opened (.scalar value) = none := by
    unfold Reader.close
    split <;> simp_all
  rintro opened expected (rfl | rfl)
  · simp [Reader.step, Reader.beginValue]
  · simp [Reader.step, Reader.beginValue, open_stays]

/-- A bracket that opens is read alike where a value must come and where an item may come. -/
theorem step_opening {token : Token} {expected : Expected} (start : expected = .value ∨ expected = .firstItem)
    (opening : token = .openArray ∨ token = .openObject) :
    Reader.step { opened := opened, expected := expected } token = Reader.beginValue opened token := by
  have open_stays : Reader.close opened token = none := by
    unfold Reader.close
    rcases opening with rfl | rfl <;> split <;> simp_all
  rcases start with rfl | rfl <;> simp [Reader.step, open_stays]

/-- Parts behind commas are put into the innermost array or object one after another, if each of them is put into it
behind a comma. -/
theorem foldlM_separated {α : Type} {items : List α} {held : List α → Holder} {behindComma : Expected}
    (comma : ∀ before, Reader.step { opened := held before :: outer, expected := .separator } .comma =
      some { opened := held before :: outer, expected := behindComma })
    (each : List.Forall₂ (fun part item => ∀ before, part.foldlM Reader.step
        { opened := held before :: outer, expected := behindComma } =
      some { opened := held (item :: before) :: outer, expected := .separator }) parts items) (before : List α) :
    (parts.flatMap (.comma :: ·)).foldlM Reader.step { opened := held before :: outer, expected := .separator } =
      some { opened := held (items.reverse ++ before) :: outer, expected := .separator } := by
  induction each generalizing before with
  | nil => rfl
  | @cons part item _ _ first _ ih =>
    rw [List.flatMap_cons, List.cons_append, List.foldlM_cons, comma]
    simp only [Option.bind_eq_bind, Option.bind_some, List.foldlM_append, first before]
    simpa using ih (item :: before)

/-! ## Arrays -/

theorem foldlM_items (each : List.Forall₂ Reads parts values) (before : List Json) :
    (parts.flatMap (.comma :: ·)).foldlM Reader.step { opened := .items before :: outer, expected := .separator } =
      some { opened := .items (values.reverse ++ before) :: outer, expected := .separator } := by
  refine foldlM_separated (fun _ => rfl) (each.imp fun part value reads before => ?_) before
  rw [reads _ .value (.inl rfl), Reader.fill]

theorem reads_array (each : List.Forall₂ Reads parts values) :
    Reads (.openArray :: separated parts ++ [.closeArray]) (.array values) := by
  intro opened expected start
  rw [List.cons_append, List.foldlM_cons, step_opening start (.inl rfl)]
  cases each with
  | nil => simp [Reader.beginValue, separated, Reader.step, Reader.close]
  | cons first rest =>
    simp [Reader.beginValue, separated, first _ _ (.inr rfl), Reader.fill, foldlM_items rest, Reader.step,
      Reader.close]

/-! ## Objects -/

/-- The tokens of a field put it into the innermost object, in front of the first comma and behind any other. -/
theorem foldlM_field {field : Option String × Json} {expected : Expected} (reads : ReadsField tokens field)
    (start : expected = .firstKey ∨ expected = .key) (before : List (Option String × Json)) :
    tokens.foldlM Reader.step { opened := .fields before :: outer, expected := expected } =
      some { opened := .fields (field :: before) :: outer, expected := .separator } := by
  cases reads with
  | @field key tokens value reads =>
    have begun : Reader.step { opened := .fields before :: outer, expected := expected } (.scalar (.string key)) =
        some { opened := .field before key :: outer, expected := .colon } := by
      rcases start with rfl | rfl <;> rfl
    have colon : Reader.step { opened := .field before key :: outer, expected := .colon } .colon =
        some { opened := .field before key :: outer, expected := .value } := rfl
    rw [List.foldlM_cons, begun]
    simp [colon, reads _ _ (.inl rfl), Reader.fill]

theorem foldlM_fields (each : List.Forall₂ ReadsField parts fields) (before : List (Option String × Json)) :
    (parts.flatMap (.comma :: ·)).foldlM Reader.step { opened := .fields before :: outer, expected := .separator } =
      some { opened := .fields (fields.reverse ++ before) :: outer, expected := .separator } :=
  foldlM_separated (fun _ => rfl) (each.imp fun _ _ reads => foldlM_field reads (.inr rfl)) before

theorem reads_object (each : List.Forall₂ ReadsField parts fields) :
    Reads (.openObject :: separated parts ++ [.closeObject]) (.object fields) := by
  intro opened expected start
  rw [List.cons_append, List.foldlM_cons, step_opening start (.inr rfl)]
  cases each with
  | nil => simp [Reader.beginValue, Reader.beginField, separated, Reader.step, Reader.close]
  | cons first rest =>
    simp [Reader.beginValue, separated, foldlM_field first (.inl rfl), foldlM_fields rest, Reader.step, Reader.close]

end Wordbook.Json
