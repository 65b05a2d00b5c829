import Mathlib.Data.List.Forall2
import Wordbook.Json.Text
import Wordbook.Json.Token

/-! What the lexer makes of written text. A string is written as one token that gives the string back, whatever
characters it has, and the blanks of a layout leave no token. So brackets around written items become the tokens of
the items, with the marks around and between them. -/
namespace Wordbook.Json

/-- From between two tokens the lexer goes through a text to between two tokens again and has read these meanwhile. -/
def Lexes (text : List Char) (read : List Token) : Prop :=
  ∀ tokens, text.foldlM Lexer.step { tokens := tokens } = some { tokens := read.reverse ++ tokens }

/-- A layout that puts nothing but white space between the pieces of a text, besides the colons. -/
structure Layout.Blank (layout : Layout) : Prop where
  lineBreak : ∀ depth, ∀ c ∈ layout.lineBreak depth, isBlank c = true
  colon : Lexes layout.colon [.colon]

/-- The tokens of items with commas between them. -/
def separated : List (List Token) → List Token
  | [] => []
  | first :: rest => first ++ rest.flatMap (.comma :: ·)

variable {text more : List Char} {read readMore : List Token} {c letter : Char} {pieces : List Piece}
variable {tokens : List Token} {layout : Layout}

/-! ## One piece after another -/

theorem Lexes.nil : Lexes [] [] := fun _ => rfl

theorem Lexes.append (front : Lexes text read) (back : Lexes more readMore) :
    Lexes (text ++ more) (read ++ readMore) := by
  intro tokens
  rw [List.foldlM_append, front tokens]
  simp [back (read.reverse ++ tokens)]

theorem tokens?_of_lexes {text : String} (lexes : Lexes text.toList read) : tokens? text = some read := by
  simp [tokens?, lexes [], Lexer.finish]

theorem lexes_blanks (blank : ∀ c ∈ text, isBlank c = true) : Lexes text [] := by
  induction text with
  | nil => exact .nil
  | cons first rest ih =>
    obtain ⟨firstBlank, restBlank⟩ := List.forall_mem_cons.1 blank
    have quoteless : first ≠ '"' := by
      rintro rfl
      exact absurd firstBlank (by decide)
    intro tokens
    have step : Lexer.step { tokens := tokens } first = some { tokens := tokens } := by
      simp [Lexer.step, Lexer.start, quoteless, firstBlank]
    rw [List.foldlM_cons, step]
    exact ih restBlank tokens

theorem lexes_mark {mark : Token} (spelled : Token.ofMark? c = some mark) : Lexes [c] [mark] := by
  unfold Token.ofMark? at spelled
  split at spelled <;> cases spelled <;> exact fun _ => rfl

/-! ## Strings -/

theorem spell?_map_char (chars : List Char) : spell? (chars.map .char) = some chars := by
  induction chars with
  | nil => rfl
  | cons first rest ih => simp [spell?, ih]

theorem unescape?_of_shortEscape? (short : shortEscape? c = some letter) :
    letter ≠ 'u' ∧ unescape? letter = some c := by
  unfold shortEscape? at short
  split at short <;> cases short <;> decide

theorem ne_of_shortEscape?_eq_none (long : shortEscape? c = none) : c ≠ '"' ∧ c ≠ '\\' := by
  constructor
  · rintro rfl
    cases long
  · rintro rfl
    cases long

theorem hexDigit?_digitChar : ∀ digit < 16, Text.hexDigit? (Nat.digitChar digit) = some digit := by decide

/-- The two last digits of a long escape give its character back. -/
theorem foldlM_longEscape (control : c.toNat < 0x20) : (longEscape c).foldlM Lexer.step ⟨tokens, .string pieces⟩ =
    some ⟨tokens, .string (.char c :: pieces)⟩ := by
  have high := hexDigit?_digitChar (c.toNat / 16) (by omega)
  have low := hexDigit?_digitChar (c.toNat % 16) (by omega)
  have zero : Text.hexDigit? '0' = some 0 := by decide
  have value : 16 * (c.toNat / 16) + c.toNat % 16 = c.toNat := by omega
  have whole : Piece.ofUnit c.toNat = .char c := by
    have noHalf : (isHighHalf c.toNat || isLowHalf c.toNat) = false := by
      simp only [isHighHalf, isLowHalf, Bool.or_eq_false_iff, Bool.and_eq_false_iff, decide_eq_false_iff_not]
      omega
    simp [Piece.ofUnit, noHalf]
  simp [longEscape, Lexer.step, zero, high, low, value, whole]

/-- A written character is read as that character. -/
theorem foldlM_escaped (c : Char) (tokens : List Token) (pieces : List Piece) :
    (escaped c).foldlM Lexer.step ⟨tokens, .string pieces⟩ = some ⟨tokens, .string (.char c :: pieces)⟩ := by
  unfold escaped
  split
  · rename_i letter short
    obtain ⟨noNumber, meant⟩ := unescape?_of_shortEscape? short
    simp [Lexer.step, noNumber, meant]
  · rename_i long
    split
    · rename_i control
      exact foldlM_longEscape control
    · rename_i printed
      obtain ⟨quoteless, slashless⟩ := ne_of_shortEscape?_eq_none long
      simp [Lexer.step, quoteless, slashless, printed]

theorem foldlM_flatMap_escaped (chars : List Char) (tokens : List Token) (pieces : List Piece) :
    (chars.flatMap escaped).foldlM Lexer.step ⟨tokens, .string pieces⟩ =
      some ⟨tokens, .string ((chars.map .char).reverse ++ pieces)⟩ := by
  induction chars generalizing pieces with
  | nil => rfl
  | cons first rest ih =>
    rw [List.flatMap_cons, List.foldlM_append, foldlM_escaped]
    simpa using ih (.char first :: pieces)

theorem lexes_writeString (text : String) : Lexes (writeString text) [.scalar (.string (some text))] := by
  intro tokens
  have opening : Lexer.step { tokens := tokens } '"' = some ⟨tokens, .string []⟩ := rfl
  rw [writeString, List.cons_append, List.foldlM_cons, opening]
  simp [List.foldlM_append, foldlM_flatMap_escaped, Lexer.step, spell?_map_char]

/-! ## Brackets -/

theorem compact_blank : Layout.compact.Blank where
  lineBreak _ _ none := absurd none List.not_mem_nil
  colon := lexes_mark rfl

theorem indented_blank : Layout.indented.Blank where
  lineBreak depth c member := by
    rcases List.mem_cons.1 member with rfl | member
    · rfl
    · rw [List.eq_of_mem_replicate member]
      rfl
  colon := by
    have space : ∀ c ∈ [' '], isBlank c = true := by simp [isBlank]
    exact (lexes_mark rfl).append (lexes_blanks space)

theorem lexes_flatMap_comma {items : List (List Char)} {parts : List (List Token)} (blank : layout.Blank) (depth : Nat)
    (each : List.Forall₂ Lexes items parts) :
    Lexes (items.flatMap fun item => ',' :: layout.lineBreak depth ++ item) (parts.flatMap (.comma :: ·)) := by
  induction each with
  | nil => exact .nil
  | cons first _ ih =>
    have comma : Lexes [','] [.comma] := lexes_mark rfl
    simpa using ((comma.append (lexes_blanks (blank.lineBreak depth))).append first).append ih

theorem lexes_bracketed {items : List (List Char)} {parts : List (List Token)} {opening closing : Char}
    {openToken closeToken : Token} (blank : layout.Blank) (depth : Nat) (opens : Token.ofMark? opening = some openToken)
    (closes : Token.ofMark? closing = some closeToken) (each : List.Forall₂ Lexes items parts) :
    Lexes (layout.bracketed opening closing depth items) (openToken :: separated parts ++ [closeToken]) := by
  have front := lexes_mark opens
  have back := lexes_mark closes
  cases each with
  | nil => exact front.append back
  | cons first rest =>
    have inner := lexes_blanks (blank.lineBreak (depth + 1))
    have outer := lexes_blanks (blank.lineBreak depth)
    have whole := ((((front.append inner).append first).append (lexes_flatMap_comma blank (depth + 1) rest)).append
      outer).append back
    simpa [Layout.bracketed, separated] using whole

end Wordbook.Json
