import Wordbook.Text.Quoted

/-! Bytes and texts. The names of files are bytes; mostly those of a text, but not always. For a message bytes are taken
apart into characters and strays, bytes that belong to none: what begins like a character and does not go on as one is
one stray. Bytes of a text have no strays. -/
namespace Wordbook

/-- Bytes, as the names of files consist of them. They need not be those of a text. -/
abbrev Bytes := List UInt8

/-- A text is what its bytes are read as, and no other bytes are read as it. -/
theorem fromUTF8?_eq_some_iff {content : ByteArray} {text : String} :
    String.fromUTF8? content = some text ↔ content = text.toUTF8 := by
  unfold String.fromUTF8?
  constructor
  · intro read
    split at read
    · cases read
      rfl
    · cases read
  · rintro rfl
    have valid : text.toUTF8.IsValidUTF8 := text.isValidUTF8
    rw [dif_pos valid]
    rfl

theorem fromUTF8?_toUTF8 (text : String) : String.fromUTF8? text.toUTF8 = some text := fromUTF8?_eq_some_iff.2 rfl

namespace Bytes

/-- The bytes of a text. -/
def ofText (text : String) : Bytes := text.toUTF8.data.toList

instance : Coe String Bytes := ⟨ofText⟩

/-- The text that bytes are those of, if there is one. -/
def text? (bytes : Bytes) : Option String := String.fromUTF8? ⟨bytes.toArray⟩

variable {bytes : Bytes} {text other : String}

theorem text?_eq_some_iff : bytes.text? = some text ↔ bytes = ofText text := by
  rw [text?, fromUTF8?_eq_some_iff, ofText, ByteArray.ext_iff, Array.toList_inj.symm]

@[simp] theorem text?_ofText (text : String) : text? (ofText text) = some text := text?_eq_some_iff.2 rfl

theorem ofText_injective (same : ofText text = ofText other) : text = other :=
  Option.some.inj (by rw [← text?_ofText text, same, text?_ofText])

@[simp] theorem ofText_append (text other : String) : ofText (text ++ other) = ofText text ++ ofText other := by
  simp [ofText]

theorem ofText_ofList (letters : List Char) :
    ofText (String.ofList letters) = letters.flatMap String.utf8EncodeChar := by
  simp [ofText, List.utf8Encode]

/-! ## Characters and strays -/

/-- The character that bytes begin with, if they begin with one. -/
def firstChar? (bytes : Bytes) : Option Char := ByteArray.utf8DecodeChar? ⟨(bytes.take 4).toArray⟩ 0

/-- Whether bytes are the first ones of some character, but not all of them. Those that can follow are in a range, so
it is enough to try its two ends. -/
def isBeginning (bytes : Bytes) : Bool :=
  [1, 2, 3].any fun count => [0x80, 0xBF].any fun follower =>
    (firstChar? (bytes ++ List.replicate count follower)).any (·.utf8Size == bytes.length + count)

/-- A part of bytes. -/
inductive Piece where
  /-- A character. -/
  | char (c : Char)
  /-- Bytes that belong to no character. -/
  | stray (bytes : Bytes)

/-- The number of bytes that a part consists of. -/
def Piece.size : Piece → Nat
  | char c => c.utf8Size
  | stray bytes => bytes.length

/-- The first part of bytes. What begins like a character is kept together as far as it does. -/
def firstPiece (bytes : Bytes) : Piece :=
  match firstChar? bytes with
  | some c => .char c
  | none => .stray (bytes.take ((([3, 2].find? fun count => isBeginning (bytes.take count))).getD 1))

/-- The parts of bytes, where a number of bytes in front is part of what was there before. -/
def piecesBehind : Nat → Bytes → List Piece
  | _, [] => []
  | passed + 1, _ :: rest => piecesBehind passed rest
  | 0, first :: rest =>
    let piece := firstPiece (first :: rest)
    piece :: piecesBehind (piece.size - 1) rest

/-- The characters and strays that bytes consist of. -/
def pieces (bytes : Bytes) : List Piece := piecesBehind 0 bytes

/-- Bytes of a character are read as it, whatever follows. -/
theorem firstChar?_char_append (c : Char) (rest : Bytes) :
    firstChar? (String.utf8EncodeChar c ++ rest) = some c := by
  have whole : (String.utf8EncodeChar c).length ≤ 4 := by simpa using c.utf8Size_le_four
  have front : (⟨((String.utf8EncodeChar c ++ rest).take 4).toArray⟩ : ByteArray) =
      (String.utf8EncodeChar c).toByteArray ++ (rest.take (4 - (String.utf8EncodeChar c).length)).toByteArray := by
    rw [List.take_append, List.take_of_length_le whole]
    ext1
    simp
  rw [firstChar?, front]
  exact ByteArray.utf8DecodeChar?_utf8EncodeChar_append

theorem piecesBehind_append {passed : Bytes} (rest : Bytes) :
    piecesBehind passed.length (passed ++ rest) = piecesBehind 0 rest := by
  induction passed with
  | nil => rfl
  | cons first more ih => exact ih

/-- A text has no strays. -/
theorem pieces_ofText (text : String) : pieces (ofText text) = text.toList.map .char := by
  rw [← String.ofList_toList (s := text), ofText_ofList, String.toList_ofList]
  induction text.toList with
  | nil => rfl
  | cons c rest ih =>
    have size : (String.utf8EncodeChar c).length = c.utf8Size := String.length_utf8EncodeChar c
    have first := firstChar?_char_append c (rest.flatMap String.utf8EncodeChar)
    rw [List.flatMap_cons, List.map_cons, ← ih]
    cases bytes : String.utf8EncodeChar c with
    | nil => exact absurd bytes String.utf8EncodeChar_ne_nil
    | cons byte more =>
      rw [bytes] at first size
      rw [List.cons_append] at first ⊢
      have behind : c.utf8Size - 1 = more.length := by simp [← size]
      simp only [pieces, piecesBehind, firstPiece, first, Piece.size, behind, piecesBehind_append]

/-! ## In messages -/

/-- A part of bytes as it is shown. A stray is shown as the sign for what cannot be shown. -/
def Piece.shown : Piece → Char
  | char c => c
  | stray _ => '\uFFFD'

/-- A part of bytes in a quotation. A stray is given byte by byte, in capital hexadecimal digits. -/
def Piece.quoted : Piece → List Char
  | char c => Text.quotedChar c
  | stray bytes => bytes.flatMap fun byte =>
    ['\\', 'x', (Nat.digitChar (byte.toNat / 16)).toUpper, (Nat.digitChar (byte.toNat % 16)).toUpper]

/-- Bytes as a text that shows them. -/
def shown (bytes : Bytes) : String := String.ofList (bytes.pieces.map Piece.shown)

/-- Bytes between double quotes. -/
def quoted (bytes : Bytes) : String := String.ofList ('"' :: bytes.pieces.flatMap Piece.quoted ++ ['"'])

@[simp] theorem shown_ofText (text : String) : shown (ofText text) = text := by
  simp [shown, pieces_ofText, Function.comp_def, Piece.shown]

@[simp] theorem quoted_ofText (text : String) : quoted (ofText text) = Text.quoted text := by
  simp [quoted, Text.quoted, pieces_ofText, List.flatMap_map, Piece.quoted]

example : quoted (ofText "caf" ++ [0xE9, 0xE2, 0x82] ++ ofText "é") = "\"caf\\xE9\\xE2\\x82é\"" := by decide +kernel

end Bytes

end Wordbook
