import Wordbook.CommandLine.LogFilter
import Wordbook.Pattern.Basic

/-! Log settings, the texts that log filters are written as. A setting is a list of directives with commas
between them. A directive is a level, which goes for everything, or it begins with an address, with a bracket
that names a stretch of work or, in braces, a field, or with both. Behind these an equals sign and a level
may stand; without them everything is let through. -/
namespace Wordbook.CommandLine

namespace Threshold

/-- The threshold that goes with a number: nothing at all, and then one level more for each number. -/
def ofNumber? : Nat → Option Threshold
  | 0 => some nothing
  | 1 => some (upTo .error)
  | 2 => some (upTo .warn)
  | 3 => some (upTo .info)
  | 4 => some (upTo .debug)
  | 5 => some (upTo .trace)
  | _ => none

/-- The number that a text spells, which may have a plus sign. -/
def number? (text : List Char) : Option Nat :=
  let digits := match text with
    | '+' :: rest => rest
    | text => text
  if digits.all Char.isDigit then (String.ofList digits).toNat? else none

/-- The threshold that a text gives, by the number or by the name of a level in letters of either case. -/
def ofLevel? (text : List Char) : Option Threshold :=
  match number? text with
  | some number => ofNumber? number
  | none => match String.ofList (text.map Char.toLower) with
    | "off" => some nothing
    | "error" => some (upTo .error)
    | "warn" => some (upTo .warn)
    | "info" => some (upTo .info)
    | "debug" => some (upTo .debug)
    | "trace" => some (upTo .trace)
    | _ => none

end Threshold

namespace FieldCondition

/-- Whether the text is a decimal number without a sign: digits, a point somewhere among them or next to
them, and perhaps an exponent. -/
def isDecimal (text : List Char) : Bool :=
  let (whole, rest) := text.span Char.isDigit
  let (fraction, rest) := match rest with
    | '.' :: rest => rest.span Char.isDigit
    | rest => ([], rest)
  (!whole.isEmpty || !fraction.isEmpty) && match rest with
    | [] => true
    | mark :: rest => (mark == 'e' || mark == 'E') &&
      match rest with
      | '+' :: digits | '-' :: digits | digits => !digits.isEmpty && digits.all Char.isDigit

/-- Whether the text is a number with a plus sign, a limitless one or one that is no number among them. -/
def isPositive : List Char → Bool
  | '+' :: rest => isDecimal rest ||
    ["inf", "infinity", "nan"].contains (String.ofList (rest.map Char.toLower))
  | _ => false

/-- The condition that a text spells: a name and perhaps, behind an equals sign, what the value is compared
with. That is a number or a pattern; numbers without a plus sign are patterns as well. A second equals sign
and all behind it say nothing. -/
def parse? (text : List Char) : Option FieldCondition :=
  if text.isEmpty then none
  else match text.span (· != '=') with
    | (name, []) => some { name := name }
    | (name, _ :: value) =>
      let value := value.takeWhile (· != '=')
      if isPositive value || Pattern.isPattern value then some { name := name, pattern := some value }
      else none

end FieldCondition

/-- A place for a byte in the text of a directive: the mark that is seen there, and the byte that is taken from
there. -/
structure Place where
  mark : Option Char
  byte : UInt8

namespace Place

/-- The bytes of a text. -/
def bytes (text : List Char) : List UInt8 := (String.ofList text).toUTF8.toList

/-- The places of a text. The marks are those of the text without the blanks around it and are counted from
its beginning, the bytes are those of the whole text. So blanks in front put every part of a directive out of
place by as many bytes as they have, and blanks at the end are places without a mark. -/
def ofText (text : List Char) : List Place :=
  let marks := (bytes (Text.withoutOuterBlanks text)).map fun byte => some (Char.ofNat byte.toNat)
  let whole := bytes text
  (marks ++ List.replicate (whole.length - marks.length) none).zipWith Place.mk whole

/-- The text that is taken from places, unless it begins or ends within a character. -/
def text? (places : List Place) : Option (List Char) :=
  (String.fromUTF8? ⟨(places.map Place.byte).toArray⟩).map String.toList

/-- The places up to the first of some marks, and those from it on. -/
def splitAt (marks : List Char) (places : List Place) : List Place × List Place :=
  places.span fun place => !place.mark.any marks.contains

end Place

namespace Directive

/-- Whether a directive may begin with the character. -/
def mayBeginWith (c : Char) : Bool := "-:_[".toList.contains c || Text.isAlphanumeric c

/-- The threshold that stands behind an equals sign. Where nothing stands there, everything is let through. -/
def threshold? (level : List Char) : Option Threshold :=
  if level.isEmpty then some (.upTo .trace) else Threshold.ofLevel? level

/-- The threshold that the end of a directive gives, which may be missing. -/
def lastThreshold? : List Place → Option Threshold
  | ⟨some '=', _⟩ :: level => do threshold? (← Place.text? level)
  | ⟨some _, _⟩ :: _ => none
  | _ => some (.upTo .trace)

/-- The directive that goes on behind its address, from behind the opening bracket. -/
def bracketed? (address : List Char) (places : List Place) : Option Directive :=
  match Place.splitAt [']', '{'] places with
  | (span, ⟨some ']', _⟩ :: rest) => do
    return { address := address, span := some (← Place.text? span), threshold := ← lastThreshold? rest }
  | (span, ⟨some '{', _⟩ :: rest) => match Place.splitAt ['}'] rest with
    | (field, _ :: ⟨some ']', _⟩ :: rest) => do
      let span ← Place.text? span
      return {
        address := address
        span := if span.isEmpty then none else some span
        field := some (← FieldCondition.parse? (← Place.text? field))
        threshold := ← lastThreshold? rest }
    | _ => none
  | _ => none

/-- The directive that a text spells. -/
def parse? (text : List Char) : Option Directive :=
  if (Text.withoutOuterBlanks text).head?.any mayBeginWith then
    match Place.splitAt ['=', '['] (Place.ofText text) with
    | (_, []) => match Threshold.ofLevel? text with
      | some threshold => some { threshold := threshold }
      | none => some { address := text, threshold := .upTo .trace }
    | (address, ⟨some '=', _⟩ :: level) => do
      return { address := ← Place.text? address, threshold := ← threshold? (← Place.text? level) }
    | (address, _ :: rest) => do bracketed? (← Place.text? address) rest
  else none

end Directive

/-- The filter that a log setting makes. Empty pieces say nothing, and a piece that is no directive makes the
whole setting void. -/
def LogFilter.ofSetting? (setting : String) : Option LogFilter := do
  let pieces := (setting.toList.splitOn ',').filter fun piece => !piece.isEmpty
  return ⟨← pieces.mapM Directive.parse?⟩

end Wordbook.CommandLine
