import Wordbook.Event

/-! Filters for the log. A filter is a list of directives. A directive says which events it is about and how
much of the log it lets through: it is about the events whose addresses begin in a certain way, and it may
ask for a field that they carry. Of the directives about an event the closest one decides whether the event
is shown, and without any the event is not shown. -/
namespace Wordbook.CommandLine

/-- How much of the log is let through. -/
inductive Threshold where
  | nothing
  /-- Everything that is at least as grave as the level. -/
  | upTo (level : Level)
deriving DecidableEq, Repr

/-- Whether something of the level is let through. -/
def Threshold.admits : Threshold → Level → Bool
  | nothing, _ => false
  | upTo bound, level => level.rank ≤ bound.rank

/-- A condition on a field, for what is logged along with its fields. -/
structure FieldCondition where
  name : List Char
  /-- The pattern that the value has to match, where the value matters. -/
  pattern : Option (List Char) := none
deriving DecidableEq, Repr

/-- Whether an event meets the condition. An event has its message for its only field, and the message is
not compared with patterns: values are compared only for stretches of work, and the program marks none. -/
def FieldCondition.isMet (condition : FieldCondition) : Bool :=
  condition.name = "message".toList && condition.pattern.isNone

/-- A directive of a filter. -/
structure Directive where
  /-- What the addresses begin with that the directive is about. All addresses begin with nothing. -/
  address : List Char := []
  /-- The stretch of work that the directive is confined to, if it is confined to one. -/
  span : Option (List Char) := none
  field : Option FieldCondition := none
  threshold : Threshold
deriving DecidableEq, Repr

namespace Directive

/-- Whether the directive is about the event. No event belongs to a stretch of work. -/
def concerns (directive : Directive) (event : Event) : Bool :=
  directive.address.isPrefixOf event.address.toList && directive.span.isNone &&
    directive.field.all FieldCondition.isMet

/-- How closely the directive describes what it is about. The length of the address comes first, and then
it counts whether a field is asked for. -/
def closeness (directive : Directive) : Nat :=
  2 * directive.address.length + if directive.field.isSome then 1 else 0

/-- Of two directives, the one that decides where both are about an event, the second being the later. -/
def closer (first second : Directive) : Directive :=
  if first.closeness ≤ second.closeness then second else first

end Directive

/-- Which events are shown: the directives in the order in which they were given. -/
structure LogFilter where
  directives : List Directive
deriving DecidableEq, Repr

namespace LogFilter

/-- The filter that lets the same through for all events. -/
def uniform (threshold : Threshold) : LogFilter := ⟨[{ threshold := threshold }]⟩

/-- How much of the log is let through where the event comes from. -/
def thresholdFor (filter : LogFilter) (event : Event) : Threshold :=
  ((filter.directives.filter (·.concerns event)).foldl Directive.closer { threshold := .nothing }).threshold

/-- Whether an event is shown. -/
def shows (filter : LogFilter) (event : Event) : Bool :=
  (filter.thresholdFor event).admits event.level

end LogFilter

end Wordbook.CommandLine
