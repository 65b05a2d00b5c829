import Wordbook.Failure
import Wordbook.Noun.Resolution
import Wordbook.Text.Terminal
import Wordbook.Verb.Class

/-! The log of a build: a list of events, each with a level of its own and an address that tells the part of
the program it comes from. Events are data, so what a build reports can be reasoned about without the
wording; the wording is kept here as well. -/
namespace Wordbook

/-- How much an event matters, the gravest first. -/
inductive Level where
  | error
  | warn
  | info
  | debug
  | trace
deriving DecidableEq, Repr

namespace Level

/-- The place of a level in the order of gravity. -/
def rank : Level → Nat
  | error => 1
  | warn => 2
  | info => 3
  | debug => 4
  | trace => 5

/-- The name that stands in front of a message. -/
def label : Level → String
  | error => "ERROR"
  | warn => "WARN"
  | info => "INFO"
  | debug => "DEBUG"
  | trace => "TRACE"

/-- The line that the log shows for a message. -/
def line (level : Level) (message : String) : String :=
  level.label ++ " " ++ Text.forTerminal message

end Level

/-- Something that a build reports. -/
inductive Event where
  | buildStarted (sourceDir : Path)
  | directoryMissing (dir : Path)
  | fileSkipped (file : Path)
  | sourcesLoaded (nouns adjectives adverbs prepositions verbs : Nat)
  | cycleCut (cls : String)
  | undefinedInclusion (cls included : String)
  | undefinedClass (cls : String)
  | nounsResolved (count : Nat)
  | memberSkipped (member : String)
  | frameUnmatched (member : String) (slots : List String)
  | verbsClassified (count : Nat)
  | lexiconWritten (output : Path) (words : Nat)
  | failed (failure : Failure)
deriving DecidableEq, Repr

namespace Event

/-- The level of an event. -/
def level : Event → Level
  | buildStarted _ | sourcesLoaded .. | nounsResolved _ | verbsClassified _ | lexiconWritten .. => .info
  | directoryMissing _ | fileSkipped _ | undefinedInclusion .. | undefinedClass _ => .warn
  | cycleCut _ | memberSkipped _ | frameUnmatched .. => .debug
  | failed _ => .error

/-- The message of an event. -/
def message : Event → String
  | buildStarted sourceDir => "Building lexicon from " ++ sourceDir.text
  | directoryMissing dir => "Source directory " ++ dir.quoted ++ " not found, skipping"
  | fileSkipped file => "Skipping " ++ file.quoted ++ ": file name is not valid UTF-8"
  | sourcesLoaded nouns adjectives adverbs prepositions verbs =>
    "Loaded " ++ toString nouns ++ " noun, " ++ toString adjectives ++ " adjective, " ++
      toString adverbs ++ " adverb, " ++ toString prepositions ++ " preposition and " ++
      toString verbs ++ " verb class files"
  | cycleCut cls => "Inclusion cycle through noun class '" ++ cls ++ "' broken"
  | undefinedInclusion cls included =>
    "Noun class '" ++ cls ++ "' includes undefined class '" ++ included ++ "'"
  | undefinedClass cls => "Noun class '" ++ cls ++ "' is referenced but not defined"
  | nounsResolved count => "Resolved " ++ toString count ++ " noun classes"
  | memberSkipped member => "Skipping member '" ++ member ++ "': unrecognized phrasal shape"
  | frameUnmatched member slots =>
    "No category for '" ++ member ++ "' in frame " ++ Text.quotedList slots
  | verbsClassified count => "Classified verbs into " ++ toString count ++ " frame categories"
  | lexiconWritten output words =>
    "Wrote " ++ output.text ++ " with " ++ toString words ++ " unique words."
  | failed failure => failure.message

/-- The address that an event is reported under: the name of the program and, in front of the part that
reports it, the parts that one lies in, with two colons between them. -/
def address : Event → String
  | failed _ => "lexicon_builder"
  | buildStarted _ | lexiconWritten .. => "lexicon_builder::lexicon_generator"
  | directoryMissing _ | fileSkipped _ | sourcesLoaded .. =>
    "lexicon_builder::parsing::source_loader"
  | cycleCut _ | undefinedInclusion .. | undefinedClass _ => "lexicon_builder::engine::noun_hierarchy"
  | memberSkipped _ | frameUnmatched .. => "lexicon_builder::engine::verb_classifier"
  | nounsResolved _ | verbsClassified _ => "lexicon_builder::engine::assembler"

/-- The line that the log shows for an event. Line breaks in the message stay, so it may take up more than
one line of the screen. -/
def line (event : Event) : String := event.level.line event.message

end Event

/-- What the log says of a step of the search through the noun classes. Entering a class goes unsaid. -/
def SearchStep.event? : SearchStep → Option Event
  | entered _ => none
  | cycleCut cls => some (.cycleCut cls)
  | undefinedInclusion cls included => some (.undefinedInclusion cls included)
  | undefinedClass cls => some (.undefinedClass cls)

/-- What the log says of a finding. A verb that got its tag goes unsaid. -/
def VerbFinding.event? : VerbFinding → Option Event
  | filed _ _ => none
  | unrecognized member => some (.memberSkipped member)
  | unmatched member slots => some (.frameUnmatched member slots)

end Wordbook
