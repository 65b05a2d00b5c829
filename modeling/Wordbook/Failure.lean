import Wordbook.Noun.Class
import Wordbook.Path

/-! What can stop a build. A failure names the path or the classes at fault and its cause; the wording of
every message is kept here. -/
namespace Wordbook

/-- Why a file could not be read or written. -/
inductive Fault where
  | notFound
  | notADirectory
  | isADirectory
  | nameTooLong
  | nulCharacter
  | invalidText
deriving DecidableEq, Repr

/-- The fault in words. -/
def Fault.message : Fault → String
  | notFound => "no such file or directory"
  | notADirectory => "not a directory"
  | isADirectory => "is a directory"
  | nameTooLong => "the name is too long"
  | nulCharacter => "the path holds a NUL character"
  | invalidText => "the file is not valid UTF-8 text"

/-- What stopped a build. -/
inductive Failure where
  /-- A file could not be read or written. -/
  | unreadable (path : Path) (fault : Fault)
  /-- A data file is no JSON text of its kind. -/
  | malformedJson (path : Path)
  /-- A configuration file is no TOML text with the settings of a build. -/
  | malformedConfig (path : Path)
  /-- The root of the source tree is no directory. -/
  | invalidSourceDir (path : Path)
  /-- A noun class takes in one of the opposite countability. -/
  | countability (mismatch : CountabilityMismatch)
deriving DecidableEq, Repr

namespace Failure

/-- What failed, without the reason. -/
def subject : Failure → String
  | unreadable path _ => "Failed to read " ++ path.quoted
  | malformedJson path => "Failed to parse JSON in " ++ path.quoted
  | malformedConfig path => "Failed to parse config " ++ path.quoted
  | invalidSourceDir path => "source_dir " ++ path.quoted ++ " is not a valid directory"
  | countability mismatch =>
    "Countability mismatch: '" ++ mismatch.cls ++ "' (countable=" ++ toString mismatch.countable ++
      ") includes '" ++ mismatch.included ++ "' (countable=" ++ toString mismatch.includedCountable ++ ")"

/-- Why it failed, where the subject does not say so already. -/
def reason? : Failure → Option String
  | unreadable _ fault => some fault.message
  | malformedJson _ => some "not the expected JSON"
  | malformedConfig _ => some "not the expected TOML"
  | invalidSourceDir _ | countability _ => none

/-- The message: what failed and, after a colon, why. -/
def message (failure : Failure) : String :=
  match failure.reason? with
  | some reason => failure.subject ++ ": " ++ reason
  | none => failure.subject

end Failure

end Wordbook
