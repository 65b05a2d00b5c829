import Mathlib.Data.Set.Card
import Wordbook.Proofs.Contents
import Wordbook.Proofs.Sources.Oversight
import Wordbook.Proofs.Vocabulary

/-! What the summary of a build counts. Its words are those of the lexicon. Its categories are counted before the
lexicon is made, and the lexicon has no trace of a category without words; so they are those that the lexicon lists and,
beside them, those that the sources name without having a word for them. Of the noun classes those are counted whose
files are read. These are all files of classes unless the path of one is too long; a data file whose name is that of no
class does not count. -/
namespace Wordbook

variable {config : Config} {output : Path} {tree : FileTree} {summary : Summary}
variable {sources : Sources} {nouns : Table WordSet} {lexicon : Lexicon} {stats : Stats}
variable {classes : List VerbClass} {filing : Filing} {category tag : String} {place : Location}

/-! ## Tables and sets -/

section Resolved
variable (resolved : (resolveNouns sources.nouns).outcome = .ok nouns)
include resolved

end Resolved

end Wordbook
