import Wordbook.Assembly
import Wordbook.Config.Basic
import Wordbook.Job
import Wordbook.Lexicon.Text
import Wordbook.Sources.Load

/-! A build: the sources are loaded and assembled, and the lexicon is written. The write is the last step
that can fail, so a build either leaves the tree as it was or has written its output and nothing else. -/
namespace Wordbook

/-- What a build wrote, and how much of it. -/
structure Summary where
  output : Path
  stats : Stats
deriving DecidableEq, Repr

/-- Writes the lexicon to a file. -/
def Lexicon.save (lexicon : Lexicon) (file : Path) : Job Unit := .write file lexicon.savedText

/-- Builds the lexicon of the sources that a configuration names. -/
def buildLexicon (config : Config) (output : Path) : Job Summary := do
  .report [.buildStarted config.sourceDir]
  let sources ← .consult (Sources.load config)
  let (lexicon, stats) ← .consult fun _ => assemble sources
  lexicon.save output
  .report [.lexiconWritten output lexicon.size]
  return { output := output, stats := stats }

end Wordbook
