import Wordbook.Build
import Wordbook.CommandLine.Arguments
import Wordbook.CommandLine.LogSetting
import Wordbook.Config.File

/-! A run of the program: from the arguments, the log setting and the file tree to the exit code, the log
and the tree afterwards. Faulty arguments and requests for help are answered before anything is read. -/
namespace Wordbook.CommandLine

/-- The filter that the options ask for. -/
def Options.filter (options : Options) : LogFilter :=
  .uniform (.upTo (if options.verbose then .debug else if options.quiet then .warn else .info))

/-- Where the lexicon is written. -/
def Options.outputPath (options : Options) : Path := options.output.getD ⟨"english.json"⟩

/-- The configuration that the options name. A root given by option replaces the one of the configuration
file, and it is taken as it was given. -/
def Options.settings (options : Options) (tree : FileTree) : Except Failure Config := do
  let config ← match options.config with
    | some file => Config.read tree file
    | none => .ok {}
  return match options.sourceDir with
    | some root => { config with sourceDir := root }
    | none => config

/-- The configuration of a run. Only the root that is used in the end has to be a directory. -/
def Options.configuration (options : Options) (tree : FileTree) : Except Failure Config := do
  (← options.settings tree).validate tree

/-- The build that the options ask for. -/
def Options.build (options : Options) : Job Summary := do
  let config ← .consult fun tree => .ofExcept (options.configuration tree)
  buildLexicon config options.outputPath

/-- What a run of the program comes to. -/
structure Outcome where
  exitCode : Nat
  /-- A text for the user when no build was asked for. -/
  notice : String := ""
  /-- The events that are shown. -/
  log : List Event := []
  tree : FileTree

/-- Runs the program. A log setting takes the place of the level that the options ask for. -/
def execute (arguments : List String) (setting : Option String) (tree : FileTree) : Outcome :=
  match parse arguments with
  | .error fault => { exitCode := 2, notice := "error: " ++ fault.message ++ "\n", tree := tree }
  | .ok .help => { exitCode := 0, notice := helpText, tree := tree }
  | .ok (.build options) =>
    let filter := (setting.bind LogFilter.ofSetting?).getD options.filter
    let outcome := options.build.run tree
    match outcome.result with
    | .ok _ => { exitCode := 0, log := outcome.log.filter filter.shows, tree := outcome.tree }
    | .error failure =>
      { exitCode := 1
        log := (outcome.log ++ [Event.failed failure]).filter filter.shows
        tree := outcome.tree }

end Wordbook.CommandLine
