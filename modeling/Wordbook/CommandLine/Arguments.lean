import Wordbook.Path

/-! The arguments of the command line. Options may be given in a long form, `--output FILE` or
`--output=FILE`, and in a short form, `-o FILE`, `-oFILE` or `-o=FILE`; short forms without a value may
share one dash. Arguments are taken from left to right, and the first fault is the one that is reported. -/
namespace Wordbook.CommandLine

/-- An option that takes a value. -/
inductive ValueOption where
  | output
  | config
  | sourceDir
deriving DecidableEq, Repr

/-- An option that takes none. -/
inductive Switch where
  | verbose
  | quiet
  | help
deriving DecidableEq, Repr

/-- What the name of an option stands for. -/
inductive OptionName where
  | valued (option : ValueOption)
  | switch (switch : Switch)
deriving DecidableEq, Repr

/-- The option with a long name. -/
def OptionName.ofLong? : String → Option OptionName
  | "output" => some (.valued .output)
  | "config" => some (.valued .config)
  | "source-dir" => some (.valued .sourceDir)
  | "verbose" => some (.switch .verbose)
  | "quiet" => some (.switch .quiet)
  | "help" => some (.switch .help)
  | _ => none

/-- The option with a short name. -/
def OptionName.ofShort? : Char → Option OptionName
  | 'o' => some (.valued .output)
  | 'c' => some (.valued .config)
  | 's' => some (.valued .sourceDir)
  | 'v' => some (.switch .verbose)
  | 'q' => some (.switch .quiet)
  | 'h' => some (.switch .help)
  | _ => none

/-- The long name of an option that takes a value. -/
def ValueOption.name : ValueOption → String
  | output => "--output"
  | config => "--config"
  | sourceDir => "--source-dir"

/-- The long name of an option that takes no value. -/
def Switch.name : Switch → String
  | verbose => "--verbose"
  | quiet => "--quiet"
  | help => "--help"

/-- What is wrong with the arguments. -/
inductive UsageFault where
  | unexpected (argument : String)
  | repeated (name : String)
  | missingValue (name : String)
  | emptyValue (name : String)
  | needlessValue (name : String)
  | conflict (first second : String)
deriving DecidableEq, Repr

/-- The fault in words. -/
def UsageFault.message : UsageFault → String
  | unexpected argument => "unexpected argument '" ++ argument ++ "'"
  | repeated name => "the option " ++ name ++ " cannot be given twice"
  | missingValue name => "the option " ++ name ++ " needs a value"
  | emptyValue name => "the value of the option " ++ name ++ " must not be empty"
  | needlessValue name => "the option " ++ name ++ " takes no value"
  | conflict first second => "the options " ++ first ++ " and " ++ second ++ " exclude each other"

/-- The options that were given. -/
structure Options where
  output : Option Path := none
  config : Option Path := none
  sourceDir : Option Path := none
  verbose : Bool := false
  quiet : Bool := false
deriving DecidableEq, Repr

/-- What the arguments ask for. -/
inductive Request where
  | help
  | build (options : Options)
deriving DecidableEq, Repr

/-- The value that an option was given. -/
def Options.value? (options : Options) : ValueOption → Option Path
  | .output => options.output
  | .config => options.config
  | .sourceDir => options.sourceDir

/-- Gives an option its value. -/
def Options.give (options : Options) (option : ValueOption) (value : String) :
    Except UsageFault Options :=
  if (options.value? option).isSome then .error (.repeated option.name)
  else if value = "" then .error (.emptyValue option.name)
  else .ok (match option with
    | .output => { options with output := some ⟨value⟩ }
    | .config => { options with config := some ⟨value⟩ }
    | .sourceDir => { options with sourceDir := some ⟨value⟩ })

/-- Sets a switch. Asking for help puts an end to everything else. -/
def Options.turnOn (options : Options) : Switch → Except UsageFault Request
  | .verbose =>
    if options.verbose then .error (.repeated Switch.verbose.name)
    else .ok (.build { options with verbose := true })
  | .quiet =>
    if options.quiet then .error (.repeated Switch.quiet.name)
    else .ok (.build { options with quiet := true })
  | .help => .ok .help

/-- Whether an argument has the form of an option and so cannot be the value of one. A lone dash can. -/
def looksLikeOption (argument : String) : Bool :=
  match argument.toList with
  | '-' :: _ :: _ => true
  | _ => false

/-- Splits a long option into its name and the value behind an equals sign, if there is one. -/
def splitLong (text : List Char) : String × Option String :=
  match text.span (· != '=') with
  | (name, []) => (String.ofList name, none)
  | (name, _ :: value) => (String.ofList name, some (String.ofList value))

/-- What is left to do after some arguments. -/
inductive Pending where
  | request (request : Request)
  /-- The next argument is the value of an option. -/
  | value (option : ValueOption) (options : Options)

/-- Takes in the short options behind one dash. The characters behind an option that takes a value are
that value, with or without an equals sign in front of it. -/
def takeShort (argument : String) (options : Options) : List Char → Except UsageFault Pending
  | [] => .ok (.request (.build options))
  | letter :: rest =>
    match OptionName.ofShort? letter with
    | none => .error (.unexpected argument)
    | some (.switch switch) => do
      match ← options.turnOn switch with
      | .help => .ok (.request .help)
      | .build options => takeShort argument options rest
    | some (.valued option) =>
      match rest with
      | [] => .ok (.value option options)
      | '=' :: value => do return .request (.build (← options.give option (String.ofList value)))
      | value => do return .request (.build (← options.give option (String.ofList value)))

/-- Takes in a long option. -/
def takeLong (argument : String) (options : Options) (text : List Char) : Except UsageFault Pending :=
  match splitLong text with
  | (name, value?) =>
    match OptionName.ofLong? name, value? with
    | none, _ => .error (.unexpected argument)
    | some (.switch switch), some _ => .error (.needlessValue switch.name)
    | some (.switch switch), none => (options.turnOn switch).map .request
    | some (.valued option), some value => do return .request (.build (← options.give option value))
    | some (.valued option), none => .ok (.value option options)

/-- Takes in one argument that is not the value of an option. -/
def takeArgument (argument : String) (options : Options) : Except UsageFault Pending :=
  match argument.toList with
  | '-' :: '-' :: text => takeLong argument options text
  | '-' :: letter :: rest => takeShort argument options (letter :: rest)
  | _ => .error (.unexpected argument)

/-- Checks the options once all of them are given. -/
def Options.check (options : Options) : Except UsageFault Request :=
  if options.verbose && options.quiet then .error (.conflict Switch.verbose.name Switch.quiet.name)
  else .ok (.build options)

/-- Takes in the arguments that are left. Two dashes end the options, and nothing may follow them. -/
def takeAll (options : Options) : List String → Except UsageFault Request
  | [] => options.check
  | ["--"] => options.check
  | "--" :: argument :: _ => .error (.unexpected argument)
  | argument :: rest => do
    match ← takeArgument argument options, rest with
    | .request .help, _ => .ok .help
    | .request (.build options), rest => takeAll options rest
    | .value option _, [] => .error (.missingValue option.name)
    | .value option options, value :: rest =>
      if looksLikeOption value then .error (.missingValue option.name)
      else takeAll (← options.give option value) rest

/-- What the arguments ask for. -/
def parse (arguments : List String) : Except UsageFault Request := takeAll {} arguments

/-- The text that explains the arguments. -/
def helpText : String :=
  "Generate the word → categories lexicon from class and frame files\n\n" ++
  "Usage: wordbook [OPTIONS]\n\n" ++
  "Options:\n" ++
  "  -o, --output <OUTPUT>          Output path for the generated JSON [default: english.json]\n" ++
  "  -c, --config <CONFIG>          TOML file naming the source directories and tables\n" ++
  "  -s, --source-dir <SOURCE_DIR>  Root of the source tree; overrides source_dir from the config\n" ++
  "  -v, --verbose                  Log skipped members and frames\n" ++
  "  -q, --quiet                    Only log warnings and errors\n" ++
  "  -h, --help                     Print help\n"

end Wordbook.CommandLine
