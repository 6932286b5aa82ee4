import ReactiveScript.Config.Reader
import ReactiveScript.Diagnostic
import ReactiveScript.Machine.Run

/-! # The command line

A command names a script and the arguments for it, among options of its own. Options are read up to
the first argument for the script; behind the script, what is no option counts as an argument even
if it looks like one. Running a command gives what it prints and how it ends. -/

namespace ReactiveScript

/-- How much is logged. -/
inductive LogLevel where
  | error
  | warn
  | info
  | debug
  | trace
deriving DecidableEq, Repr

/-- The level of a word. -/
def LogLevel.ofWord? : String → Option LogLevel
  | "error" => some .error
  | "warn" => some .warn
  | "info" => some .info
  | "debug" => some .debug
  | "trace" => some .trace
  | _ => none

/-- A command to run a script. -/
structure Command where
  /-- The path of the script. -/
  script : String
  /-- The arguments for the script. -/
  arguments : List String
  /-- The path of the settings, if they are not to be looked for. -/
  config : Option String
  /-- How much is logged, if that is said. -/
  log : Option LogLevel
  /-- Whether only errors are logged. -/
  quiet : Bool
  /-- How often more logging was asked for. -/
  verbose : Nat
deriving DecidableEq, Repr

/-- What the words of a command line ask for. -/
inductive Request where
  | run (command : Command)
  | help
  | version
deriving DecidableEq, Repr

/-- Why the words of a command line are no command. -/
inductive UsageProblem where
  | unknownOption (word : String)
  | missingValue (option : String)
  | unexpectedValue (option : String)
  | invalidValue (option value : String)
  | repeatedOption (option : String)
  | missingScript
deriving DecidableEq, Repr

/-- The wording of a problem with a command line. -/
def UsageProblem.message : UsageProblem → String
  | .unknownOption word => s!"unexpected argument '{word}' found"
  | .missingValue option => s!"a value is required for '{option}' but none was supplied"
  | .unexpectedValue option => s!"unexpected value for '{option}' found; no more were expected"
  | .invalidValue option value => s!"invalid value '{value}' for '{option}'"
  | .repeatedOption option => s!"the argument '{option}' cannot be used multiple times"
  | .missingScript => "the following required arguments were not provided:\n  <SCRIPT>"

/-- An option. -/
inductive CommandOption where
  | config
  | verbose
  | quiet
  | log
  | help
  | version
deriving DecidableEq, Repr

namespace CommandOption

/-- All options. -/
def all : List CommandOption := [.config, .verbose, .quiet, .log, .help, .version]

/-- The word of an option behind two hyphens. -/
def long : CommandOption → String
  | .config => "config"
  | .verbose => "verbose"
  | .quiet => "quiet"
  | .log => "log"
  | .help => "help"
  | .version => "version"

/-- The letter of an option behind one hyphen. -/
def short? : CommandOption → Option Char
  | .config => some 'c'
  | .verbose => some 'v'
  | .quiet => some 'q'
  | .log => none
  | .help => some 'h'
  | .version => some 'V'

/-- Whether an option takes a value. -/
def takesValue : CommandOption → Bool
  | .config => true
  | .log => true
  | _ => false

/-- The option of a word. -/
def ofLong? (word : String) : Option CommandOption := all.find? (·.long = word)

/-- The option of a letter. -/
def ofShort? (letter : Char) : Option CommandOption := all.find? (·.short? = some letter)

/-- An option in messages. -/
def render (option : CommandOption) : String := "--" ++ option.long

end CommandOption

/-- What was read of a command. -/
structure CommandDraft where
  /-- The path of the script. -/
  script : Option String := none
  /-- The arguments for the script, last first. -/
  arguments : List String := []
  /-- The path of the settings. -/
  config : Option String := none
  /-- How much is logged. -/
  log : Option LogLevel := none
  /-- Whether only errors are logged. -/
  quiet : Bool := false
  /-- How often more logging was asked for. -/
  verbose : Nat := 0

/-- What the next word of a command line is read as. -/
inductive CommandState where
  /-- An option, the script, or an argument. -/
  | options
  /-- The value of an option. -/
  | value (option : CommandOption)
  /-- The script or an argument, whatever it looks like. -/
  | plain

/-- What a word of a command line leads to. -/
inductive CommandStep where
  | go (draft : CommandDraft) (state : CommandState)
  | help
  | version

/-- A word of a command line. -/
inductive CommandWord where
  /-- The word that ends the options. -/
  | divider
  /-- An option behind two hyphens, with the value behind an equals sign. -/
  | long (name : String) (value : Option String)
  /-- Letters behind one hyphen. -/
  | short (letters : List Char)
  | plain

/-- The kind of a word. -/
def CommandWord.ofText (word : String) : CommandWord :=
  match word.toList with
  | ['-', '-'] => .divider
  | '-' :: '-' :: rest =>
    let name := rest.takeWhile (· ≠ '=')
    let value := rest.drop (name.length + 1)
    .long (String.ofList name)
      (if name.length < rest.length then some (String.ofList value) else none)
  | '-' :: letter :: rest => .short (letter :: rest)
  | _ => .plain

namespace CommandDraft

/-- The draft with the value of an option. -/
def give (draft : CommandDraft) (option : CommandOption) (value : String) :
    Except UsageProblem CommandDraft := do
  match option with
  | .config =>
    if draft.config.isSome then throw (.repeatedOption option.render)
    else if value.isEmpty then throw (.missingValue option.render)
    else return { draft with config := some value }
  | .log =>
    match draft.log, LogLevel.ofWord? value with
    | some _, _ => throw (.repeatedOption option.render)
    | none, some level => return { draft with log := some level }
    | none, none => throw (.invalidValue option.render value)
  | _ => throw (.unexpectedValue option.render)

/-- The draft with an option that takes no value. -/
def raise (draft : CommandDraft) (option : CommandOption) : Except UsageProblem CommandStep := do
  match option with
  | .help => return .help
  | .version => return .version
  | .quiet =>
    if draft.quiet then throw (.repeatedOption option.render)
    else return .go { draft with quiet := true } .options
  | .verbose => return .go { draft with verbose := draft.verbose + 1 } .options
  | _ => throw (.missingValue option.render)

/-- The draft with the script, or with an argument once there is a script. -/
def place (draft : CommandDraft) (word : String) : Except UsageProblem CommandStep := do
  match draft.script with
  | none =>
    if word.isEmpty then throw (.missingValue "<SCRIPT>")
    else return .go { draft with script := some word } .options
  | some _ => return .go { draft with arguments := word :: draft.arguments } .plain

/-- Letters behind one hyphen: the first one that takes a value takes the rest as its value. -/
def letters (draft : CommandDraft) : List Char → Except UsageProblem CommandStep
  | [] => return .go draft .options
  | letter :: rest => do
    match CommandOption.ofShort? letter with
    | none => throw (.unknownOption s!"-{letter}")
    | some option =>
      if option.takesValue then
        match rest with
        | [] => return .go draft (.value option)
        | '=' :: value => return .go (← draft.give option (String.ofList value)) .options
        | value => return .go (← draft.give option (String.ofList value)) .options
      else
        match ← draft.raise option with
        | .go next _ => next.letters rest
        | other => return other

/-- Whether a word that may look like an option is taken for an argument: there is a script, and the
word is no option. -/
def isArgument (draft : CommandDraft) : CommandWord → Bool
  | .divider => false
  | .long name _ => draft.script.isSome && (CommandOption.ofLong? name).isNone
  | .short letters => draft.script.isSome && letters.any (CommandOption.ofShort? · |>.isNone)
  | .plain => true

/-- Reads a word that is an option. -/
def option (draft : CommandDraft) (word : String) : Except UsageProblem CommandStep := do
  match CommandWord.ofText word with
  | .divider => return .go draft .plain
  | .long name value =>
    match CommandOption.ofLong? name, value with
    | none, _ => throw (.unknownOption word)
    | some option, some value =>
      if option.takesValue then return .go (← draft.give option value) .options
      else throw (.unexpectedValue option.render)
    | some option, none =>
      if option.takesValue then return .go draft (.value option) else draft.raise option
  | .short letters => draft.letters letters
  | .plain => draft.place word

/-- Reads the next word. -/
def step (draft : CommandDraft) (state : CommandState) (word : String) :
    Except UsageProblem CommandStep := do
  let free := draft.isArgument (CommandWord.ofText word)
  match state with
  | .options => if free then draft.place word else draft.option word
  | .value option =>
    if free then return .go (← draft.give option word) .options
    else throw (.missingValue option.render)
  | .plain =>
    match ← draft.place word with
    | .go next _ => return .go next .plain
    | other => return other

/-- The command that a draft has become when no words are left. -/
def finish (draft : CommandDraft) (state : CommandState) : Except UsageProblem Request := do
  match state, draft.script with
  | .value option, _ => throw (.missingValue option.render)
  | _, none => throw .missingScript
  | _, some script =>
    return .run ⟨script, draft.arguments.reverse, draft.config, draft.log, draft.quiet,
      draft.verbose⟩

/-- What the words that are left ask for. -/
def request (draft : CommandDraft) (state : CommandState) :
    List String → Except UsageProblem Request
  | [] => draft.finish state
  | word :: words => do
    match ← draft.step state word with
    | .go next after => next.request after words
    | .help => return .help
    | .version => return .version

end CommandDraft

/-- What the words of a command line ask for. -/
def Request.read (words : List String) : Except UsageProblem Request :=
  CommandDraft.request {} .options words

/-- What a command leaves behind. -/
structure CommandResult where
  /-- The number with which it ends. -/
  exit : UInt32
  /-- What it prints about faults. -/
  errors : String
  /-- What surrounds it afterwards. -/
  world : World

/-- The directory of a script. -/
def scriptDirectory (script : String) : String :=
  match parentPath? script with
  | some directory => if directory.isEmpty then "." else directory
  | none => "."

/-- What a run leaves behind: handlers report their faults first, and the fault that ended the
program is shown last. -/
def Outcome.report (outcome : Outcome Value) (file source : String) : CommandResult :=
  let machine := outcome.machine
  let failures := String.join (machine.failures.map fun failure => failure.render ++ "\n")
  let (exit, diagnosis) : UInt32 × String :=
    match outcome.result with
    | .ok _ => (0, "")
    | .error (.fault fault) => (1, fault.diagnose file source)
    | .error .exhausted => (1, "error: evaluation was cut off\n")
  ⟨exit, failures ++ diagnosis, machine.world⟩

/-- Runs a script within a budget. -/
def Command.run (command : Command) (budget : Nat) (world : World) : CommandResult :=
  match world.files.read command.script with
  | .error problem =>
    ⟨1, s!"error: cannot read '{command.script}': {problem.render}\n", world⟩
  | .ok source =>
    match Config.discover world.files command.config command.script with
    | .error fault => ⟨1, fault.diagnose command.script source, world⟩
    | .ok config =>
      let world := { world with arguments := command.arguments }
      let machine := (Machine.initial config world).inDirectory (scriptDirectory command.script)
      let action := Eval.source budget source
      let outcome :=
        if config.waitForHandlers then machine.performAndWait budget action
        else machine.perform action
      outcome.report command.script source

/-- The name and version of the program. -/
def versionText : String := "muni 0.1.0\n"

/-- How the program is used. -/
def helpText : String :=
  "MUNI: typed scripting with signals and watchers

Usage: muni [OPTIONS] <SCRIPT> [ARGS]...

Arguments:
  <SCRIPT>   Script to run
  [ARGS]...  Arguments passed to the script, available through args()

Options:
  -c, --config <CONFIG>  Configuration file (defaults to muni.json next to the script)
  -v, --verbose...       Enable verbose logging (use multiple times for increased verbosity)
  -q, --quiet            Only log errors
      --log <LOG>        Set log level (overrides --verbose/--quiet and MUNI_LOG) " ++
  "[possible values: error, warn, info, debug, trace]
  -h, --help             Print help
  -V, --version          Print version
"

/-- The number with which a command line that is no command ends. -/
def usageExit : UInt32 := 2

/-- Does what the words of a command line ask for. -/
def runCommandLine (words : List String) (budget : Nat) (world : World) : CommandResult :=
  match Request.read words with
  | .error problem => ⟨usageExit, s!"error: {problem.message}\n", world⟩
  | .ok .help => ⟨0, "", { world with output := helpText }⟩
  | .ok .version => ⟨0, "", { world with output := versionText }⟩
  | .ok (.run command) => command.run budget world

end ReactiveScript
