import MacroScript.Text.Scan

/-! The arguments of the program. They are read from left to right; the first thing that decides the
outcome does so, be it a mistake or a request for help. -/

namespace MacroScript.CommandLine

structure Request where
  script : String
  shell : Bool := false
  timeoutMs : Option Nat := none
  logLevel : Option String := none
  deriving DecidableEq

inductive Help where
  | program
  | run
  | help
  deriving DecidableEq

inductive Parsed where
  | run (request : Request)
  | help (topic : Help)
  | misuse
  deriving DecidableEq

inductive Setting where
  | script
  | timeoutMs
  | logLevel
  deriving DecidableEq

structure Options where
  script : Option String := none
  shell : Bool := false
  timeoutMs : Option Nat := none
  logLevel : Option String := none

namespace Options

/-- Sets an option that takes a value. It may be set once, a script needs a name, and a time is a
number of 64 bits. -/
def set? (options : Options) : Setting → String → Option Options
  | .script, value =>
    if options.script.isSome || value.isEmpty then none
    else some { options with script := some value }
  | .timeoutMs, value =>
    if options.timeoutMs.isSome then none
    else (Text.numeral? UInt64.size value.toList).map fun n => { options with timeoutMs := some n }
  | .logLevel, value =>
    if options.logLevel.isSome then none
    else some { options with logLevel := some value }

def setShell? (options : Options) : Option Options :=
  if options.shell then none else some { options with shell := true }

/-- The request made by the options, which needs a script. -/
def finish (options : Options) : Parsed :=
  match options.script with
  | none => .misuse
  | some script =>
    .run { script, shell := options.shell, timeoutMs := options.timeoutMs,
           logLevel := options.logLevel }

end Options

def setting? : String → Option Setting
  | "--script" => some .script
  | "--timeout-ms" => some .timeoutMs
  | "--log-level" => some .logLevel
  | _ => none

/-- An argument that cannot be the value of the option before it, because it looks like an option;
a dash alone does not. -/
def looksLikeOption (argument : String) : Bool :=
  argument.toList.head? = some '-' && argument ≠ "-"

/-- A request for help: the long form, or letters behind one dash of which the first asks for it. -/
def asksForHelp (argument : String) : Bool :=
  argument = "--help" || (Text.after? ['-', 'h'] argument.toList).isSome

def assignment? (argument : String) : Option (Setting × String) := do
  let (name, value) ← Text.cut? '=' argument.toList
  some (← setting? (String.ofList name), String.ofList value)

/-- Reads the arguments of a run. After two dashes alone nothing may follow. -/
def readRun (options : Options) : List String → Parsed
  | [] => options.finish
  | argument :: rest =>
    if argument = "--" then (if rest.isEmpty then options.finish else .misuse)
    else if asksForHelp argument then .help .run
    else if argument = "--shell" then
      match options.setShell? with
      | some options => readRun options rest
      | none => .misuse
    else match setting? argument, rest with
      | some setting, value :: rest =>
        if looksLikeOption value then .misuse
        else match options.set? setting value with
          | some options => readRun options rest
          | none => .misuse
      | some _, [] => .misuse
      | none, rest =>
        match assignment? argument with
        | none => .misuse
        | some (setting, value) =>
          match options.set? setting value with
          | some options => readRun options rest
          | none => .misuse

def readHelp : List String → Parsed
  | [] => .help .program
  | ["run"] => .help .run
  | ["help"] => .help .help
  | _ => .misuse

/-- Reads all arguments, of which the first names the program and is passed over. -/
def parse : List String → Parsed
  | [] => .misuse
  | [_] => .misuse
  | _ :: first :: rest =>
    if first = "run" then readRun {} rest
    else if first = "help" then readHelp rest
    else if asksForHelp first then .help .program
    else .misuse

def Help.text : Help → String
  | program =>
    "Line-oriented macro script runner\n\n" ++
    "Usage: servant <COMMAND>\n\n" ++
    "Commands:\n" ++
    "  run   \n" ++
    "  help  Print this message or the help of the given subcommand(s)\n\n" ++
    "Options:\n" ++
    "  -h, --help  Print help\n"
  | run =>
    "Usage: servant run [OPTIONS] --script <SCRIPT>\n\n" ++
    "Options:\n" ++
    "      --script <SCRIPT>          \n" ++
    "      --shell                    Pass commands to `sh -c` instead of echoing them\n" ++
    "      --timeout-ms <TIMEOUT_MS>  Request a stop once this many milliseconds have passed\n" ++
    "      --log-level <LOG_LEVEL>    Tracing filter, e.g. `info` or `sv_runtime=debug`. " ++
    "Overrides RUST_LOG\n" ++
    "  -h, --help                     Print help\n"
  | help =>
    "Print this message or the help of the given subcommand(s)\n\n" ++
    "Usage: servant help [COMMAND]...\n\n" ++
    "Arguments:\n" ++
    "  [COMMAND]...  Print help for the subcommand(s)\n"

end MacroScript.CommandLine
