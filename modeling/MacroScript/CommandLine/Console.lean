import MacroScript.CommandLine.Arguments
import MacroScript.Json.Value
import MacroScript.Run
import MacroScript.Script

/-! The program behind the command line: what it prints, and the code it ends with.

Every command is printed as a line of its own, or given to a shell. After the run come three lines
on how it went. How arguments are read, which log filters are taken, what a shell makes of a command
and how much work a time limit allows for is not the program's own; a `System` says so, and nothing
that is proved about the program depends on which one it is.

What the program does is a function of what it is given, so a time limit cannot be kept by a clock:
a run with a limit is stopped when it has come back to where it was before, and so goes on for ever,
or when it has done all the work that the limit allows for. One that ends ends first. -/

namespace MacroScript.CommandLine

def literal (text : String) : String := String.ofList (Json.quote text.toList)

def commandLine (command : String) : String := "COMMAND_JSON:" ++ literal command

def exitCode : RunState → Nat
  | .succeeded => 0
  | .stopped => 3
  | .failed => 1
  | .notRunning => 1
  | .running => 1

def reportLines (change : StateChange) : List String :=
  ["RESULT:" ++ (if change.state = .failed then "ERROR" else "OK"),
    "STATE:" ++ change.state.code,
    "MESSAGE_JSON:" ++ match change.message with
      | some message => literal message
      | none => "null"]

/-- Why there was no run; what is wrong with a log filter is in the words of the system. -/
inductive StartError where
  | engine (error : RunError)
  | logFilter (filter : String) (cause : String)
  deriving DecidableEq

namespace StartError

def code : StartError → String
  | engine error => error.code
  | logFilter .. => "CLI_LOG_FILTER"

def message : StartError → String
  | engine error => error.message
  | logFilter filter cause => "Invalid log filter \"" ++ filter ++ "\": " ++ cause

def lines (error : StartError) : List String :=
  ["RESULT:ERROR", "ERROR_CODE:" ++ error.code, "ERROR_MSG_JSON:" ++ literal error.message]

end StartError

def unlines (lines : List String) : String := String.join (lines.map (· ++ "\n"))

/-- Why a shell did not carry a command out: it could not be started, or it ended with a status that
the system has words for. -/
inductive ShellFault where
  | unstarted (cause : String)
  | ended (status : String)

def ShellFault.message : ShellFault → String
  | unstarted cause => "failed to spawn shell: " ++ cause
  | ended status => "shell exited with " ++ status

/-- What a shell made of a command, and how many milliseconds it took. What it leaves to be printed
later comes with how much later that is. -/
structure ShellResult (σ : Type) where
  printed : String
  fault : Option ShellFault
  elapsed : Nat
  late : List (Nat × String)
  left : σ

/-- What is around the program. A shell finds what earlier ones have left. -/
structure System (σ : Type) where
  parse : List String → Parsed
  checkFilter : String → Except String Unit
  shell : String → σ → ShellResult σ
  untouched : σ
  budget : (timeoutMs : Nat) → Nat
  cost : Run → Nat

/-- What the program has printed, how many commands there have been, how long they took in
milliseconds and what they leave behind, and whether the time is up. What a command leaves to be
printed later comes with the time for it. -/
structure Console (σ : Type) where
  printed : String := ""
  commands : Nat := 0
  elapsed : Nat := 0
  left : σ
  late : List (Nat × String) := []
  timeUp : Bool := false

structure Output where
  exit : Nat
  printed : String
  deriving DecidableEq

namespace Console

variable {σ : Type}

def catchUp (console : Console σ) : Console σ :=
  let (due, late) := console.late.partition (·.1 ≤ console.elapsed)
  { console with printed := console.printed ++ String.join (due.map (·.2)), late }

def lateText (console : Console σ) : String :=
  String.join ((console.late.mergeSort fun a b => a.1 ≤ b.1).map (·.2))

end Console

/-- What watches over a run with a time limit: the limit, how much work the run may still do, and a
point that it has passed, with the commands there had been by then. The next such point is set after
`left` lines, and later ones twice as far apart each time, so that a run that goes round is found
out however long a round is. -/
structure Watch where
  timeoutMs : Nat
  work : Nat
  mark : Run
  commands : Nat := 0
  span : Nat := 1
  left : Nat := 1

namespace Watch

variable {σ : Type}

/-- The run has come back to the point that was marked, and no command has been executed on
the way. -/
def hasReturned (watch : Watch) (run : Run) (console : Console σ) : Bool :=
  run.cursor = watch.mark.cursor && console.commands = watch.commands &&
    decide (run.jumps = watch.mark.jumps) && decide (run.vars = watch.mark.vars)

/-- The run goes on for ever, would do more work than it may, or has waited for too long. -/
def isOver (watch : Watch) (cost : Nat) (run : Run) (console : Console σ) : Bool :=
  watch.hasReturned run console || watch.work < cost || watch.timeoutMs < console.elapsed

def advance (watch : Watch) (cost : Nat) (run : Run) (console : Console σ) : Watch :=
  let work := watch.work - cost
  match watch.left with
  | left + 1 => { watch with work, left }
  | 0 =>
    { watch with
      work, mark := run, commands := console.commands,
      span := 2 * watch.span, left := 2 * watch.span }

end Watch

namespace System

variable {σ : Type}

def execute (system : System σ) (shell : Bool) (command : String) (console : Console σ) :
    Option String × Console σ :=
  let console := { console with commands := console.commands + 1 }
  if shell then
    let result := system.shell command console.left
    let elapsed := console.elapsed + result.elapsed
    let late := result.late.map fun (delay, text) => (elapsed + delay, text)
    (result.fault.map ShellFault.message,
      { console.catchUp with
        printed := console.catchUp.printed ++ result.printed
        elapsed
        left := result.left
        late := console.catchUp.late ++ late }.catchUp)
  else (none, { console with printed := console.printed ++ commandLine command ++ "\n" })

def host (system : System σ) (request : Request) : Host (Console σ) where
  poll console := (console.timeUp, console)
  execute := system.execute request.shell

/-- Visits at most `limit` lines of a run that is watched over. -/
def driveWatched (system : System σ) (request : Request) :
    (limit : Nat) → Watch → Leg (Console σ) → Leg (Console σ)
  | 0, _, leg => leg
  | limit + 1, watch, leg =>
    let next := Run.drive (system.host request) 1 leg.run leg.host
    let cost := system.cost next.run
    if next.outcome.isSome then next
    else if watch.isOver cost next.run next.host then
      Run.drive (system.host request) 1 next.run { next.host with timeUp := true }
    else system.driveWatched request limit (watch.advance cost next.run next.host) next

def driveScript (system : System σ) (request : Request) (limit : Nat) (script : Script) :
    Leg (Console σ) :=
  let console : Console σ := { left := system.untouched }
  match request.timeoutMs with
  | none => Run.drive (system.host request) limit { script } console
  | some timeoutMs =>
    system.driveWatched request limit
      { timeoutMs, work := system.budget timeoutMs, mark := { script } }
      ⟨none, { script }, console⟩

/-- The script of a request; the log filter is checked before anything is read. -/
def prepare (system : System σ) (read : ReadText) (request : Request) :
    Except StartError Script :=
  let checked : Except StartError Unit := match request.logLevel with
    | none => .ok ()
    | some filter => (system.checkFilter filter).mapError (.logFilter filter)
  match checked with
  | .error error => .error error
  | .ok () => (loadScript read request.script).mapError .engine

/-- Carries a request out; nothing comes of it when the run does not end within `limit` lines. -/
def perform (system : System σ) (read : ReadText) (limit : Nat) (request : Request) :
    Option Output :=
  match system.prepare read request with
  | .error error => some ⟨1, unlines error.lines⟩
  | .ok script =>
    let leg := system.driveScript request limit script
    leg.outcome.map fun outcome =>
      let report := unlines (reportLines outcome.change)
      ⟨exitCode outcome.change.state, leg.host.printed ++ report ++ leg.host.lateText⟩

def respond (system : System σ) (read : ReadText) (limit : Nat) (arguments : List String) :
    Option Output :=
  match system.parse arguments with
  | .misuse => some ⟨2, ""⟩
  | .help topic => some ⟨0, topic.text⟩
  | .run request => system.perform read limit request

end System

end MacroScript.CommandLine
