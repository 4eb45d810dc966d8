import MacroScript.Directive
import MacroScript.Jumps
import MacroScript.RunState
import MacroScript.Script
import MacroScript.Variables

/-! One run of a script. `Run.visit` carries the line at the cursor out in the run itself, write by
write; the only thing it leaves open is whether a command is accepted. `Run.step` settles that with
a `Host`, which answers commands and says when the run is to stop, and `Run.drive` goes on from line
to line. Nothing here takes back what a line has written before it fails. -/

namespace MacroScript

/-- Does work on a part of a state, where the whole of it is at hand. -/
def within {ε σ τ α : Type} (part : σ → τ) (put : σ → τ → σ) (work : EStateM ε τ α) :
    EStateM ε σ α := fun whole =>
  match work.run (part whole) with
  | .ok result left => .ok result (put whole left)
  | .error error left => .error error (put whole left)

structure Run where
  script : Script
  cursor : Nat := 0
  vars : Variables := {}
  jumps : Jumps := {}
  deriving DecidableEq

/-- What is left to do once a line has been carried out: nothing in the whole run, to go on, or to
have a command executed and to go on behind it. -/
inductive Visit where
  | ended
  | moved
  | forward (command : String)
  deriving DecidableEq

namespace Run

def line? (run : Run) : Option String := run.script.line? run.cursor

def proceed (run : Run) : Run := { run with cursor := run.cursor + 1 }

def obey (index : Nat) : Directive → EStateM RunError Run Visit
  | .label name => do
    modify fun run => { run with jumps := run.jumps.declare name index }
    modify proceed
    return .moved
  | .var key value => do
    modify fun run => { run with vars := run.vars.set key value }
    modify proceed
    return .moved
  | .jump label count => do
    let transfer ← within Run.jumps (fun run jumps => { run with jumps })
      (Jumps.resolve index label count)
    modify fun run => { run with cursor := transfer.target }
    return .moved
  | .finish => return .ended
  | .command text => return .forward text

/-- Carries out the line at the cursor: its variables are replaced, the result is read as a
directive, and the directive is carried out. -/
def visit (line : String) : EStateM RunError Run Visit := do
  let run ← get
  let text ← MonadExcept.ofExcept (run.vars.substitute run.cursor line)
  let directive ← MonadExcept.ofExcept (Directive.readAt run.cursor text)
  obey run.cursor directive

end Run

/-- What a run talks to, as transitions of a state of its own: `poll` tells before each line whether
the run is to stop, and `execute` answers a command, with the reason when it is rejected. -/
structure Host (σ : Type) where
  poll : σ → Bool × σ
  execute : String → σ → Option String × σ

/-- A stretch of a run: how it ended, if it did, and where the run and the host then are. -/
structure Leg (σ : Type) where
  outcome : Option Outcome
  run : Run
  host : σ

inductive Step where
  | onward
  | finished
  deriving DecidableEq

namespace Run

variable {σ : Type}

/-- Carries out the line at the cursor for good: a command is executed by the host, and only once it
has been accepted does the cursor go on. -/
def step (host : Host σ) (line : String) : EStateM RunError (Run × σ) Step := do
  match ← within Prod.fst (fun (_, state) run => (run, state)) (visit line) with
  | .ended => return .finished
  | .moved => return .onward
  | .forward command =>
    let (run, state) ← get
    let (answer, state) := host.execute command state
    set (run, state)
    match answer with
    | some cause => throw (.commandFailed run.cursor command cause)
    | none =>
      set (run.proceed, state)
      return .onward

/-- Visits at most `limit` lines. A run past its last line is completed, also when it is to stop;
otherwise the host is asked first. A leg without an outcome can be driven on from where it is. -/
def drive (host : Host σ) : (limit : Nat) → Run → σ → Leg σ
  | 0, run, state => ⟨none, run, state⟩
  | limit + 1, run, state =>
    match run.line? with
    | none => ⟨some .completed, run, state⟩
    | some line =>
      match host.poll state with
      | (true, state) => ⟨some .stopped, run, state⟩
      | (false, state) =>
        match (step host line).run (run, state) with
        | .error error (run, state) => ⟨some (.failed error), run, state⟩
        | .ok .finished (run, state) => ⟨some .completed, run, state⟩
        | .ok .onward (run, state) => drive host limit run state

end Run

/-- Runs a script that has been loaded, or reports why it could not be, and nothing when the run
does not end within `limit` lines. -/
def runScript {σ : Type} (host : Host σ) (limit : Nat) (loaded : Except RunError Script)
    (state : σ) :
    Option (Outcome × σ) :=
  match loaded with
  | .error error => some (.failed error, state)
  | .ok script =>
    let leg := Run.drive host limit { script } state
    leg.outcome.map fun outcome => (outcome, leg.host)

end MacroScript
