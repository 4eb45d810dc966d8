import MacroScript.Run

/-! The engine: cells that several clients share, and the life of one run over them.

A run is a `Task`. Its `Phase` names the point it has come to between two atomic steps: it acquires
the engine, puts its token where a stop request finds it, shows that it is running, loads the
script, visits lines, shows how it ended, tells the listeners there are at that moment, takes its
token away and gives the engine back. A panic in a command or in a listener goes straight to the
last two steps.

A run that should have had a thread of its own and did not get one gives the engine back before it
shows that it has failed. From then on it does not hold the engine, and what it still has to tell
the listeners it tells next to any other run. -/

namespace MacroScript

/-- What a stop is asked of: a token that its owner has named, or one made for a single run. -/
inductive Token where
  | named (name : String)
  | ofRun (number : Nat)
  deriving DecidableEq

/-- What a panic carries: a text, or something that is not one. -/
inductive Panic where
  | text (message : String)
  | other
  deriving DecidableEq

/-- How a run came to its end: with a change, or by a panic, after which nothing is reported. -/
inductive Ending where
  | changed (change : StateChange)
  | panicked (panic : Panic)
  deriving DecidableEq

/-- What waiting for a run gives: its change, or the error that stands for a panic. -/
def Ending.joined : Ending → Except RunError StateChange
  | changed change => .ok change
  | panicked (.text message) => .error (.taskPanicked message)
  | panicked .other => .error (.taskPanicked "unknown panic")

def StateChange.unspawned (cause : String) : StateChange :=
  ⟨.failed, some ("Failed to spawn run thread: " ++ cause)⟩

structure Engine (L : Type) where
  running : Bool := false
  current : Option Token := none
  state : RunState := .notRunning
  listeners : List L := []
  cancelled : List Token := []

namespace Engine

variable {L : Type}

def isCancelled (engine : Engine L) (token : Token) : Bool := engine.cancelled.contains token

def cancel (engine : Engine L) (token : Token) : Engine L :=
  if engine.isCancelled token then engine
  else { engine with cancelled := token :: engine.cancelled }

/-- Cancels the token of the run in progress; tells whether there is one. -/
def requestStop (engine : Engine L) : Bool × Engine L :=
  match engine.current with
  | some token => (true, engine.cancel token)
  | none => (false, engine)

def subscribe (engine : Engine L) (listener : L) : Engine L :=
  { engine with listeners := engine.listeners ++ [listener] }

end Engine

inductive Phase (L : Type) where
  | acquired
  | installed
  | loading
  | line (run : Run)
  | calling (run : Run) (command : String)
  | concluding (change : StateChange)
  | gathering (change : StateChange)
  | telling (change : StateChange) (waiting : List L)
  | hearing (change : StateChange) (listener : L) (waiting : List L)
  | clearing (ending : Ending)
  | releasing (ending : Ending)
  | ended (ending : Ending)
  -- a run without a thread gives the engine back in these two
  | abandoned (cause : String)
  | disowned (cause : String)

/-- A run with the token that stops it. It `holds` the engine until it gives it back. -/
structure Task (L : Type) where
  token : Token
  phase : Phase L := .acquired
  holds : Bool := true

inductive Reply where
  | accepted
  | rejected (cause : String)
  | panicked (panic : Panic)
  deriving DecidableEq

/-- Acquires the engine for a run, which succeeds only while no run holds it. -/
def Engine.acquire? {L : Type} (engine : Engine L) (token : Token) : Option (Task L × Engine L) :=
  if engine.running then none else some ({ token }, { engine with running := true })

namespace Task

variable {L : Type}

def ending? (task : Task L) : Option Ending :=
  match task.phase with
  | .ended ending => some ending
  | _ => none

def isOver (task : Task L) : Bool := task.ending?.isSome

/-- Past the last line a run is completed; otherwise it stops if its token has been cancelled, and
if not it visits the line. -/
def afterLine (cancelled : Bool) (run : Run) : Phase L :=
  match run.line? with
  | none => .concluding Outcome.completed.change
  | some line =>
    if cancelled then .concluding Outcome.stopped.change
    else
      match (Run.visit line).run run with
      | .error error _ => .concluding (Outcome.failed error).change
      | .ok .ended _ => .concluding Outcome.completed.change
      | .ok .moved next => .line next
      | .ok (.forward command) left => .calling left command

/-- Leaves with an ending: a run that still holds the engine has to give it back first. -/
def leave (task : Task L) (ending : Ending) : Task L :=
  { task with phase := if task.holds then .clearing ending else .ended ending }

/-- One atomic step of a run that is not waiting for an answer; a run that waits, or is over, stays
as it is. -/
def step (loaded : Except RunError Script) (engine : Engine L) (task : Task L) :
    Engine L × Task L :=
  match task.phase with
  | .acquired => ({ engine with current := some task.token }, { task with phase := .installed })
  | .installed => ({ engine with state := .running }, { task with phase := .loading })
  | .loading =>
    match loaded with
    | .error error => (engine, { task with phase := .concluding (Outcome.failed error).change })
    | .ok script => (engine, { task with phase := .line { script } })
  | .line run => (engine, { task with phase := afterLine (engine.isCancelled task.token) run })
  | .concluding change =>
    ({ engine with state := change.state }, { task with phase := .gathering change })
  | .gathering change => (engine, { task with phase := .telling change engine.listeners })
  | .telling change [] => (engine, task.leave (.changed change))
  | .telling change (listener :: waiting) =>
    (engine, { task with phase := .hearing change listener waiting })
  | .clearing ending => ({ engine with current := none }, { task with phase := .releasing ending })
  | .releasing ending =>
    ({ engine with running := false }, { task with phase := .ended ending, holds := false })
  | .abandoned cause => ({ engine with current := none }, { task with phase := .disowned cause })
  | .disowned cause =>
    ({ engine with running := false },
      { task with phase := .concluding (.unspawned cause), holds := false })
  | .calling .. | .hearing .. | .ended _ => (engine, task)

def resume (reply : Reply) (task : Task L) : Task L :=
  match task.phase with
  | .calling run command =>
    match reply with
    | .accepted => { task with phase := .line run.proceed }
    | .rejected cause =>
      { task with
        phase := .concluding (Outcome.failed (.commandFailed run.cursor command cause)).change }
    | .panicked panic => task.leave (.panicked panic)
  | .hearing change _ waiting =>
    match reply with
    | .panicked panic => task.leave (.panicked panic)
    | _ => { task with phase := .telling change waiting }
  | _ => task

/-- The thread that was to load and run the script could not be had. -/
def abandon (cause : String) (task : Task L) : Task L :=
  match task.phase with
  | .loading => { task with phase := .abandoned cause }
  | _ => task

end Task

end MacroScript
