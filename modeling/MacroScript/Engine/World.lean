import MacroScript.Engine.Basic

/-! Clients of one engine. A `World` is an engine with every run that has begun on it. A `Move` is
one atomic step of anybody: a client asks for a run, for a stop or for a subscription, a run takes
its next step, or a command or listener that a run has called comes back. Commands and listeners may
act on the engine while they are called, so their own moves stand between the call and its return
like those of any other client.

The notes keep what listeners and commands could tell of a history; no move depends on them. -/

namespace MacroScript

variable {L : Type}

/-- What is written down of a history. Runs are numbered in the order in which they began. -/
inductive Happening (L : Type) where
  | subscribed (listener : L)
  | began (run : Nat)
  | answered (run : Nat) (command : String) (reply : Reply)
  | concluded (run : Nat) (change : StateChange)
  | gathered (run : Nat) (change : StateChange) (registry : List L)
  | heard (run : Nat) (listener : L) (change : StateChange) (reply : Reply)

/-- One atomic step. A run begins with a token that its client has named or with one of its own; a
script is loaded by whatever reading its source gives at that moment. -/
inductive Move (L : Type) where
  | begin (token : Option String)
  | advance (run : Nat) (loaded : Except RunError Script)
  | reply (run : Nat) (reply : Reply)
  | unspawned (run : Nat) (cause : String)
  | requestStop
  | stopTask (run : Nat)
  | cancel (token : String)
  | subscribe (listener : L)

namespace Task

def stepNotes (number : Nat) (engine : Engine L) (task : Task L) : List (Happening L) :=
  match task.phase with
  | .installed => [.began number]
  | .concluding change => [.concluded number change]
  | .gathering change => [.gathered number change engine.listeners]
  | _ => []

def replyNotes (number : Nat) (reply : Reply) (task : Task L) : List (Happening L) :=
  match task.phase with
  | .calling _ command => [.answered number command reply]
  | .hearing change listener _ => [.heard number listener change reply]
  | _ => []

end Task

structure World (L : Type) where
  engine : Engine L := {}
  tasks : List (Task L) := []
  notes : Array (Happening L) := #[]

namespace World

def log (world : World L) : List (Happening L) := world.notes.toList

/-- A run that has not begun counts as one that has just acquired the engine. -/
def phase (world : World L) (number : Nat) : Phase L :=
  (world.tasks[number]?.map Task.phase).getD .acquired

def ending? (world : World L) (number : Nat) : Option Ending :=
  world.tasks[number]?.bind Task.ending?

def isStopped (world : World L) (number : Nat) : Bool :=
  world.tasks[number]?.any fun task => world.engine.isCancelled task.token

def newToken (world : World L) : Option String → Token
  | some name => .named name
  | none => .ofRun world.tasks.length

/-- Carries out a move; a move of a run that does not exist does nothing. -/
def move (world : World L) : Move L → World L
  | .begin token =>
    match world.engine.acquire? (world.newToken token) with
    | some (task, engine) => { world with engine, tasks := world.tasks ++ [task] }
    | none => world
  | .advance run loaded =>
    match world.tasks[run]? with
    | some task =>
      let (engine, next) := task.step loaded world.engine
      { engine
        tasks := world.tasks.set run next
        notes := world.notes ++ task.stepNotes run world.engine }
    | none => world
  | .reply run reply =>
    match world.tasks[run]? with
    | some task =>
      { world with
        tasks := world.tasks.set run (task.resume reply)
        notes := world.notes ++ task.replyNotes run reply }
    | none => world
  | .unspawned run cause =>
    match world.tasks[run]? with
    | some task => { world with tasks := world.tasks.set run (task.abandon cause) }
    | none => world
  | .requestStop => { world with engine := world.engine.requestStop.2 }
  | .stopTask run =>
    match world.tasks[run]? with
    | some task => { world with engine := world.engine.cancel task.token }
    | none => world
  | .cancel token => { world with engine := world.engine.cancel (.named token) }
  | .subscribe listener =>
    { world with
      engine := world.engine.subscribe listener
      notes := world.notes.push (.subscribed listener) }

end World

end MacroScript
