import MacroScript.Run

/-! Hosts without a shell: one that takes every command and keeps none, and one that writes down
every command it is given and rejects some. The latter can raise a stop once enough commands have
come in; whether the run heeds that stop is a choice of its own, since the stop may belong to
another run. -/

namespace MacroScript

namespace Host

variable {σ : Type}

def discarding : Host σ where
  poll state := (false, state)
  execute _ state := (none, state)

def answers (host : Host σ) : List String → σ → List (Option String) × σ
  | [], state => ([], state)
  | command :: commands, state =>
    let (answer, state) := host.execute command state
    let (answers, state) := host.answers commands state
    (answer :: answers, state)

end Host

/-- The commands received so far, and whether the stop has been raised. -/
structure Recording where
  commands : Array String := #[]
  stopped : Bool := false
  deriving DecidableEq

/-- Which commands are rejected and with what words, and after how many commands, if ever, the stop
is raised. -/
structure Recorder where
  failing : List String := []
  rejection : String → String
  stopAfter : Option Nat := none

namespace Recorder

def rejectedByExecutor (command : String) : String := "command rejected by executor: " ++ command

/-- Takes a command in. A command is recorded, and may raise the stop, also when it is rejected. -/
def receive (recorder : Recorder) (command : String) (recording : Recording) :
    Option String × Recording :=
  let commands := recording.commands.push command
  let stopped := recording.stopped || recorder.stopAfter.any (· ≤ commands.size)
  (if command ∈ recorder.failing then some (recorder.rejection command) else none,
    { commands, stopped })

/-- The host of a run that stops when the stop is raised, if it heeds the stop at all. -/
def host (recorder : Recorder) (heedsStop : Bool) : Host Recording where
  poll recording := (heedsStop && recording.stopped, recording)
  execute := recorder.receive

end Recorder

end MacroScript
