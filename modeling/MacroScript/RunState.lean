import MacroScript.RunError

/-! The states an engine shows, and the change that ends a run. -/

namespace MacroScript

inductive RunState where
  | notRunning
  | running
  | succeeded
  | failed
  | stopped
  deriving DecidableEq

namespace RunState

/-- Every state, in the order of a life. -/
def all : List RunState := [notRunning, running, succeeded, failed, stopped]

/-- The name used in data. -/
def code : RunState → String
  | notRunning => "NOT_RUNNING"
  | running => "RUNNING"
  | succeeded => "SUCCEEDED"
  | failed => "FAILED"
  | stopped => "STOPPED"

/-- The name shown to people. -/
def label : RunState → String
  | notRunning => "Not Running"
  | running => "Running"
  | succeeded => "Succeeded"
  | failed => "Failed"
  | stopped => "Stopped"

def isTerminal : RunState → Bool
  | notRunning => false
  | running => false
  | succeeded => true
  | failed => true
  | stopped => true

def ofCode? (code : String) : Option RunState := all.find? (·.code = code)

theorem ofCode?_code (state : RunState) : ofCode? state.code = some state := by
  cases state <;> decide

end RunState

structure StateChange where
  state : RunState
  message : Option String
  deriving DecidableEq

inductive Outcome where
  | completed
  | stopped
  | failed (error : RunError)
  deriving DecidableEq

def Outcome.change : Outcome → StateChange
  | completed => ⟨.succeeded, none⟩
  | stopped => ⟨.stopped, none⟩
  | failed error => ⟨.failed, some error.message⟩

end MacroScript
