import MacroScript.Text.Scan

/-! What can end a run badly. A `Fault` is what is wrong with one line as it is written; a
`RunError` adds where it stands, or is one of the failures that only a run can meet. Each has one
function that words it. -/

namespace MacroScript

inductive Fault where
  | labelHasColon
  | labelUnnamed
  | labelHasComma
  | declarationForm
  | declarationLacksEquals
  | variableUnnamed
  | jumpUnlabelled
  | countUnreadable (text : String)
  | countZero
  | countRepeated
  | referenceUnterminated
  | described (reason : String)
  deriving DecidableEq

def Fault.reason : Fault → String
  | labelHasColon => "label name cannot include the symbol ':'"
  | labelUnnamed => "label directive requires a name"
  | labelHasComma => "label name cannot include the symbol ','"
  | declarationForm => "var directive requires the form var:<name>=<value>"
  | declarationLacksEquals => "var directive is missing '='"
  | variableUnnamed => "variable name cannot be empty"
  | jumpUnlabelled => "jumpto directive requires a label"
  | countUnreadable text => "iteration count \"" ++ text ++ "\" is not a valid number"
  | countZero => "iteration count must be at least 1"
  | countRepeated => "jumpto accepts at most one iteration count"
  | referenceUnterminated => "unterminated variable reference"
  | described reason => reason

/-- Why a run, or the loading before it, failed. Lines are counted from zero. -/
inductive RunError where
  | malformed (line : Nat) (fault : Fault)
  | undefinedVariable (line : Nat) (key : String)
  | undefinedLabel (line : Nat) (label : String)
  | scriptNotFound (path : String)
  | scriptUnreadable (path : String) (cause : String)
  | commandFailed (line : Nat) (command : String) (cause : String)
  | taskPanicked (cause : String)
  deriving DecidableEq

namespace RunError

def code : RunError → String
  | malformed .. => "ENGINE_SYNTAX"
  | undefinedVariable .. => "ENGINE_UNDEFINED_VARIABLE"
  | undefinedLabel .. => "ENGINE_UNDEFINED_LABEL"
  | scriptNotFound .. => "ENGINE_SCRIPT_NOT_FOUND"
  | scriptUnreadable .. => "ENGINE_SCRIPT_READ"
  | commandFailed .. => "ENGINE_EXECUTOR"
  | taskPanicked .. => "ENGINE_TASK_PANICKED"

/-- The line at which a run failed, for the failures that have one. -/
def line? : RunError → Option Nat
  | malformed line _ => some line
  | undefinedVariable line _ => some line
  | undefinedLabel line _ => some line
  | commandFailed line _ _ => some line
  | scriptNotFound _ => none
  | scriptUnreadable _ _ => none
  | taskPanicked _ => none

def message : RunError → String
  | malformed line fault =>
    "Error on line " ++ Text.decimal line ++ ": " ++ fault.reason ++ ". Aborting!"
  | undefinedVariable line key =>
    "Line " ++ Text.decimal line ++ ": \"" ++ key ++
      "\" is not a recognized variable! Aborting script!"
  | undefinedLabel line label =>
    "Error on line " ++ Text.decimal line ++ ": label \"" ++ label ++
      "\" has not been declared. Aborting!"
  | scriptNotFound path => "Script not found: " ++ path
  | scriptUnreadable path cause => "Failed to read script " ++ path ++ ": " ++ cause
  | commandFailed line command cause =>
    "Error on line " ++ Text.decimal line ++ ": command \"" ++ command ++ "\" failed: " ++ cause
  | taskPanicked cause => "Run task panicked: " ++ cause

end RunError

end MacroScript
