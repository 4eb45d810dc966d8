import MacroScript.Case.Basic
import MacroScript.Files
import MacroScript.Recorder
import MacroScript.Script

/-! Running a case and comparing what it did with what was expected. -/

namespace MacroScript

namespace TestCase

def rejection (command : String) : String := "command rejected by testcase: " ++ command

/-- The number of commands at which the run is stopped: the limit of the case or, when that is
absent or larger, the guard. -/
def stopAfter (test : TestCase) : Nat :=
  match test.stopAfterCommands with
  | none => maxCommands
  | some limit => min limit.toNat maxCommands

/-- The case leaves it to the guard to stop its run. -/
def isUnlimited (test : TestCase) : Bool :=
  match test.stopAfterCommands with
  | none => true
  | some limit => maxCommands < limit.toNat

def recorder (test : TestCase) : Recorder :=
  { failing := test.failingCommands, rejection, stopAfter := some test.stopAfter }

/-- What is reported of a run that has ended. A run that the guard had to stop is an error. -/
def conclude (test : TestCase) (outcome : Outcome) (recording : Recording) :
    Except CaseError Report :=
  if maxCommands ≤ recording.commands.size ∧ outcome = .stopped ∧ test.isUnlimited = true then
    .error .guardExceeded
  else .ok ⟨recording.commands.toList, outcome.change⟩

/-- Runs a script under the limits of a case; nothing comes of it when the run does not end within
`limit` lines. -/
def perform (test : TestCase) (limit : Nat) (script : Script) : Option (Except CaseError Report) :=
  (runScript (test.recorder.host true) limit (.ok script) {}).map fun (outcome, recording) =>
    test.conclude outcome recording

/-- Runs the script of a case, whose path is taken from a directory. -/
def run (test : TestCase) (read : ReadText) (limit : Nat) (directory : String) :
    Option (Except CaseError Report) :=
  match loadScript read (Path.join directory test.script) with
  | .error error => some (.error (.engine error))
  | .ok script => test.perform limit script

/-- The first place at which two lists of the same length differ. -/
def firstDifference : (index : Nat) → (expected actual : List String) → Option CaseError
  | index, e :: expected, a :: actual =>
    if e = a then firstDifference (index + 1) expected actual
    else some (.commandMismatch index e a)
  | _, _, _ => none

def messageHolds (expected : String) (actual : Option String) : Bool :=
  actual.any fun message => Text.occurs expected.toList message.toList

/-- The first respect in which a report is not what the case expects. -/
def mismatch? (test : TestCase) (report : Report) : Option CaseError :=
  if report.change.state ≠ test.expectedState then
    some (.stateMismatch test.expectedState report.change.state report.change.message)
  else if report.commands.length ≠ test.expectedCommands.length then
    some (.countMismatch test.expectedCommands.length report.commands)
  else match firstDifference 0 test.expectedCommands report.commands with
    | some difference => some difference
    | none =>
      match test.expectedMessage with
      | none => none
      | some expected =>
        if messageHolds expected report.change.message then none
        else some (.messageMismatch expected report.change.message)

end TestCase

def assertCase (read : ReadText) (limit : Nat) (directory path : String) :
    Option (Except CaseError Unit) :=
  match TestCase.load read path with
  | .error error => some (.error error)
  | .ok test =>
    (test.run read limit directory).map fun result =>
      match result with
      | .error error => .error error
      | .ok report =>
        match test.mismatch? report with
        | some error => .error error
        | none => .ok ()

end MacroScript
