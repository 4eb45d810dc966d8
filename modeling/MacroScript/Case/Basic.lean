import MacroScript.Files
import MacroScript.Text.Showable
import MacroScript.Wire

/-! Cases: a script with what is expected of its run, and what can be wrong with a case. -/

namespace MacroScript

structure TestCase where
  schemaVersion : String
  script : String
  failingCommands : List String
  stopAfterCommands : Option UInt64
  expectedCommands : List String
  expectedState : RunState
  expectedMessage : Option String
  deriving DecidableEq

structure Report where
  commands : List String
  change : StateChange
  deriving DecidableEq

inductive CaseError where
  | unreadable (path : String) (fault : ReadFault)
  | undecodable
  | schemaMismatch (found : String)
  | noCases (path : String)
  | engine (error : RunError)
  | guardExceeded
  | stateMismatch (expected actual : RunState) (message : Option String)
  | countMismatch (expected : Nat) (observed : List String)
  | commandMismatch (index : Nat) (expected actual : String)
  | messageMismatch (expected : String) (actual : Option String)
  deriving DecidableEq

def maxCommands : Nat := 10000

/-- The version of the form in which cases are written. -/
def caseSchema : String := "sv-tool-case.v1"

namespace CaseError

def kind : CaseError → String
  | unreadable .. => "ReadFile"
  | undecodable => "ParseCase"
  | schemaMismatch .. => "InvalidSchemaVersion"
  | noCases .. => "NoCases"
  | engine .. => "Engine"
  | guardExceeded => "GuardExceeded"
  | stateMismatch .. => "StateMismatch"
  | countMismatch .. => "CommandCountMismatch"
  | commandMismatch .. => "CommandMismatch"
  | messageMismatch .. => "MessageMismatch"

/-- The sentence shown to the user. A case that cannot be decoded has none of its own. -/
def message? : CaseError → Option String
  | unreadable path fault => some ("Failed to read file " ++ path ++ ": " ++ fault.message)
  | undecodable => none
  | schemaMismatch found =>
    some ("Invalid testcase schema version \"" ++ found ++ "\", expected \"" ++ caseSchema ++ "\".")
  | noCases path => some ("No testcase.json files under " ++ path ++ ".")
  | engine error => some ("Engine error: " ++ error.message)
  | guardExceeded =>
    some ("Guard exceeded: max_commands=" ++ Text.decimal maxCommands ++ ".")
  | stateMismatch expected actual message =>
    some ("Expected state " ++ expected.label ++ ", actual " ++ actual.label ++ ". message=" ++
      Text.quotedOption message)
  | countMismatch expected observed =>
    some ("Expected command count " ++ Text.decimal expected ++ ", actual " ++
      Text.decimal observed.length ++ ". observed=" ++ Json.renderLines observed)
  | commandMismatch index expected actual =>
    some ("Command mismatch at index " ++ Text.decimal index ++ ". expected=" ++
      Text.quoted expected ++ " actual=" ++ Text.quoted actual)
  | messageMismatch expected actual =>
    some ("Expected message containing " ++ Text.quoted expected ++ ", actual " ++
      Text.quotedOption actual)

end CaseError

namespace TestCase

open Json (Value Fields)

/-- The names of the fields, in the order in which they are written. -/
def fieldNames : List String :=
  ["schemaVersion", "script", "failingCommands", "stopAfterCommands", "expectedCommands",
    "expectedState", "expectedMessage"]

def defaultScript : String := "main.macro"

def textsValue (texts : List String) : Value := .array (texts.map .text)

def toValue (test : TestCase) : Value :=
  .record [("schemaVersion", .text test.schemaVersion), ("script", .text test.script),
    ("failingCommands", textsValue test.failingCommands),
    ("stopAfterCommands", .option (fun n : UInt64 => .nat n.toNat) test.stopAfterCommands),
    ("expectedCommands", textsValue test.expectedCommands),
    ("expectedState", test.expectedState.toValue),
    ("expectedMessage", .option .text test.expectedMessage)]

def limit? (value : Value) : Option UInt64 := (value.nat? UInt64.size).map UInt64.ofNat

/-- All fields but the version and the expected state have defaults. -/
def ofFields? (fields : Fields) : Option TestCase := do
  let schemaVersion ← fields.required? "schemaVersion" Value.text?
  let script ← fields.optional? "script" defaultScript Value.text?
  let failingCommands ← fields.optional? "failingCommands" [] Value.texts?
  let stopAfterCommands ← fields.optional? "stopAfterCommands" none (Value.nullable? limit?)
  let expectedCommands ← fields.optional? "expectedCommands" [] Value.texts?
  let expectedState ← fields.required? "expectedState" RunState.ofValue?
  let expectedMessage ← fields.optional? "expectedMessage" none (Value.nullable? Value.text?)
  some { schemaVersion, script, failingCommands, stopAfterCommands, expectedCommands,
         expectedState, expectedMessage }

def ofValue? (value : Value) : Option TestCase :=
  (Fields.ofValue? fieldNames 0 value).bind ofFields?

def load (read : ReadText) (path : String) : Except CaseError TestCase :=
  match read path with
  | .error fault => .error (.unreadable path fault)
  | .ok text =>
    match (Value.parse? text).bind ofValue? with
    | none => .error .undecodable
    | some test =>
      if test.schemaVersion = caseSchema then .ok test
      else .error (.schemaMismatch test.schemaVersion)

end TestCase

end MacroScript
