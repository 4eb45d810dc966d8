import MacroScript.Directive
import MacroScript.Json.Bounds
import MacroScript.Json.Fields
import MacroScript.RunState

/-! How states, changes and directives are written as JSON and read back. -/

namespace MacroScript

open Json (Value Fields)

namespace RunState

def toValue (state : RunState) : Value := .text state.code

def ofValue? : Value → Option RunState
  | .string (some code) => ofCode? code
  | .object [(some code, .null)] => ofCode? code
  | _ => none

end RunState

namespace StateChange

def toValue (change : StateChange) : Value :=
  .record [("state", change.state.toValue), ("message", .option .text change.message)]

def fieldNames : List String := ["state", "message"]

def ofFields? (fields : Fields) : Option StateChange := do
  let state ← fields.required? "state" RunState.ofValue?
  let message ← fields.optional? "message" none (Value.nullable? Value.text?)
  some { state, message }

/-- Reads a change; only the object form may leave the message out. -/
def ofValue? (value : Value) : Option StateChange :=
  (Fields.ofValue? fieldNames 2 value).bind ofFields?

end StateChange

namespace Directive

/-- The kinds by which written directives are told apart. -/
def tag : Directive → String
  | label _ => "label"
  | var _ _ => "var"
  | jump _ _ => "jumpTo"
  | finish => "end"
  | command _ => "command"

/-- The names of the fields of a kind, in order; nothing when there is no such kind. -/
def fieldNames? : String → Option (List String)
  | "label" => some ["name"]
  | "var" => some ["key", "value"]
  | "jumpTo" => some ["label", "count"]
  | "end" => some []
  | "command" => some ["text"]
  | _ => none

def toFields : Directive → Fields
  | label name => [("name", .text name)]
  | var key value => [("key", .text key), ("value", .text value)]
  | jump target count =>
    [("label", .text target), ("count", .option (fun n : UInt32 => .nat n.toNat) count)]
  | finish => []
  | command text => [("text", .text text)]

def toValue (directive : Directive) : Value :=
  .record (("kind", .text directive.tag) :: directive.toFields)

def count? (value : Value) : Option UInt32 := (value.nat? UInt32.size).map UInt32.ofNat

def ofFields? (fields : Fields) : String → Option Directive
  | "label" => do some (.label (← fields.required? "name" Value.text?))
  | "var" => do
    some (.var (← fields.required? "key" Value.text?) (← fields.required? "value" Value.text?))
  | "jumpTo" => do
    let label ← fields.required? "label" Value.text?
    some (.jump label (← fields.optional? "count" none (Value.nullable? count?)))
  | "end" => some .finish
  | "command" => do some (.command (← fields.required? "text" Value.text?))
  | _ => none

def ofObject? (fields : Fields) : Option Directive :=
  (fields.required? "kind" Value.text?).bind (ofFields? fields)

/-- How many levels of nesting a written directive stays below. -/
def nestingBound : Nat := 128

/-- Reads a directive. Its kind may stand anywhere in the object, so the whole value is taken in
before the kind is known. In the array form the kind comes first and no field may be left out. -/
def ofValue? (value : Value) : Option Directive :=
  if value.isHoldable nestingBound then
    match value with
    | .object members => (Fields.ofMembers? members).bind ofObject?
    | .array (kind :: items) => do
      let kind ← kind.text?
      let names ← fieldNames? kind
      let fields ← Fields.ofItems? names names.length items
      ofFields? fields kind
    | _ => none
  else none

end Directive

end MacroScript
