import MacroScript.Json.Value

/-! Reading the fields of a record. A record is an object, in which unknown names are passed over
and a known name may occur once, or the array of its fields in order. -/

namespace MacroScript.Json

abbrev Fields := List (String × Value)

namespace Fields

/-- The members, when every name has a text. -/
def ofMembers? : List (Name × Value) → Option Fields
  | [] => some []
  | (none, _) :: _ => none
  | (some name, value) :: members => (ofMembers? members).map ((name, value) :: ·)

/-- The items of an array under the names of the fields, in order; the fields after the first
`least` may be left out at the end. -/
def ofItems? (names : List String) (least : Nat) (items : List Value) : Option Fields :=
  if least ≤ items.length ∧ items.length ≤ names.length then some (names.zip items) else none

def ofValue? (names : List String) (least : Nat) : Value → Option Fields
  | .object members => ofMembers? members
  | .array items => ofItems? names least items
  | _ => none

/-- The value under a name: nothing at all when the name is repeated. -/
def get? (fields : Fields) (name : String) : Option (Option Value) :=
  match fields.filter (·.1 = name) with
  | [] => some none
  | [(_, value)] => some (some value)
  | _ => none

def required? {α : Type} (fields : Fields) (name : String) (decode : Value → Option α) : Option α :=
  match fields.get? name with
  | some (some value) => decode value
  | _ => none

def optional? {α : Type} (fields : Fields) (name : String) (default : α)
    (decode : Value → Option α) : Option α :=
  match fields.get? name with
  | some (some value) => decode value
  | some none => some default
  | none => none

end Fields

namespace Value

def text? : Value → Option String
  | .string text => text
  | _ => none

/-- A number below `bound` that is written with digits only. -/
def nat? (bound : Nat) : Value → Option Nat
  | .number literal => do
    let n ← Text.digits? literal
    if n < bound then some n else none
  | _ => none

def nullable? {α : Type} (decode : Value → Option α) : Value → Option (Option α)
  | .null => some none
  | value => (decode value).map some

def texts? : Value → Option (List String)
  | .array items => items.mapM text?
  | _ => none

end Value

end MacroScript.Json
