import MacroScript.Json.Token

/-! JSON values, as a stack machine reads them from tokens and as they are written back. Members of
an object are kept in order and with repetitions, because what a repeated name means is for the
reader of the object to say. Nothing bounds how deep values may be nested. -/

namespace MacroScript.Json

/-- A value. Numbers are kept as they are written, and a string without a text is `none`. -/
inductive Value where
  | null
  | bool (value : Bool)
  | number (literal : List Char)
  | string (text : Option String)
  | array (items : List Value)
  | object (members : List (Option String × Value))

abbrev Name := Option String

/-- A value that is open around the one being read: the items before it, or the members before it
and its name, both in reverse. -/
inductive Frame where
  | item (before : List Value)
  | member (name : Name) (before : List (Name × Value))

/-- What the reader has to see next, with the frames around it. -/
inductive Expect where
  | value (frames : List Frame)
  | firstItem (frames : List Frame)
  | firstName (frames : List Frame)
  | name (before : List (Name × Value)) (frames : List Frame)
  | colon (name : Name) (before : List (Name × Value)) (frames : List Frame)
  | afterItem (items : List Value) (frames : List Frame)
  | afterMember (members : List (Name × Value)) (frames : List Frame)
  | nothing (value : Value)

namespace Expect

def deliver (v : Value) : List Frame → Expect
  | [] => .nothing v
  | .item before :: frames => .afterItem (v :: before) frames
  | .member key before :: frames => .afterMember ((key, v) :: before) frames

def startValue (frames : List Frame) : Token → Option Expect
  | .openBracket => some (.firstItem frames)
  | .openBrace => some (.firstName frames)
  | .null => some (deliver .null frames)
  | .bool b => some (deliver (.bool b) frames)
  | .number literal => some (deliver (.number literal) frames)
  | .string text => some (deliver (.string text) frames)
  | _ => none

def step : Expect → Token → Option Expect
  | value frames, token => startValue frames token
  | firstItem frames, .closeBracket => some (deliver (.array []) frames)
  | firstItem frames, token => startValue (.item [] :: frames) token
  | firstName frames, .closeBrace => some (deliver (.object []) frames)
  | firstName frames, .string key => some (.colon key [] frames)
  | name before frames, .string key => some (.colon key before frames)
  | colon key before frames, .colon => some (.value (.member key before :: frames))
  | afterItem items frames, .comma => some (.value (.item items :: frames))
  | afterItem items frames, .closeBracket => some (deliver (.array items.reverse) frames)
  | afterMember members frames, .comma => some (.name members frames)
  | afterMember members frames, .closeBrace => some (deliver (.object members.reverse) frames)
  | _, _ => none

def run? : Expect → List Token → Option Expect
  | state, [] => some state
  | state, token :: tokens => do (← state.step token).run? tokens

end Expect

namespace Value

def ofTokens? (tokens : List Token) : Option Value :=
  match (Expect.value []).run? tokens with
  | some (.nothing value) => some value
  | _ => none

def parse? (text : String) : Option Value := do ofTokens? (← scan? text.toList)

mutual

def tokens : Value → List Token
  | .null => [.null]
  | .bool b => [.bool b]
  | .number literal => [.number literal]
  | .string text => [.string text]
  | .array [] => [.openBracket, .closeBracket]
  | .array (item :: items) => .openBracket :: tokens item ++ itemTokens items
  | .object [] => [.openBrace, .closeBrace]
  | .object ((name, value) :: members) =>
    .openBrace :: .string name :: .colon :: tokens value ++ memberTokens members

def itemTokens : List Value → List Token
  | [] => [.closeBracket]
  | item :: items => .comma :: tokens item ++ itemTokens items

def memberTokens : List (Name × Value) → List Token
  | [] => [.closeBrace]
  | (name, value) :: members =>
    .comma :: .string name :: .colon :: tokens value ++ memberTokens members

end

def render (value : Value) : String := String.ofList (value.tokens.flatMap Token.chars)

def text (s : String) : Value := .string (some s)

def nat (n : Nat) : Value := .number (Nat.toDigits 10 n)

def option {α : Type} (encode : α → Value) : Option α → Value
  | some a => encode a
  | none => .null

def record (members : List (String × Value)) : Value :=
  .object (members.map fun (name, value) => (some name, value))

end Value

def renderLines : List String → String
  | [] => "[]"
  | first :: rest =>
    let item (s : String) := "  " ++ String.ofList (quote s.toList)
    "[\n" ++ item first ++ String.join (rest.map fun s => ",\n" ++ item s) ++ "\n]"

end MacroScript.Json
