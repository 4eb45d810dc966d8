import MacroScript.Shell.Integer
import MacroScript.Shell.Word

/-! Whole-number expressions. -/

namespace MacroScript.Shell

inductive Operation where
  | multiply
  | divide
  | remainder
  | add
  | subtract
  | shiftLeft
  | shiftRight
  | less
  | lessOrEqual
  | greater
  | greaterOrEqual
  | equal
  | unequal
  | bitAnd
  | bitXor
  | bitOr
  deriving DecidableEq

inductive Expression where
  | number (n : Int)
  | parameter (name : String)
  | negative (body : Expression)
  | isZero (body : Expression)
  | complement (body : Expression)
  | binary (operation : Operation) (left right : Expression)
  | both (left right : Expression)
  | either (left right : Expression)
  | choose (test yes no : Expression)
  | assign (name : String) (operation : Option Operation) (value : Expression)

inductive Lexeme where
  | number (n : Int)
  | name (name : String)
  | operation (operation : Operation)
  | assignment (operation : Option Operation)
  | symbol (symbol : String)
  deriving DecidableEq

/-- The signs in expressions, of which one that starts with another comes before it. -/
def signs : List (String × Lexeme) :=
  [("<<=", .assignment (some .shiftLeft)), (">>=", .assignment (some .shiftRight)),
    ("<<", .operation .shiftLeft), (">>", .operation .shiftRight),
    ("<=", .operation .lessOrEqual), (">=", .operation .greaterOrEqual),
    ("==", .operation .equal), ("!=", .operation .unequal),
    ("&&", .symbol "&&"), ("||", .symbol "||"),
    ("*=", .assignment (some .multiply)), ("/=", .assignment (some .divide)),
    ("%=", .assignment (some .remainder)), ("+=", .assignment (some .add)),
    ("-=", .assignment (some .subtract)), ("&=", .assignment (some .bitAnd)),
    ("^=", .assignment (some .bitXor)), ("|=", .assignment (some .bitOr)),
    ("*", .operation .multiply), ("/", .operation .divide), ("%", .operation .remainder),
    ("+", .operation .add), ("-", .operation .subtract), ("<", .operation .less),
    (">", .operation .greater), ("&", .operation .bitAnd), ("^", .operation .bitXor),
    ("|", .operation .bitOr), ("=", .assignment none), ("!", .symbol "!"), ("~", .symbol "~"),
    ("?", .symbol "?"), (":", .symbol ":"), ("(", .symbol "("), (")", .symbol ")")]

/-- The parts of an expression; a character that starts none ends them with a part that fits
nowhere. -/
def lexemes : (steps : Nat) → List Char → List Lexeme
  | 0, _ => []
  | _ + 1, [] => []
  | steps + 1, c :: rest =>
    if c = ' ' || c = '\t' || c = '\n' then lexemes steps rest
    else if c.isDigit then
      let reading := Reading.ofText true (c :: rest)
      .number reading.clamped :: lexemes steps reading.rest
    else if startsName c then
      let name := (c :: rest).takeWhile continuesName
      .name (String.ofList name) :: lexemes steps ((c :: rest).drop name.length)
    else
      match signs.findSome? fun (sign, lexeme) =>
        (Text.after? sign.toList (c :: rest)).map fun rest => (lexeme, rest) with
      | some (lexeme, rest) => lexeme :: lexemes steps rest
      | none => [.symbol ""]

/-- How closely an operation binds; those that bind closer come first. -/
def Operation.rank : Operation → Nat
  | .multiply => 0
  | .divide => 0
  | .remainder => 0
  | .add => 1
  | .subtract => 1
  | .shiftLeft => 2
  | .shiftRight => 2
  | .less => 3
  | .lessOrEqual => 3
  | .greater => 3
  | .greaterOrEqual => 3
  | .equal => 4
  | .unequal => 4
  | .bitAnd => 5
  | .bitXor => 6
  | .bitOr => 7

/-- An expression that was read, and what follows it; or what is wrong. -/
abbrev ExpressionRead := Except String (Expression × List Lexeme)

mutual

def readAssignment : (steps : Nat) → List Lexeme → ExpressionRead
  | 0, _ => .error "expecting primary"
  | steps + 1, .name name :: .assignment operation :: rest => do
    let (value, rest) ← readAssignment steps rest
    .ok (.assign name operation value, rest)
  | steps + 1, parts => readChoose steps parts

def readChoose : (steps : Nat) → List Lexeme → ExpressionRead
  | 0, _ => .error "expecting primary"
  | steps + 1, parts => do
    let (test, rest) ← readEither steps parts
    match rest with
    | .symbol "?" :: rest => do
      let (yes, rest) ← readAssignment steps rest
      match rest with
      | .symbol ":" :: rest => do
        let (no, rest) ← readChoose steps rest
        .ok (.choose test yes no, rest)
      | _ => .error "expecting ':'"
    | _ => .ok (test, rest)

def readEither : (steps : Nat) → List Lexeme → ExpressionRead
  | 0, _ => .error "expecting primary"
  | steps + 1, parts => do
    let (left, rest) ← readBoth steps parts
    match rest with
    | .symbol "||" :: rest => do
      let (right, rest) ← readEither steps rest
      .ok (.either left right, rest)
    | _ => .ok (left, rest)

def readBoth : (steps : Nat) → List Lexeme → ExpressionRead
  | 0, _ => .error "expecting primary"
  | steps + 1, parts => do
    let (left, rest) ← readOperand steps parts
    let (left, rest) ← readOperations steps 8 left rest
    match rest with
    | .symbol "&&" :: rest => do
      let (right, rest) ← readBoth steps rest
      .ok (.both left right, rest)
    | _ => .ok (left, rest)

def readOperations : (steps : Nat) → (rank : Nat) → Expression → List Lexeme → ExpressionRead
  | 0, _, _, _ => .error "expecting primary"
  | steps + 1, rank, left, .operation operation :: rest =>
    if operation.rank < rank then do
      let (right, rest) ← readOperand steps rest
      let (right, rest) ← readOperations steps operation.rank right rest
      readOperations steps rank (.binary operation left right) rest
    else .ok (left, .operation operation :: rest)
  | _ + 1, _, left, rest => .ok (left, rest)

def readOperand : (steps : Nat) → List Lexeme → ExpressionRead
  | 0, _ => .error "expecting primary"
  | steps + 1, parts =>
    match parts with
    | .number n :: rest => .ok (.number n, rest)
    | .name name :: rest => .ok (.parameter name, rest)
    | .operation .add :: rest => readOperand steps rest
    | .operation .subtract :: rest => do
      let (body, rest) ← readOperand steps rest
      .ok (.negative body, rest)
    | .symbol "!" :: rest => do
      let (body, rest) ← readOperand steps rest
      .ok (.isZero body, rest)
    | .symbol "~" :: rest => do
      let (body, rest) ← readOperand steps rest
      .ok (.complement body, rest)
    | .symbol "(" :: rest => do
      let (body, rest) ← readAssignment steps rest
      match rest with
      | .symbol ")" :: rest => .ok (body, rest)
      | _ => .error "expecting ')'"
    | _ => .error "expecting primary"

end

def Expression.ofText (text : List Char) : Except String Expression := do
  let parts := lexemes (text.length + 1) text
  let (expression, rest) ← readAssignment (8 * parts.length + 8) parts
  if rest.isEmpty then .ok expression else .error "expecting EOF"

def truth (holds : Bool) : Int := if holds then 1 else 0

def bitsOf (n : Int) : Nat := (n % wordSize).toNat

/-- The value of an operation; a division by zero has none. -/
def Operation.apply? (operation : Operation) (a b : Int) : Option Int :=
  match operation with
  | .multiply => some (wrapped (a * b))
  | .divide => if b = 0 then none else some (wrapped (a.tdiv b))
  | .remainder => if b = 0 then none else some (wrapped (a.tmod b))
  | .add => some (wrapped (a + b))
  | .subtract => some (wrapped (a - b))
  | .shiftLeft => some (wrapped (a * Nat.pow 2 (bitsOf b % 64)))
  | .shiftRight => some (a.fdiv (Nat.pow 2 (bitsOf b % 64)))
  | .less => some (truth (a < b))
  | .lessOrEqual => some (truth (a ≤ b))
  | .greater => some (truth (b < a))
  | .greaterOrEqual => some (truth (b ≤ a))
  | .equal => some (truth (a = b))
  | .unequal => some (truth (a ≠ b))
  | .bitAnd => some (wrapped (Nat.land (bitsOf a) (bitsOf b)))
  | .bitXor => some (wrapped (Nat.xor (bitsOf a) (bitsOf b)))
  | .bitOr => some (wrapped (Nat.lor (bitsOf a) (bitsOf b)))

end MacroScript.Shell
