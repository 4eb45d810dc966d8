import MacroScript.Shell.Integer
import MacroScript.Shell.Octets
import MacroScript.Shell.State

/-! Conditions on texts, numbers and files, given as words. -/

namespace MacroScript.Shell

inductive Relation where
  | unary (letter : Char)
  | binary (name : String)
  | negation
  | conjunction
  | disjunction
  | opening
  | closing
  deriving DecidableEq

def binaryWords : List String :=
  ["=", "!=", "<", ">", "-eq", "-ne", "-lt", "-le", "-gt", "-ge", "-nt", "-ot", "-ef"]

def relation? (word : String) : Option Relation :=
  if binaryWords.contains word then some (.binary word)
  else match word.toList with
    | ['!'] => some .negation
    | ['('] => some .opening
    | [')'] => some .closing
    | ['-', 'a'] => some .conjunction
    | ['-', 'o'] => some .disjunction
    | ['-', c] => if "rwxfdecbpugkstznhOGLS".toList.contains c then some (.unary c) else none
    | _ => none

def isBinary (word : String) : Bool := relation? word matches some (.binary _)

/-- The relation that the first of some words is, given those after it; one that has nothing to
relate is a word like any other. -/
def relationAt? (words : List String) : Option Relation :=
  match words with
  | [] => none
  | word :: rest =>
    match relation? word with
    | some (.unary letter) =>
      let isOperand := match rest with
        | [] => true
        | [_] => false
        | next :: _ => isBinary next
      if isOperand then none else some (.unary letter)
    | some .opening => if rest.isEmpty then none else some .opening
    | relation => relation

abbrev Programs := String → Bool

structure Surroundings where
  written : Written
  directory : String
  isProgram : Programs

/-- Whether something is so of a file. -/
def Surroundings.fileIs (surroundings : Surroundings) (letter : Char) (name : String) : Bool :=
  let path := resolve surroundings.directory name
  let written := surroundings.written
  let isDevice := knownDevices.contains path
  let isProgram := surroundings.isProgram path
  if name = "" then false
  else match letter with
    | 'f' => written.isFile path || isProgram
    | 'd' => written.isDirectory path
    | 'c' => isDevice
    | 's' => ((written.files.get? path).any (· ≠ "")) || written.isDirectory path || isProgram
    | 'x' => written.isDirectory path || written.runnable.contains path || isProgram
    | 'k' => path = "/tmp" || path = "/var/tmp"
    | 'b' => false
    | 'p' => false
    | 'u' => false
    | 'g' => false
    | 'S' => false
    | 'h' => ["/bin", "/lib", "/sbin"].contains path
    | 'L' => ["/bin", "/lib", "/sbin"].contains path
    | _ => written.exists? path || isProgram

def operandNumber (word : String) : Except String Int :=
  match integer? word.toList with
  | some n => .ok n
  | none => .error ("Illegal number: " ++ word)

def Surroundings.related (surroundings : Surroundings) (name a b : String) : Except String Bool :=
  let numbers (compare : Int → Int → Bool) : Except String Bool := do
    return compare (← operandNumber a) (← operandNumber b)
  match name with
  | "=" => .ok (a = b)
  | "!=" => .ok (a ≠ b)
  | "<" => .ok (precedes a.toList b.toList)
  | ">" => .ok (precedes b.toList a.toList)
  | "-eq" => numbers fun a b => a = b
  | "-ne" => numbers fun a b => a ≠ b
  | "-lt" => numbers fun a b => a < b
  | "-le" => numbers fun a b => a ≤ b
  | "-gt" => numbers fun a b => b < a
  | "-ge" => numbers fun a b => b ≤ a
  | "-ef" =>
    .ok (surroundings.fileIs 'e' a &&
      resolve surroundings.directory a = resolve surroundings.directory b)
  | _ => .ok false

/-- Whether a condition holds, and the words from its last one on; or what is wrong. -/
abbrev Judgement := Except String (Bool × List String)

mutual

def judgeEither (surroundings : Surroundings) : (steps : Nat) → List String → Judgement
  | 0, words => .ok (false, words)
  | steps + 1, words => do
    let (holds, words) ← judgeBoth surroundings steps words
    if relationAt? (words.drop 1) = some .disjunction then do
      let (others, words) ← judgeEither surroundings steps (words.drop 2)
      .ok (holds || others, words)
    else .ok (holds, words)

def judgeBoth (surroundings : Surroundings) : (steps : Nat) → List String → Judgement
  | 0, words => .ok (false, words)
  | steps + 1, words => do
    let (holds, words) ← judgeNegated surroundings steps words
    if relationAt? (words.drop 1) = some .conjunction then do
      let (others, words) ← judgeBoth surroundings steps (words.drop 2)
      .ok (holds && others, words)
    else .ok (holds, words)

/-- A condition that may be turned around. -/
def judgeNegated (surroundings : Surroundings) : (steps : Nat) → List String → Judgement
  | 0, words => .ok (false, words)
  | steps + 1, words =>
    if relationAt? words = some .negation then do
      let (holds, words) ← judgeNegated surroundings steps
        (if (words.drop 1).isEmpty then [] else words.drop 1)
      .ok (!holds, words)
    else judgeOne surroundings steps words

def judgeOne (surroundings : Surroundings) : (steps : Nat) → List String → Judgement
  | 0, words => .ok (false, words)
  | _ + 1, [] => .ok (false, [])
  | steps + 1, word :: rest =>
    match relationAt? (word :: rest) with
    | some .opening =>
      if relationAt? rest = some .closing then .ok (false, rest)
      else do
        let (holds, words) ← judgeEither surroundings steps rest
        if relationAt? (words.drop 1) = some .closing then .ok (holds, words.drop 1)
        else .error "closing paren expected"
    | some (.unary letter) =>
      match rest with
      | [] => .error (word ++ ": argument expected")
      | operand :: _ =>
        if letter = 'z' then .ok (operand = "", rest)
        else if letter = 'n' then .ok (operand ≠ "", rest)
        else if letter = 't' then do
          let _ ← operandNumber operand
          .ok (false, rest)
        else .ok (surroundings.fileIs letter operand, rest)
    | _ =>
      match rest with
      | name :: after =>
        if isBinary name then
          match after with
          | [] => .error (name ++ ": argument expected")
          | operand :: _ => do .ok (← surroundings.related name word operand, after)
        else .ok (word ≠ "", word :: rest)
      | [] => .ok (word ≠ "", [word])

end

/-- Whether the condition that all of some words make up holds. Three words with a relation in the
middle are just that, and otherwise three or four may be turned around or stand in parentheses. -/
def judge (surroundings : Surroundings) : (steps : Nat) → List String → Except String Bool
  | 0, _ => .ok false
  | steps + 1, words =>
    let whole (words : List String) : Except String Bool := do
      let (holds, words) ← judgeEither surroundings (4 * words.length + 8) words
      match words with
      | word :: _ :: _ =>
        .error (if word = "" then "unexpected operator" else word ++ ": unexpected operator")
      | _ => .ok holds
    match words with
    | [] => .ok false
    | [a, name, b] =>
      if isBinary name then surroundings.related name a b
      else if a = "(" && b = ")" then whole [name]
      else if a = "!" then do .ok (!(← judge surroundings steps [name, b]))
      else whole words
    | [a, b, c, d] =>
      if a = "(" && d = ")" then whole [b, c]
      else if a = "!" then do .ok (!(← judge surroundings steps [b, c, d]))
      else whole words
    | _ => whole words

end MacroScript.Shell
