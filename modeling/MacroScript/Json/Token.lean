import MacroScript.Text.Scan

/-! The tokens of JSON text. The scanner takes one character at a time: `Mode` is what it is in the
middle of, and `Mode.step` gives the tokens that a character completes and the mode after it. -/

namespace MacroScript.Json

/-- A token. A string literal is `none` when its escapes name half of a surrogate pair: it is well
formed, but there is no text it stands for. A number is kept as it is written. -/
inductive Token where
  | openBrace
  | closeBrace
  | openBracket
  | closeBracket
  | colon
  | comma
  | null
  | bool (value : Bool)
  | number (literal : List Char)
  | string (text : Option String)
  deriving DecidableEq

inductive NumberPart where
  | minus
  | zero
  | whole
  | point
  | fraction
  | exponent
  | exponentSign
  | exponentDigits
  deriving DecidableEq

/-- How far the scanner is inside an escape: not in one, after its backslash, or inside four
hexadecimal digits with the value of those that have been read. -/
inductive EscapePart where
  | outside
  | backslash
  | hex (missing : Nat) (value : Nat)
  deriving DecidableEq

/-- A string literal that is being read: its characters in reverse, whether they are all there, and
the upper half of a surrogate pair when the literal so far ends in one. -/
structure Literal where
  reversed : List Char := []
  sound : Bool := true
  upperHalf : Option Nat := none
  deriving DecidableEq

namespace Literal

/-- The literal with one more character. An upper half before it is left without its lower half. -/
def push (literal : Literal) (c : Char) : Literal :=
  { reversed := c :: literal.reversed, sound := literal.sound && literal.upperHalf.isNone }

/-- The literal with one more UTF-16 unit: halves of a pair are joined, all else is a character. -/
def pushUnit (literal : Literal) (unit : Nat) : Literal :=
  if 0xD800 ≤ unit ∧ unit < 0xDC00 then
    { reversed := literal.reversed, sound := literal.sound && literal.upperHalf.isNone,
      upperHalf := some unit }
  else if 0xDC00 ≤ unit ∧ unit < 0xE000 then
    match literal.upperHalf with
    | some upper =>
      { reversed := Char.ofNat (0x10000 + (upper - 0xD800) * 0x400 + (unit - 0xDC00)) ::
          literal.reversed,
        sound := literal.sound }
    | none => { literal with sound := false }
  else literal.push (Char.ofNat unit)

def token (literal : Literal) : Token :=
  .string (if literal.sound && literal.upperHalf.isNone
    then some (String.ofList literal.reversed.reverse) else none)

end Literal

inductive Mode where
  | between
  | word (rest : List Char) (token : Token)
  | number (reversed : List Char) (part : NumberPart)
  | string (literal : Literal) (escape : EscapePart)
  deriving DecidableEq

def isSpace (c : Char) : Bool := c == ' ' || c == '\t' || c == '\n' || c == '\r'

def startToken (c : Char) : Option (List Token × Mode) :=
  if isSpace c then some ([], .between) else
  match c with
  | '\x7b' => some ([.openBrace], .between)
  | '\x7d' => some ([.closeBrace], .between)
  | '[' => some ([.openBracket], .between)
  | ']' => some ([.closeBracket], .between)
  | ':' => some ([.colon], .between)
  | ',' => some ([.comma], .between)
  | 'n' => some ([], .word ['u', 'l', 'l'] .null)
  | 't' => some ([], .word ['r', 'u', 'e'] (.bool true))
  | 'f' => some ([], .word ['a', 'l', 's', 'e'] (.bool false))
  | '\x22' => some ([], .string {} .outside)
  | '-' => some ([], .number ['-'] .minus)
  | '0' => some ([], .number ['0'] .zero)
  | c => if c.isDigit then some ([], .number [c] .whole) else none

def NumberPart.step (part : NumberPart) (c : Char) : Option NumberPart :=
  match part with
  | minus => if c = '0' then some zero else if c.isDigit then some whole else none
  | zero => if c = '.' then some point else if c = 'e' ∨ c = 'E' then some exponent else none
  | whole =>
    if c.isDigit then some whole
    else if c = '.' then some point
    else if c = 'e' ∨ c = 'E' then some exponent
    else none
  | point => if c.isDigit then some fraction else none
  | fraction =>
    if c.isDigit then some fraction
    else if c = 'e' ∨ c = 'E' then some exponent
    else none
  | exponent =>
    if c.isDigit then some exponentDigits
    else if c = '+' ∨ c = '-' then some exponentSign
    else none
  | exponentSign => if c.isDigit then some exponentDigits else none
  | exponentDigits => if c.isDigit then some exponentDigits else none

def NumberPart.isComplete : NumberPart → Bool
  | zero | whole | fraction | exponentDigits => true
  | minus | point | exponent | exponentSign => false

def shortEscape? : Char → Option Char
  | '\x22' => some '\x22'
  | '\\' => some '\\'
  | '/' => some '/'
  | 'b' => some '\x08'
  | 'f' => some '\x0c'
  | 'n' => some '\n'
  | 'r' => some '\r'
  | 't' => some '\t'
  | _ => none

def stepString (literal : Literal) : EscapePart → Char → Option (List Token × Mode)
  | .outside, c =>
    if c = '\x22' then some ([literal.token], .between)
    else if c = '\\' then some ([], .string literal .backslash)
    else if c.toNat < 0x20 then none
    else some ([], .string (literal.push c) .outside)
  | .backslash, c =>
    if c = 'u' then some ([], .string literal (.hex 4 0))
    else (shortEscape? c).map fun c => ([], .string (literal.push c) .outside)
  | .hex missing value, c =>
    (Text.hexDigit? c).map fun digit =>
      let value := value * 16 + digit
      if missing ≤ 1 then ([], .string (literal.pushUnit value) .outside)
      else ([], .string literal (.hex (missing - 1) value))

def Mode.step : Mode → Char → Option (List Token × Mode)
  | between, c => startToken c
  | word [] token, c => (startToken c).map fun (tokens, mode) => (token :: tokens, mode)
  | word (x :: rest) token, c =>
    if c ≠ x then none
    else if rest.isEmpty then some ([token], .between)
    else some ([], .word rest token)
  | number reversed part, c =>
    match part.step c with
    | some part => some ([], .number (c :: reversed) part)
    | none =>
      if part.isComplete then
        (startToken c).map fun (tokens, mode) => (.number reversed.reverse :: tokens, mode)
      else none
  | string literal escape, c => stepString literal escape c

def Mode.finish? : Mode → Option (List Token)
  | between => some []
  | number reversed part => if part.isComplete then some [.number reversed.reverse] else none
  | word _ _ => none
  | string _ _ => none

/-- The tokens of a text that is read in a mode, after those that are done, which are in reverse. -/
def Mode.scanFrom? : (done : List Token) → Mode → List Char → Option (List Token)
  | done, mode, [] => mode.finish?.map (done.reverse ++ ·)
  | done, mode, c :: cs =>
    match mode.step c with
    | some (tokens, next) => scanFrom? (tokens.reverse ++ done) next cs
    | none => none

def scan? (text : List Char) : Option (List Token) := Mode.scanFrom? [] .between text

def hexDigit (n : Nat) : Char := Nat.digitChar n

/-- How a character is written inside a string literal: the quote, the backslash and the control
characters below the blank are escaped, by one letter where there is one. -/
def escape (c : Char) : List Char :=
  match c with
  | '\x22' => ['\\', '\x22']
  | '\\' => ['\\', '\\']
  | '\x08' => ['\\', 'b']
  | '\x0c' => ['\\', 'f']
  | '\n' => ['\\', 'n']
  | '\r' => ['\\', 'r']
  | '\t' => ['\\', 't']
  | c =>
    if c.toNat < 0x20 then ['\\', 'u', '0', '0', hexDigit (c.toNat / 16), hexDigit (c.toNat % 16)]
    else [c]

def quote (text : List Char) : List Char := '\x22' :: text.flatMap escape ++ ['\x22']

/-- How a token is written; a literal without a text is written as an empty one. -/
def Token.chars : Token → List Char
  | openBrace => ['\x7b']
  | closeBrace => ['\x7d']
  | openBracket => ['[']
  | closeBracket => [']']
  | colon => [':']
  | comma => [',']
  | null => ['n', 'u', 'l', 'l']
  | bool true => ['t', 'r', 'u', 'e']
  | bool false => ['f', 'a', 'l', 's', 'e']
  | number literal => literal
  | string text => quote (text.getD "").toList

end MacroScript.Json
