import MacroScript.RunError
import MacroScript.Text.Scan

/-! Directives: what one line of a script asks for, how it is read and how it is written.

A line whose first word is a keyword must have that directive's form. The line `END` ends the run,
and every other line is a command, kept as it is. -/

namespace MacroScript

/-- What a line asks for. A count says how often a loop body runs in all. -/
inductive Directive where
  | label (name : String)
  | var (key value : String)
  | jump (label : String) (count : Option UInt32)
  | finish
  | command (text : String)
  deriving DecidableEq

inductive Keyword where
  | label
  | var
  | jump
  deriving DecidableEq

def Keyword.word : Keyword → List Char
  | label => ['l', 'a', 'b', 'e', 'l']
  | var => ['v', 'a', 'r']
  | jump => ['j', 'u', 'm', 'p', 't', 'o']

/-- The keyword a line starts with, after blanks and in any mixture of capitals. Nothing need divide
the keyword from what follows, so `variable` starts with one. -/
def Keyword.ofLine? (line : List Char) : Option Keyword :=
  [Keyword.label, .var, .jump].find? fun k => Text.startsWithWord k.word (Text.trimChars line)

namespace Directive

def kindName : Directive → String
  | label _ => "label"
  | var _ _ => "var"
  | jump _ _ => "jumpto"
  | finish => "end"
  | command _ => "command"

/-- The argument of a line with at most one colon, apart from colons at its end: the trimmed text
after that colon, empty when there is none. -/
def argument (line : List Char) : Except Fault (List Char) :=
  match Text.fields ':' (Text.dropEndWhile (· = ':') line) with
  | [] | [_] => .ok []
  | [_, argument] => .ok (Text.trimChars argument)
  | _ => .error .labelHasColon

def readLabel (line : List Char) : Except Fault Directive := do
  let name ← argument line
  if name.isEmpty then .error .labelUnnamed
  else if name.contains ',' then .error .labelHasComma
  else .ok (.label (String.ofList name))

/-- Reads `var:<name>=<value>`. The name is trimmed; of the value only the end of the line is. -/
def readVar (line : List Char) : Except Fault Directive :=
  match Text.cut? ':' line with
  | none => .error .declarationForm
  | some (_, rest) =>
    match Text.cut? '=' (Text.trimChars rest) with
    | none => .error .declarationLacksEquals
    | some (name, value) =>
      let key := Text.trimChars name
      if key.isEmpty then .error .variableUnnamed
      else .ok (.var (String.ofList key) (String.ofList value))

def readCount (text : List Char) : Except Fault UInt32 :=
  match Text.numeral? UInt32.size text with
  | none => .error (.countUnreadable (String.ofList text))
  | some 0 => .error .countZero
  | some (n + 1) => .ok (UInt32.ofNat (n + 1))

def readJump (line : List Char) : Except Fault Directive := do
  let parts := Text.fields ',' (← argument line)
  let label := Text.trimChars (parts.headD [])
  if label.isEmpty then .error .jumpUnlabelled
  else match parts.tail with
    | [] => .ok (.jump (String.ofList label) none)
    | count :: more => do
      let count ← readCount (Text.trimChars count)
      if more.isEmpty then .ok (.jump (String.ofList label) (some count))
      else .error .countRepeated

def read (line : String) : Except Fault Directive :=
  match Keyword.ofLine? line.toList with
  | some .label => readLabel line.toList
  | some .var => readVar line.toList
  | some .jump => readJump line.toList
  | none => .ok (if line = "END" then .finish else .command line)

/-- Reads the line at an index, which an error then names. -/
def readAt (index : Nat) (line : String) : Except RunError Directive :=
  (read line).mapError (.malformed index)

/-- The plainest line that reads as the directive, for the directives that a line can give. -/
def print : Directive → String
  | label name => "label:" ++ name
  | var key value => "var:" ++ key ++ "=" ++ value
  | jump target none => "jumpto:" ++ target
  | jump target (some count) => "jumpto:" ++ target ++ "," ++ Text.decimal count.toNat
  | finish => "END"
  | command text => text

end Directive

end MacroScript
