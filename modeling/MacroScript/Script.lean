import MacroScript.Files
import MacroScript.RunError

/-! Scripts: a finite list of lines, obtained from a text by cutting it at its line terminators, and
where they are loaded from. -/

namespace MacroScript

/-- The lines of a text. A line ends at a line feed, at a carriage return, or at the two in this
order, which count as one terminator; a terminator at the very end starts no further line. -/
def splitLines : List Char → List (List Char)
  | [] => []
  | '\r' :: '\n' :: cs => [] :: splitLines cs
  | '\n' :: cs => [] :: splitLines cs
  | '\r' :: cs => [] :: splitLines cs
  | c :: cs => match splitLines cs with
    | [] => [[c]]
    | line :: lines => (c :: line) :: lines

/-- A script is its lines; a line may hold any text. -/
structure Script where
  lines : List String
  deriving DecidableEq

namespace Script

def ofText (text : String) : Script := ⟨(splitLines text.toList).map String.ofList⟩

def size (script : Script) : Nat := script.lines.length

def line? (script : Script) (index : Nat) : Option String := script.lines[index]?

/-- How a script that did not come from a file is named. -/
def describe (script : Script) : String :=
  "<inline, " ++ Text.decimal script.size ++ " lines>"

end Script

/-- Where a run takes its script from. A file is read anew by every run. -/
inductive Source where
  | inline (script : Script)
  | file (path : String)
  deriving DecidableEq

def Source.describe : Source → String
  | .inline script => script.describe
  | .file path => path

def loadScript (read : ReadText) (path : String) : Except RunError Script :=
  match read path with
  | .ok text => .ok (.ofText text)
  | .error .notFound => .error (.scriptNotFound path)
  | .error fault => .error (.scriptUnreadable path fault.message)

def Source.load (read : ReadText) : Source → Except RunError Script
  | .inline script => .ok script
  | .file path => loadScript read path

end MacroScript
