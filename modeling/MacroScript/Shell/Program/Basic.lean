import MacroScript.Shell.Lines
import MacroScript.Shell.Utility

/-! What programs have in common: their options, the texts they read, and how they answer. -/

namespace MacroScript.Shell

def refuse (name : String) (status : Nat) (reason : String) : Act Unit := do
  Act.warn (name ++ ": " ++ reason)
  Act.setStatus status

def succeed (text : List Char) : Act Unit := do
  let _ ← Act.write 1 (String.ofList text)
  Act.setStatus 0

/-- The text of a file, or the input for a dash; a file that is not there is complained of. -/
def textOf (name path : String) : Act (Option (List Char)) := do
  if path = "-" then return some (← Act.readAll 0)
  let written := (← Act.world).written
  let full := resolve (← Act.frame).directory path
  match written.files.get? full with
  | some text => return some text.toList
  | none =>
    if full = "/dev/null" then return some []
    else if full = "/dev/stdin" then return some (← Act.readAll 0)
    else do
      let isDirectory := written.isDirectory full && path ≠ ""
      let reason := if isDirectory then "Is a directory" else "No such file or directory"
      refuse name 1 (if name ≠ "head" && name ≠ "tail" then path ++ ": " ++ reason
        else if isDirectory then "error reading '" ++ path ++ "': " ++ reason
        else "cannot open '" ++ path ++ "' for reading: " ++ reason)
      return none

/-- The texts of files one after another, or the input when there are none. -/
def textsOf (name : String) (paths : List String) : Act (List Char) := do
  Act.setStatus 0
  let texts ← (if paths.isEmpty then ["-"] else paths).mapM (textOf name)
  return (texts.filterMap id).flatten

def emit (text : List Char) : Act Unit := do
  let _ ← Act.write 1 (String.ofList text)

def filterLines (name : String) (paths : List String)
    (change : List (List Char) → List (List Char)) : Act Unit := do
  let text ← textsOf name paths
  emit (ofLines (change (linesOf text)))

/-- Splits arguments into the letters of options with their values, and the others. The letters in
`valued` take a value, which is the rest of the word or the next one. -/
def parseOptions (valued : List Char) : (steps : Nat) → List String →
    List (Char × String) × List String
  | 0, arguments => ([], arguments)
  | _ + 1, [] => ([], [])
  | steps + 1, argument :: rest =>
    match argument.toList with
    | ['-', '-'] => ([], rest)
    | '-' :: '-' :: name =>
      let (options, others) := parseOptions valued steps rest
      ((('-', String.ofList name)) :: options, others)
    | '-' :: c :: cs =>
      if valued.contains c then
        match cs, rest with
        | [], value :: rest =>
          let (options, others) := parseOptions valued steps rest
          ((c, value) :: options, others)
        | _, _ =>
          let (options, others) := parseOptions valued steps rest
          ((c, String.ofList cs) :: options, others)
      else
        let (options, others) := parseOptions valued steps
          (if cs.isEmpty then rest else String.ofList ('-' :: cs) :: rest)
        ((c, "") :: options, others)
    | _ =>
      let (options, others) := parseOptions valued steps rest
      (options, argument :: others)

def optionsAndOthers (valued : List Char) (arguments : List String) :
    List (Char × String) × List String :=
  parseOptions valued (arguments.foldl (fun n a => n + a.length + 1) 1) arguments

def given (options : List (Char × String)) (letter : Char) : Bool := options.any (·.1 = letter)

def changeWritten (change : Written → Written) : Act Unit :=
  Act.changeWorld fun world => { world with written := change world.written }

end MacroScript.Shell
