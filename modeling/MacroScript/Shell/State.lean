import MacroScript.Shell.Command
import MacroScript.Shell.Signal
import MacroScript.Shell.Written

/-! What shells hold while they carry commands out. A frame belongs to one shell, and a shell that
is started within another one begins with a copy of it; the world is what all of them share. -/

namespace MacroScript.Shell

/-- What a stream is connected to: a text that is read, a buffer or file that is written, a place
where everything is lost, or one where nothing fits. -/
inductive Stream where
  | source (number : Nat)
  | buffer (number : Nat)
  | file (path : String)
  | discard
  | full
  deriving DecidableEq

/-- What was written, newest first and with the time of each part. A pipe holds only so much, since
no one reads on for ever. -/
structure Buffer where
  chunks : List (Nat × String) := []
  size : Nat := 0
  isPipe : Bool := false

structure Saved where
  name : String
  value : Option String
  isExported : Bool

/-- What a shell holds. The label names the utility at work, and the parents are the processes that
wait for this one. -/
structure Frame where
  parameters : Table String String := {}
  exported : List String := []
  fixed : List String := []
  functions : Table String Command := {}
  aliases : Aliases := {}
  positional : List String := []
  title : String := "sh"
  label : String := ""
  options : List Char := []
  traps : Table Nat String := {}
  caught : List Nat := []
  directory : String := "/work"
  streams : Table Nat Stream := {}
  scopes : List (List Saved) := []
  loops : Nat := 0
  calls : Nat := 0
  status : Nat := 0
  substituted : Nat := 0
  process : Nat := 0
  shellProcess : Nat := 0
  parents : List Nat := []
  lastJob : Option Nat := none
  optionPlace : Nat := 0
  clock : Nat := 0
  mask : Nat := 18

/-- A command in the background. It is carried out when something waits for it. -/
structure Job where
  process : Nat
  frame : Frame
  command : Command
  outcome : Option Nat := none
  finish : Nat := 0
  signal : Option Nat := none

structure World where
  sources : Table Nat (List Char) := {}
  buffers : Table Nat Buffer := {}
  written : Written := {}
  jobs : List Job := []
  signals : List (Nat × Nat) := []
  nextNumber : Nat := 10
  nextProcess : Nat := 4243

structure State where
  frame : Frame
  world : World

/-- Why nothing more of a command is carried out: the shell comes to its end with a status, for an
error or by a signal, a number of loops is left or goes on with the next round, a function is left,
or commands are nested too deep. -/
inductive Halt where
  | exit (status : Nat)
  | error
  | killed (signal : Nat)
  | leaveLoops (count : Nat)
  | nextRound (count : Nat)
  | leaveFunction
  | tooDeep
  deriving DecidableEq

abbrev Act (α : Type) := ExceptT Halt (StateM State) α

namespace Act

def frame : Act Frame := do return (← get).frame

def changeFrame (change : Frame → Frame) : Act Unit :=
  modify fun state => { state with frame := change state.frame }

def world : Act World := do return (← get).world

def changeWorld (change : World → World) : Act Unit :=
  modify fun state => { state with world := change state.world }

def andThenFrame {α : Type} (act : Act α) (change : Frame → Frame) : Act α := fun state =>
  match act state with
  | (result, state) => (result, { state with frame := change state.frame })

def outcome {α : Type} (act : Act α) : Act (Except Halt α) := fun state =>
  match act state with
  | (result, state) => (.ok result, state)

def setStatus (status : Nat) : Act Unit := changeFrame fun frame => { frame with status }

def newNumber : Act Nat := do
  let number := (← world).nextNumber
  changeWorld fun world => { world with nextNumber := number + 1 }
  return number

def newProcess : Act Nat := do
  let process := (← world).nextProcess
  changeWorld fun world => { world with nextProcess := process + 1 }
  return process

end Act

def pipeBound : Nat := 262144

def Buffer.inOrder (buffer : Buffer) : List (Nat × String) :=
  buffer.chunks.reverse.mergeSort fun a b => a.1 ≤ b.1

def Buffer.text (buffer : Buffer) : String := String.join (buffer.inOrder.map (·.2))

namespace Act

/-- Adds text to what a connection leads to; fails when it takes none. -/
def writeStream (stream : Stream) (text : String) : Act Bool := do
  match stream with
  | .source _ => return false
  | .full => return text.isEmpty
  | .discard => return true
  | .file path =>
    changeWorld fun world =>
      let before := (world.written.files.get? path).getD ""
      { world with written.files := world.written.files.set path (before ++ text) }
    return true
  | .buffer number =>
    let clock := (← frame).clock
    let buffer := ((← world).buffers.get? number).getD {}
    if buffer.isPipe && pipeBound < buffer.size then throw (.killed 13)
    let buffer := { buffer with
      chunks := if text.isEmpty then buffer.chunks else (clock, text) :: buffer.chunks
      size := buffer.size + text.length }
    changeWorld fun world => { world with buffers := world.buffers.set number buffer }
    return true

/-- Adds text to a stream; fails when it takes none. -/
def write (stream : Nat) (text : String) : Act Bool := do
  match (← frame).streams.get? stream with
  | some connection => writeStream connection text
  | none => return false

def warn (text : String) : Act Unit := do
  let _ ← write 2 (text ++ "\n")

def complain (text : String) : Act Unit := do
  let frame ← frame
  warn (frame.title ++ ": 1: " ++ frame.label ++ text)

def fail {α : Type} (text : String) : Act α := do
  complain text
  setStatus 2
  throw .error

/-- Prints text and ends a utility with a status; when it cannot be printed, that is
complained of. -/
def print (text : String) (status : Nat) : Act Unit := do
  if ← write 1 text then setStatus status
  else do
    let name := (← frame).label
    complain (name ++ "I/O error")
    setStatus 1

def newBuffer (isPipe : Bool) : Act Nat := do
  let number ← newNumber
  changeWorld fun world => { world with buffers := world.buffers.set number { isPipe } }
  return number

def bufferText (number : Nat) : Act String := do
  return (((← world).buffers.get? number).getD {}).text

def newSource (text : List Char) : Act Nat := do
  let number ← newNumber
  changeWorld fun world => { world with sources := world.sources.set number text }
  return number

def remaining (stream : Nat) : Act (List Char) := do
  match (← frame).streams.get? stream with
  | some (.source number) => return ((← world).sources.get? number).getD []
  | _ => return []

def setRemaining (stream : Nat) (text : List Char) : Act Unit := do
  match (← frame).streams.get? stream with
  | some (.source number) =>
    changeWorld fun world => { world with sources := world.sources.set number text }
  | _ => pure ()

def readAll (stream : Nat) : Act (List Char) := do
  let text ← remaining stream
  setRemaining stream []
  return text

end Act

/-- The options by name and letter, in the order in which they are shown. -/
def optionNames : List (String × Char) :=
  [("errexit", 'e'), ("noglob", 'f'), ("ignoreeof", 'I'), ("interactive", 'i'), ("monitor", 'm'),
    ("noexec", 'n'), ("stdin", 's'), ("xtrace", 'x'), ("verbose", 'v'), ("vi", 'V'), ("emacs", 'E'),
    ("noclobber", 'C'), ("allexport", 'a'), ("notify", 'b'), ("nounset", 'u'), ("privileged", 'p'),
    ("nolog", '\x01'), ("debug", '\x02')]

namespace Frame

def has (frame : Frame) (option : Char) : Bool := frame.options.contains option

def separators (frame : Frame) : List Char :=
  match frame.parameters.get? "IFS" with
  | some value => value.toList
  | none => [' ', '\t', '\n']

def joiner (frame : Frame) : String :=
  match frame.parameters.get? "IFS" with
  | some value => String.ofList (value.toList.take 1)
  | none => " "

def parameter? (frame : Frame) (name : String) : Option String :=
  match name with
  | "?" => some (Text.decimal frame.status)
  | "$" => some (Text.decimal frame.shellProcess)
  | "#" => some (Text.decimal frame.positional.length)
  | "!" => frame.lastJob.map Text.decimal
  | "-" =>
    some (String.ofList
      ((optionNames.map (·.2)).filter fun c => c.isAlpha && frame.options.contains c).reverse)
  | "@" => some (frame.joiner.intercalate frame.positional)
  | "*" => some (frame.joiner.intercalate frame.positional)
  | _ =>
    match Text.digits? name.toList with
    | some 0 => some frame.title
    | some n => frame.positional[n - 1]?
    | none => frame.parameters.get? name

/-- The environment of a program that is started: the parameters for it. -/
def environment (frame : Frame) : List (String × String) :=
  frame.parameters.entries.filter fun (name, _) => frame.exported.contains name

end Frame

namespace Act

def setParameter (name value : String) : Act Unit := do
  let frame ← frame
  if frame.fixed.contains name then fail (name ++ ": is read only")
  changeFrame fun frame => { frame with
    parameters := frame.parameters.set name value
    exported := if frame.has 'a' then name :: frame.exported else frame.exported
    optionPlace := if name = "OPTIND" then 0 else frame.optionPlace }

def exportName (name : String) : Act Unit :=
  changeFrame fun frame =>
    if frame.exported.contains name then frame
    else { frame with exported := name :: frame.exported }

def saveParameter (name : String) : Act Unit :=
  changeFrame fun frame =>
    match frame.scopes with
    | scope :: scopes =>
      let saved : Saved := ⟨name, frame.parameters.get? name, frame.exported.contains name⟩
      { frame with scopes := (saved :: scope) :: scopes }
    | [] => frame

end Act

def Frame.restore (frame : Frame) (saved : Saved) : Frame :=
  { frame with
    parameters := match saved.value with
      | some value => frame.parameters.set saved.name value
      | none => frame.parameters.erase saved.name
    exported := if saved.isExported then saved.name :: frame.exported.filter (· ≠ saved.name)
      else frame.exported.filter (· ≠ saved.name) }

def Frame.leaveScope (frame : Frame) : Frame :=
  match frame.scopes with
  | scope :: scopes => scope.foldl restore { frame with scopes }
  | [] => frame

def Act.inScope {α : Type} (act : Act α) : Act α := do
  changeFrame fun frame => { frame with scopes := [] :: frame.scopes }
  act.andThenFrame Frame.leaveScope

end MacroScript.Shell
