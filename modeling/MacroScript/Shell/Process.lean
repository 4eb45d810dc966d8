import MacroScript.Shell.Octets
import MacroScript.Shell.State

/-! Shells within shells: carrying out the commands of a text, what happens at the end of a shell,
and signals.

The commands that a command leads to, such as the body of a function, are carried out by a function
that is given here; it is the same one with less depth to go. -/

namespace MacroScript.Shell

/-- Carries out commands that another command leads to; `tested` says that their status is put to
the test, so that a failure does not end the shell. -/
structure Inner where
  command : (tested : Bool) → Command → Act Unit

def runLines (inner : Inner) (tested : Bool) : (steps : Nat) → List Token → Act Unit
  | 0, _ => pure ()
  | _ + 1, [] => pure ()
  | steps + 1, tokens => do
    match readLine nestingBound (← Act.frame).aliases tokens with
    | .error message => Act.fail ("Syntax error: " ++ message)
    | .ok (command, rest) =>
      match command with
      | .nothing => pure ()
      | _ => if !(← Act.frame).has 'n' then inner.command tested command
      runLines inner tested steps rest

/-- Carries out the commands of a text; no commands succeed. -/
def runScript (inner : Inner) (tested : Bool) (text : String) : Act Unit := do
  let tokens := skipLines (scan text.toList)
  if tokens.isEmpty then Act.setStatus 0
  else runLines inner tested tokens.length tokens

inductive Ending where
  | exited (status : Nat)
  | killed (signal : Nat)
  deriving DecidableEq

def Ending.status : Ending → Nat
  | exited status => status % 256
  | killed signal => 128 + signal

def endingOf (status : Nat) : Except Halt Unit → Ending
  | .error (.exit status) => .exited status
  | .error .error => .exited 2
  | .error (.killed signal) => .killed signal
  | .error .tooDeep => .killed 11
  | _ => .exited status

/-- Brings the shell to its end: what is set for the end is carried out, unless a signal ends it. -/
def leaveShell (inner : Inner) (result : Except Halt Unit) : Act Ending := do
  let ending := endingOf (← Act.frame).status result
  match ending, (← Act.frame).traps.get? 0 with
  | .exited status, some action =>
    Act.changeFrame fun frame => { frame with status, label := "", traps := frame.traps.erase 0 }
    return endingOf status (← (runScript inner false action).outcome)
  | _, _ => return ending

def receive (signal : Nat) : Act Unit := do
  if signal = 9 then throw (.killed 9)
  match (← Act.frame).traps.get? signal with
  | some "" => pure ()
  | some _ => Act.changeFrame fun frame => { frame with caught := frame.caught ++ [signal] }
  | none => if !harmlessSignals.contains signal then throw (.killed signal)

def receiveAll : Act Unit := do
  let process := (← Act.frame).process
  let signals := (← Act.world).signals
  Act.changeWorld fun world => { world with signals := signals.filter (·.1 ≠ process) }
  (signals.filter (·.1 = process)).forM fun (_, signal) => receive signal

def runTraps (inner : Inner) : Act Unit := do
  let frame ← Act.frame
  if !frame.caught.isEmpty then
    Act.changeFrame fun frame => { frame with caught := [] }
    frame.caught.forM fun signal => do
      runScript inner false ((frame.traps.get? signal).getD "")
      Act.setStatus frame.status

/-- Says by which signal a process has ended. -/
def announce (ending : Ending) : Act Unit :=
  match ending with
  | .killed signal =>
    if signal = 2 || signal = 13 then pure ()
    else Act.warn (((signals.lookup signal).map (·.2)).getD ("Signal " ++ Text.decimal signal))
  | .exited _ => pure ()

/-- Puts another shell to work: does something in a frame, brings that shell to its end, and goes
back to the shell that waits for it. -/
def inProcess (inner : Inner) (enter : (process : Nat) → Frame → Frame) (act : Act Unit) :
    Act Ending := do
  let before ← Act.frame
  let process ← Act.newProcess
  Act.changeFrame fun frame =>
    { enter process frame with process, parents := frame.process :: frame.parents, caught := [] }
  let ending ← leaveShell inner (← act.outcome)
  let clock := (← Act.frame).clock
  Act.changeFrame fun _ => { before with clock }
  return ending

/-- The frame of a shell that is started within another one: what is set for signals is forgotten,
unless they are ignored. -/
def Frame.within (frame : Frame) : Frame :=
  { frame with traps := ⟨frame.traps.entries.filter fun (_, action) => action = ""⟩ }

/-- Carries out a job in the background, unless a signal has ended it before. -/
def runJob (inner : Inner) (job : Job) : Act Unit := do
  let before ← Act.frame
  let result : Except Halt Unit ← match job.signal with
    | some signal => pure (.error (.killed signal))
    | none => do
      Act.changeFrame fun _ => job.frame
      (inner.command false job.command).outcome
  let ending ← leaveShell inner result
  let finish := (← Act.frame).clock
  Act.changeFrame fun _ => before
  announce ending
  Act.changeWorld fun world => { world with
    jobs := world.jobs.map fun other =>
      if other.process = job.process then { other with outcome := some ending.status, finish }
      else other }
  receiveAll

def runJobsSince (inner : Inner) (process : Nat) : (steps : Nat) → Act Unit
  | 0 => pure ()
  | steps + 1 => do
    match (← Act.world).jobs.find? fun job => process ≤ job.process && job.outcome.isNone with
    | none => pure ()
    | some job =>
      runJob inner job
      runJobsSince inner process steps

def jobBound : Nat := 1000

def inSubshell (inner : Inner) (act : Act Unit) : Act Unit := do
  let ending ← inProcess inner (fun _ => Frame.within) act
  Act.setStatus ending.status
  announce ending
  receiveAll

/-- What something prints, in a shell within this one; all jobs that it starts come to their end. -/
def printedBy (inner : Inner) (isPipe : Bool) (act : Act Unit) : Act String := do
  let number ← Act.newBuffer isPipe
  let next := (← Act.world).nextProcess
  inSubshell inner do
    Act.changeFrame fun frame => { frame with streams := frame.streams.set 1 (.buffer number) }
    act
  runJobsSince inner next jobBound
  Act.bufferText number

end MacroScript.Shell
