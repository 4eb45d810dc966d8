import MacroScript.Shell.Simple

/-! Carrying shell commands out. Every command line is given to a shell of its own; what lasts from
one line to the next are the files that were written.

The shell is a function of the line and those files. So there is no file or directory but those that
commands have made and a few that every system has, no program but those of `program?`, and time
passes only where a command waits. Commands in the background are carried out when something waits
for them or when the shell has come to its end. -/

namespace MacroScript.Shell

/-- Ends a command: what is set for signals that were caught is carried out, and a failure that is
not put to the test ends the shell under an option. -/
def settle (inner : Inner) (tested : Bool) : Act Unit := do
  runTraps inner
  let frame ← Act.frame
  if !tested && frame.has 'e' && frame.status ≠ 0 then throw (.exit frame.status)

/-- Does one round of a loop; tells whether the loop goes on, and the status. -/
def inRound (round : Act Bool) : Act (Bool × Nat) := do
  Act.changeFrame fun frame => { frame with loops := frame.loops + 1 }
  let result ← (round.andThenFrame fun frame => { frame with loops := frame.loops - 1 }).outcome
  let status := (← Act.frame).status
  match result with
  | .ok goesOn => return (goesOn, status)
  | .error (.leaveLoops (count + 2)) => throw (.leaveLoops (count + 1))
  | .error (.leaveLoops _) => return (false, status)
  | .error (.nextRound (count + 2)) => throw (.nextRound (count + 1))
  | .error (.nextRound _) => return (true, status)
  | .error halt => throw halt

/-- Goes through rounds while they say so; `last` is the status of the round before. A round that
does nothing leaves that status. -/
def repeatRounds (round : Act (Option Bool)) : (rounds : Nat) → (last : Nat) → Act Unit
  | 0, _ => throw .tooDeep
  | rounds + 1, last => fun state =>
    match inRound (do
      match ← round with
      | some goesOn => return goesOn
      | none => do
        Act.setStatus last
        return false) state with
    | (.ok (true, status), state) => repeatRounds round rounds status state
    | (.ok (false, _), state) => (.ok (), state)
    | (.error halt, state) => (.error halt, state)

def forEach (name : String) (body : Act Unit) : List String → Act Unit
  | [] => pure ()
  | value :: rest => fun state =>
    match inRound (do
      Act.setParameter name value
      body
      return true) state with
    | (.ok (true, _), state) => forEach name body rest state
    | (.ok (false, _), state) => (.ok (), state)
    | (.error halt, state) => (.error halt, state)

def roundBound : Nat := 10000000

def anyFits (inner : Inner) (text : String) : List Word → Act Bool
  | [] => return false
  | word :: rest => do
    if fits (← expandPattern inner word) text.toList then return true
    else anyFits inner text rest

def startJob (command : Command) : Act Unit := do
  let process ← Act.newProcess
  let frame ← Act.frame
  let job : Job := {
    process
    frame := { frame.within with
      process
      parents := frame.process :: frame.parents
      caught := []
      streams := frame.streams.set 0 .discard }
    command }
  Act.changeWorld fun world => { world with jobs := world.jobs ++ [job] }
  Act.changeFrame fun frame => { frame with lastJob := some process, status := 0 }

mutual

def evaluate (inner : Inner) : (tested : Bool) → Command → Act Unit
  | _, .nothing => pure ()
  | tested, .simple assignments words redirects => do
    if !(← Act.frame).has 'n' then runSimple inner tested assignments words redirects
    settle inner tested
  | tested, .redirected body redirects => do
    let streams := (← Act.frame).streams
    (show Act Unit from do
      if ← connectAll inner redirects then evaluate inner tested body
      else Act.setStatus 2).andThenFrame fun frame => { frame with streams }
    runTraps inner
  | tested, .subshell body redirects => do
    inSubshell inner do
      if ← connectAll inner redirects then evaluate inner tested body
      else Act.setStatus 2
    settle inner tested
  | _, .negated body => do
    evaluate inner true body
    Act.setStatus (if (← Act.frame).status = 0 then 1 else 0)
  | tested, .pipe left right => do
    let start := (← Act.frame).clock
    let text ← printedBy inner true (evaluate inner tested left)
    let finish := (← Act.frame).clock
    let number ← Act.newSource text.toList
    Act.changeFrame fun frame => { frame with clock := start }
    inSubshell inner do
      Act.changeFrame fun frame => { frame with streams := frame.streams.set 0 (.source number) }
      evaluate inner tested right
    Act.changeFrame fun frame => { frame with clock := max frame.clock finish }
    settle inner tested
  | tested, .both left right => do
    evaluate inner true left
    if (← Act.frame).status = 0 then evaluate inner tested right
  | tested, .either left right => do
    evaluate inner true left
    if (← Act.frame).status ≠ 0 then evaluate inner tested right
  | tested, .sequence left right => do
    evaluate inner tested left
    evaluate inner tested right
  | _, .background body => startJob body
  | tested, .conditional test yes no => do
    evaluate inner true test
    if (← Act.frame).status = 0 then evaluate inner tested yes
    else match no with
      | .nothing => Act.setStatus 0
      | no => evaluate inner tested no
  | tested, .loop whileHolds test body => do
    repeatRounds (do
      evaluate inner true test
      if ((← Act.frame).status = 0) = whileHolds then do
        evaluate inner tested body
        return some true
      else return none) roundBound 0
  | tested, .each name words body => do
    let values ← expandWords inner words
    if values.isEmpty then Act.setStatus 0
    forEach name (evaluate inner tested body) values
  | tested, .choice subject patterns body otherwise => do
    let text ← expandText inner false subject
    if ← anyFits inner text patterns then
      match body with
      | .nothing => Act.setStatus 0
      | body => evaluate inner tested body
    else evaluateChoice inner tested text otherwise
  | _, .function name body => do
    Act.changeFrame fun frame =>
      { frame with functions := frame.functions.set name body, status := 0 }

def evaluateChoice (inner : Inner) : (tested : Bool) → (text : String) → Command → Act Unit
  | tested, text, .choice _ patterns body otherwise => do
    if ← anyFits inner text patterns then
      match body with
      | .nothing => Act.setStatus 0
      | body => evaluate inner tested body
    else evaluateChoice inner tested text otherwise
  | _, _, _ => Act.setStatus 0

end

/-- Carries out a command; those that it leads to may do so `depth` times. -/
def perform : (depth : Nat) → (tested : Bool) → Command → Act Unit
  | 0, _, _ => throw .tooDeep
  | depth + 1, tested, command => evaluate ⟨perform depth⟩ tested command

def depthBound : Nat := 3000

/-- What a shell did with a command line, and how many milliseconds it took, or why it could not be
started. What jobs that outlast it print comes with how much later they do. -/
structure Result where
  printed : String
  files : Written
  ending : Except String Ending
  elapsed : Nat := 0
  late : List (Nat × String) := []

def signalText (number : Nat) : String :=
  "signal: " ++ Text.decimal number ++
    match signalName? number with
    | some name => " (SIG" ++ name ++ ")"
    | none => ""

/-- The words for a status, unless all went well. -/
def Ending.failure? : Ending → Option String
  | killed signal => some (signalText signal)
  | exited status =>
    if status % 256 = 0 then none else some ("exit status: " ++ Text.decimal (status % 256))

/-- What is there before the first shell starts: it has nothing to read, buffer 1 takes what it
prints, and buffer 2 its complaints. -/
def initialState (files : Written) : State where
  frame := {
    parameters := ⟨[("HOME", "/root"), ("PWD", "/work"), ("OLDPWD", "/work"),
      ("PATH", "/usr/local/sbin:/usr/local/bin:/usr/sbin:/usr/bin:/sbin:/bin")]⟩
    exported := ["HOME", "PWD", "OLDPWD", "PATH"]
    streams := ⟨[(0, .discard), (1, .buffer 1), (2, .buffer 2)]⟩ }
  world := { written := files }

def run (files : Written) (line : String) : Result :=
  if line.toList.contains '\x00' then
    { printed := "", files, ending := .error "nul byte found in provided data" }
  else
    let inner : Inner := ⟨perform depthBound⟩
    let act : Act (Ending × Nat) := do
      let ending ← startShell inner ["-c", String.ofList (octetsOf line)]
      let clock := (← Act.frame).clock
      runJobsSince inner 0 jobBound
      return (ending, clock)
    let (result, state) := act (initialState files)
    let (ending, elapsed) := match result with
      | .ok found => found
      | .error _ => (.killed 11, 0)
    let chunks := ((state.world.buffers.get? 1).getD {}).inOrder
    let (early, late) := chunks.partition (·.1 ≤ elapsed)
    { printed := textOfOctets (String.join (early.map (·.2)))
      files := state.world.written
      ending := .ok ending
      elapsed
      late := late.map fun (time, text) => (time - elapsed, textOfOctets text) }

end MacroScript.Shell
