import MacroScript.Shell.Expansion
import MacroScript.Shell.Launch

/-! Simple commands: assignments, redirections and words that name a function, a utility of the
shell or a program. -/

namespace MacroScript.Shell

/-- The arguments of a command. What a name is set to in the arguments of a command that sets
parameters is not divided. -/
def expandArguments (inner : Inner) (words : List Word) : Act (List String) := do
  match words with
  | [] => return []
  | first :: rest =>
    let names := words.map fun word => (bareWord? word).map String.ofList
    let names := names.dropWhile (· = some "command")
    let declares := match names.head? with
      | some (some name) => ["export", "readonly", "local"].contains name
      | _ => false
    if declares then do
      let parts ← (first :: rest).mapM fun word => do
        match assignment? word with
        | some (name, value) => return [name ++ "=" ++ (← expandText inner true value)]
        | none => expandWord inner word
      return parts.flatten
    else expandWords inner words

def trace (streams : Table Nat Stream) (words : List String) : Act Unit := do
  let frame ← Act.frame
  if frame.has 'x' then
    match streams.get? 2 with
    | some stream => do
      let mark := (frame.parameters.get? "PS4").getD "+ "
      let _ ← Act.writeStream stream (mark ++ spaced words ++ "\n")
    | none => pure ()

def callBound : Nat := 1000

def callFunction (inner : Inner) (tested : Bool) (body : Command) (arguments : List String) :
    Act Unit := do
  let before ← Act.frame
  if callBound ≤ before.calls then Act.fail "Maximum function recursion depth (1000) reached"
  Act.changeFrame fun frame =>
    { frame with positional := arguments, loops := 0, calls := frame.calls + 1 }
  let body := (Act.inScope (inner.command tested body)).andThenFrame fun frame =>
    { frame with
      positional := before.positional, loops := before.loops, calls := before.calls }
  let result ← body.outcome
  match result with
  | .error .leaveFunction => pure ()
  | .error halt => throw halt
  | .ok () => pure ()

/-- Says what a name stands for; `full` asks for a sentence. -/
def describe (full : Bool) (name : String) : Act Unit := do
  let frame ← Act.frame
  let tell (short long : String) : Act Unit := do
    let _ ← Act.write 1 ((if full then name ++ " is " ++ long else short) ++ "\n")
  if keywords.contains name then tell name "a shell keyword"
  else match frame.aliases.get? name with
    | some text => tell ("alias " ++ name ++ "=" ++ singleQuoted text) ("an alias for " ++ text)
    | none =>
      if specialNames.contains name then tell name "a special shell builtin"
      else if (frame.functions.get? name).isSome then tell name "a shell function"
      else if isUtility name then tell name "a shell builtin"
      else match findProgram frame (← Act.world).written name with
        | .program program =>
          let path := if name.toList.contains '/' then name else "/usr/bin/" ++ program
          tell path path
        | .script path => tell path path
        | _ => do
          if full then
            let _ ← Act.write 1 (name ++ ": not found\n")
          Act.setStatus 127

def waitFor (inner : Inner) (process : Nat) : Act Unit := do
  let find : Act (Option Job) := do
    return (← Act.world).jobs.find? fun job => job.process = process
  match ← find with
  | none => Act.setStatus 127
  | some job => do
    if job.outcome.isNone then runJob inner job
    match ← find with
    | some job =>
      Act.changeFrame fun frame =>
        { frame with clock := max frame.clock job.finish, status := job.outcome.getD 0 }
    | none => pure ()

def waitForAll (inner : Inner) (process : Nat) : Act Unit := do
  runJobsSince inner process jobBound
  let jobs := (← Act.world).jobs
  Act.changeFrame fun frame =>
    { frame with
      clock := jobs.foldl (fun clock job => max clock job.finish) frame.clock, status := 0 }

def waitJobs (inner : Inner) (arguments : List String) : Act Unit := do
  if arguments.isEmpty then waitForAll inner 0
  else arguments.forM fun argument => do waitFor inner (← processOf argument)

def runFile (inner : Inner) (arguments : List String) : Act Unit := do
  match arguments with
  | [] => Act.setStatus 0
  | path :: _ =>
    let frame ← Act.frame
    match (← Act.world).written.files.get? (resolve frame.directory path) with
    | some text =>
      if path.toList.contains '/' then
        match ← (runScript inner false text).outcome with
        | .error .leaveFunction => pure ()
        | .error halt => throw halt
        | .ok () => pure ()
      else Act.fail (path ++ ": not found")
    | none =>
      if path = "/dev/null" then Act.setStatus 0
      else if path = "/dev/stdin" then do
        runScript inner false (String.ofList (← Act.readAll 0))
      else if path.toList.contains '/' then Act.fail ("cannot open " ++ path ++ ": No such file")
      else Act.fail (path ++ ": not found")

def replaceShell (inner : Inner) (arguments : List String) : Act Unit := do
  match arguments with
  | [] => Act.setStatus 0
  | name :: rest => do
    runProgram inner name rest
    Act.changeFrame fun frame => { frame with traps := {} }
    throw (.exit (← Act.frame).status)

def runUtility (inner : Inner) (tested : Bool) (name : String) (arguments : List String) :
    Act Unit := do
  match name with
  | "eval" => runScript inner tested (spaced arguments)
  | "." => runFile inner arguments
  | "exec" => replaceShell inner arguments
  | "wait" => waitJobs inner arguments
  | "jobs" =>
    match arguments with
    | [] => Act.setStatus 0
    | argument :: _ =>
      if argument.startsWith "-" then Act.setStatus 0
      else Act.fail ("No such job: " ++ argument)
  | "type" => do
    Act.setStatus 0
    arguments.forM (describe true)
  | "hash" => do
    let (_, names) ← takeOptions ['r', 'v'] arguments
    Act.setStatus 0
    names.forM fun name => do
      match findProgram (← Act.frame) (← Act.world).written name with
      | .program _ => pure ()
      | .script _ => pure ()
      | _ => do
        if !isUtility name && ((← Act.frame).functions.get? name).isNone then
          Act.complain (name ++ ": not found")
          Act.setStatus 1
  | "command" => do
    let (options, names) ← takeOptions ['v', 'V', 'p'] arguments
    Act.setStatus 0
    match names with
    | [] => pure ()
    | name :: _ => describe (options.contains 'V') name
  | _ =>
    match utility? name with
    | some utility => utility arguments
    | none => Act.setStatus 127

/-- The words of a command without the one that asks for a utility or program of that name; also
says whether there was one. -/
def withoutCommand : List String → Bool × List String
  | "command" :: "-p" :: rest => (true, (withoutCommand rest).2)
  | "command" :: "--" :: rest => (true, (withoutCommand rest).2)
  | "command" :: rest =>
    match rest with
    | [] => (false, ["command"])
    | next :: _ =>
      if next.startsWith "-" then (false, "command" :: rest) else (true, (withoutCommand rest).2)
  | words => (false, words)

/-- Carries out a command with arguments; `plain` passes functions over and lets errors of a utility
be errors of that command only. -/
def invoke (inner : Inner) (tested plain : Bool) (name : String) (arguments : List String) :
    Act Unit := do
  let isSpecial := specialNames.contains name
  let frame ← Act.frame
  match (if plain || isSpecial then none else frame.functions.get? name) with
  | some body => callFunction inner tested body arguments
  | none =>
    if isUtility name then
      Act.changeFrame fun frame => { frame with label := name ++ ": " }
      match ← ((runUtility inner tested name arguments).andThenFrame
          fun after => { after with label := frame.label }).outcome with
      | .error .error => if isSpecial && !plain then throw .error else Act.setStatus 2
      | .error halt => throw halt
      | .ok () => pure ()
    else runProgram inner name arguments

/-- The values of assignments in order; each is made by `set` before the next is looked at. -/
def assignAll (inner : Inner) (set : String → String → Act Unit) :
    List (String × Word) → Act (List String)
  | [] => return []
  | (name, word) :: rest => do
    let value ← expandText inner true word
    set name value
    return (name ++ "=" ++ value) :: (← assignAll inner set rest)

/-- Carries out a simple command: its words are expanded, then streams are connected, then
parameters are set, for good if there is no command or a special one. -/
def runSimple (inner : Inner) (tested : Bool) (assignments : List (String × Word))
    (words : List Word) (redirects : List Redirect) : Act Unit := do
  Act.changeFrame fun frame => { frame with substituted := 0 }
  let (plain, arguments) := withoutCommand (← expandArguments inner words)
  let streams := (← Act.frame).streams
  let keepsStreams := arguments = ["exec"]
  let restored (act : Act Unit) : Act Unit :=
    if keepsStreams then act else act.andThenFrame fun frame => { frame with streams }
  restored do
    let isConnected ← connectAll inner redirects
    match arguments with
    | [] =>
      if isConnected then do
        let shown ← assignAll inner Act.setParameter assignments
        if !shown.isEmpty then trace streams shown
        Act.setStatus (← Act.frame).substituted
      else Act.setStatus 2
    | name :: rest =>
      let isSpecial := specialNames.contains name && !plain
      if !isConnected then do
        Act.setStatus 2
        if isSpecial then throw .error
      else if isSpecial then do
        let shown ← assignAll inner Act.setParameter assignments
        trace streams (shown ++ name :: rest)
        invoke inner tested plain name rest
      else if assignments.isEmpty then do
        trace streams (name :: rest)
        invoke inner tested plain name rest
      else Act.inScope do
        let shown ← assignAll inner (fun name value => do
          Act.saveParameter name
          Act.setParameter name value
          Act.exportName name) assignments
        trace streams (shown ++ name :: rest)
        invoke inner tested plain name rest

end MacroScript.Shell
