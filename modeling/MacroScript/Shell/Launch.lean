import MacroScript.Shell.Program

/-! Programs and further shells, found by name and started. -/

namespace MacroScript.Shell

/-- Does something that a program does: only time, the world and a status come of it. -/
def asProgram (inner : Inner) (act : Act Unit) : Act Unit := do
  let ending ← inProcess inner (fun _ frame => { frame.within with label := "", options := [] }) act
  Act.setStatus ending.status
  announce ending
  receiveAll

structure ShellStart where
  options : List Char := []
  hasScript : Bool := false
  readsInput : Bool := false
  arguments : List String := []

/-- Reads the arguments of a shell that is started; fails at an option that is not known. -/
def ShellStart.read : (steps : Nat) → ShellStart → List String → Except Char ShellStart
  | 0, start, arguments => .ok { start with arguments }
  | _ + 1, start, [] => .ok start
  | steps + 1, start, argument :: rest =>
    match argument.toList with
    | ['-', '-'] => .ok { start with arguments := rest }
    | ['-'] => .ok { start with arguments := rest }
    | ['+'] => .ok { start with arguments := rest }
    | sign :: c :: cs =>
      if sign = '-' || sign = '+' then
        match (c :: cs).find? fun c => !("co".toList ++ optionNames.map (·.2)).contains c with
        | some c => .error c
        | none =>
          let letters := (c :: cs).filter fun c => c ≠ 'c' && c ≠ 'o'
          let (named, rest) := if (c :: cs).contains 'o' then
              ((rest.head?.bind fun name => optionNames.lookup name).toList, rest.drop 1)
            else ([], rest)
          let options := if sign = '-' then letters ++ named ++ start.options
            else start.options.filter fun c => !(letters ++ named).contains c
          ShellStart.read steps { start with
            options
            hasScript := start.hasScript || (c :: cs).contains 'c'
            readsInput := start.readsInput || (c :: cs).contains 's' } rest
      else .ok { start with arguments := argument :: rest }
    | _ => .ok { start with arguments := argument :: rest }

/-- The frame of a shell that is started as a program: it has the parameters for programs. -/
def freshFrame (options : List Char) (title : String) (positional : List String) (process : Nat)
    (frame : Frame) : Frame :=
  { parameters := ⟨frame.environment ++ [("IFS", " \t\n"), ("OPTIND", "1"),
      ("PS1", "# "), ("PS2", "> "),
      ("PS4", "+ "), ("PPID", Text.decimal frame.process)]⟩
    exported := frame.exported
    positional
    title
    options
    traps := frame.within.traps
    directory := frame.directory
    streams := frame.streams
    shellProcess := process
    parents := frame.parents
    process := frame.process
    clock := frame.clock
    mask := frame.mask }

def startShell (inner : Inner) (arguments : List String) : Act Ending := do
  let refused (reason : String) : Act Ending := do
    Act.warn ("sh: 0: " ++ reason)
    return .exited 2
  match ShellStart.read (arguments.length + 1) {} arguments with
  | .error letter => refused ("Illegal option -" ++ String.singleton letter)
  | .ok start =>
    let go (title : String) (positional : List String) (script : Act String) : Act Ending :=
      inProcess inner (freshFrame start.options title positional) do
        runScript inner false (← script)
    match start.hasScript, start.arguments with
    | true, [] => refused "-c requires an argument"
    | true, script :: rest => go (rest.headD "sh") (rest.drop 1) (pure script)
    | false, arguments =>
      match start.readsInput, arguments with
      | false, path :: rest => do
        let written := (← Act.world).written
        match written.files.get? (resolve (← Act.frame).directory path) with
        | some text => go path rest (pure text)
        | none => refused ("cannot open " ++ path ++ ": No such file")
      | _, positional => go "sh" positional do return String.ofList (← Act.readAll 0)

/-- The directories in which programs are looked for. -/
def searchPath (frame : Frame) : List String :=
  match frame.parameters.get? "PATH" with
  | some path => (Text.fields ':' path.toList).map String.ofList
  | none => []

/-- The directories in which programs look for others when nothing else is said. -/
def usualPath : String := "/bin:/usr/bin"

/-- What a name of a program leads to: a program, a script, something that cannot be run, or
nothing. -/
inductive Found where
  | program (name : String)
  | script (path : String)
  | forbidden
  | missing

def foundAt (written : Written) (path : String) : Found :=
  match programAt? path with
  | some name => .program name
  | none =>
    if written.isFile path then
      (if written.runnable.contains path then .script path else .forbidden)
    else if written.exists? path then .forbidden
    else .missing

/-- What a name leads to, which may be a path. -/
def findProgram (frame : Frame) (written : Written) (name : String) : Found :=
  if name.toList.contains '/' then foundAt written (resolve frame.directory name)
  else
    let paths := (searchPath frame).map fun directory =>
      resolve frame.directory (directory ++ "/" ++ name)
    let isReal : Found → Bool
      | .program _ => true
      | .script _ => true
      | _ => false
    ((paths.map (foundAt written)).find? isReal).getD .missing

def takeSettings : List String → Act (List String)
  | [] => return []
  | word :: rest =>
    match Text.cut? '=' word.toList with
    | some (name, value) =>
      if isName name then do
        Act.setParameter (String.ofList name) (String.ofList value)
        Act.exportName (String.ofList name)
        takeSettings rest
      else return word :: rest
    | none => return word :: rest

def shellMarks : List Char :=
  ['$', '\x60', ';', '&', '|', '(', ')', '<', '>', '#', '*', '?', '[']

/-- The words of the input of a program that takes its arguments from there; quotes and backslashes
keep blanks in a word. -/
def inputWords (text : List Char) : List String :=
  let tokens := scan (text.flatMap fun c => if shellMarks.contains c then ['\\', c] else [c])
  tokens.filterMap fun
    | .word pieces => some (String.ofList (pieces.flatMap fun
        | .text chars _ => chars
        | _ => []))
    | _ => none

def inGroups (size : Nat) : (steps : Nat) → List String → List (List String)
  | 0, _ => []
  | _ + 1, [] => []
  | steps + 1, words => words.take size :: inGroups size steps (words.drop size)

/-- Starts a program that is known by name. The programs that start others do so one level deeper at
most `depth` times. -/
def startProgram (inner : Inner) : (depth : Nat) → (name : String) → List String → Act Unit
  | 0, _, _ => throw .tooDeep
  | depth + 1, name, arguments => do
    let launch (words : List String) : Act Unit := do
      match words with
      | [] => Act.setStatus 0
      | word :: rest =>
        let frame ← Act.frame
        let path := (frame.parameters.get? "PATH").getD usualPath
        let looking := { frame with parameters := frame.parameters.set "PATH" path }
        match findProgram looking (← Act.world).written word with
        | .program program => startProgram inner depth program rest
        | .script path => do
          let ending ← startShell inner (path :: rest)
          Act.setStatus ending.status
        | .forbidden => refuse name 126 ("'" ++ word ++ "': Permission denied")
        | .missing => refuse name 127 ("'" ++ word ++ "': No such file or directory")
    match name with
    | "sh" => do
      let ending ← startShell inner arguments
      Act.setStatus ending.status
      announce ending
      receiveAll
    | "env" => asProgram inner do
      let arguments ← match arguments with
        | "-i" :: rest => do
          Act.changeFrame fun frame => { frame with parameters := {}, exported := [] }
          pure rest
        | "-u" :: name :: rest => do
          Act.changeFrame fun frame => { frame with exported := frame.exported.filter (· ≠ name) }
          pure rest
        | rest => pure rest
      match ← takeSettings arguments with
      | [] => printEnvironment []
      | words => launch words
    | "nohup" => asProgram inner (launch arguments)
    | "timeout" => asProgram inner do
      let start := (← Act.frame).clock
      launch (arguments.drop 1)
      match arguments.head?.bind milliseconds? with
      | some limit =>
        if start + limit < (← Act.frame).clock then
          Act.changeFrame fun frame => { frame with clock := start + limit, status := 124 }
      | none => Act.setStatus 125
    | "xargs" => asProgram inner do
      let (option, value, words) := match arguments.map String.toList with
        | ['-', c] :: value :: rest => (c, value, rest.map String.ofList)
        | ('-' :: c :: value) :: rest => (c, value, rest.map String.ofList)
        | _ => (' ', [], arguments)
      let words := if words.isEmpty then ["echo"] else words
      let text ← Act.readAll 0
      if option = 'I' then
        (linesOf text).forM fun line =>
          launch (words.map fun word => String.ofList (Text.replaceAll value line word.toList))
      else
        let items := inputWords text
        let size := if option = 'n' then (Text.digits? value).getD 1 else items.length
        let groups := if items.isEmpty then [[]] else inGroups (max size 1) items.length items
        groups.forM fun group => launch (words ++ group)
        if 0 < (← Act.frame).status && (← Act.frame).status < 126 then Act.setStatus 123
    | _ =>
      match program? name with
      | some program => asProgram inner (program arguments)
      | none => Act.setStatus 127

def programDepth : Nat := 20

def runProgram (inner : Inner) (name : String) (arguments : List String) : Act Unit := do
  match findProgram (← Act.frame) (← Act.world).written name with
  | .program program => startProgram inner programDepth program arguments
  | .script _ => do
    let ending ← startShell inner (name :: arguments)
    Act.setStatus ending.status
    announce ending
  | .forbidden => do
    Act.complain (name ++ ": Permission denied")
    Act.setStatus 126
  | .missing => do
    let isPlace := ["", ".", ".."].contains name
    Act.complain (name ++ (if isPlace then ": Permission denied" else ": not found"))
    Act.setStatus 127

end MacroScript.Shell
