import MacroScript.Shell.Condition
import MacroScript.Shell.Field
import MacroScript.Shell.Format
import MacroScript.Shell.Process

/-! The utilities of a shell that need no other commands: each takes its arguments and leaves a
status. -/

namespace MacroScript.Shell

def spaced (arguments : List String) : String := String.intercalate " " arguments

def singleQuoted (text : String) : String :=
  let parts := (Text.fields '\x27' text.toList).map fun part => "'" ++ String.ofList part ++ "'"
  String.intercalate "\"'\"" parts

/-- The letters of the options before the arguments, and the arguments. Options end at two dashes or
at the first argument that is none. -/
def takeOptions (known : List Char) : List String → Act (List Char × List String)
  | [] => return ([], [])
  | argument :: rest =>
    match argument.toList with
    | ['-', '-'] => return ([], rest)
    | '-' :: c :: cs => do
      match (c :: cs).find? fun c => !known.contains c with
      | some c => Act.fail ("Illegal option -" ++ String.singleton c)
      | none =>
        let (letters, rest) ← takeOptions known rest
        return (c :: cs ++ letters, rest)
    | _ => return ([], argument :: rest)

/-- Prints its arguments, with escapes replaced, on a line of their own unless told not to
end it. -/
def echo (arguments : List String) : Act Unit :=
  let (newline, arguments) := match arguments with
    | "-n" :: rest => (false, rest)
    | _ => (true, arguments)
  let (text, cut) := unescaped (spaced arguments).toList
  Act.print (String.ofList (if newline && !cut then text ++ ['\n'] else text)) 0

def printf (arguments : List String) : Act Unit := do
  match (← takeOptions [] arguments).2 with
  | [] => Act.fail "usage: printf format [arg ...]"
  | format :: arguments =>
    let (filling, ending) :=
      fillRepeatedly format.toList (arguments.length + 1) { arguments }
    filling.complaints.forM Act.complain
    let status ← match ending with
      | .failed reason => do
        Act.complain reason
        pure 2
      | _ => pure (if filling.complaints.isEmpty then 0 else 1)
    Act.print (String.ofList filling.printed.reverse) status

def testCondition (words : List String) : Act Unit := do
  let surroundings : Surroundings :=
    ⟨(← Act.world).written, (← Act.frame).directory, fun path => (programAt? path).isSome⟩
  match judge surroundings 4 words with
  | .ok holds => Act.setStatus (if holds then 0 else 1)
  | .error reason => Act.fail reason

/-- Sends a signal to a process: to the shell at work, to one that waits for it, or to a job. -/
def sendSignal (signal process : Nat) : Act Unit := do
  let frame ← Act.frame
  Act.setStatus 0
  if process = frame.process then receive signal
  else if frame.parents.contains process then
    Act.changeWorld fun world => { world with signals := world.signals ++ [(process, signal)] }
  else
    match (← Act.world).jobs.find? fun job => job.process = process && job.outcome.isNone with
    | some job =>
      let ends := !harmlessSignals.contains signal && !(job.frame.traps.get? signal = some "")
      Act.changeWorld fun world => { world with
        jobs := world.jobs.map fun other =>
          if other.process = process && ends then { other with signal := some signal } else other }
    | none => do
      Act.complain "No such process\n"
      Act.setStatus 1

def processOf (argument : String) : Act Nat := do
  match argument.toList with
  | '%' :: rest =>
    let jobs := (← Act.world).jobs
    let place := if rest = [] || rest = ['%'] || rest = ['+'] then some jobs.length
      else Text.digits? rest
    match place.bind fun n => if n = 0 then none else jobs[n - 1]? with
    | some job => return job.process
    | none => Act.fail ("No such job: " ++ argument)
  | digits =>
    match integer? digits with
    | some n => return n.toNat
    | none => Act.fail ("Illegal number: " ++ argument)

def sendAll (signal : Nat) (arguments : List String) : Act Unit := do
  if arguments.isEmpty then
    Act.fail ("Usage: kill [-s sigspec | -signum | -sigspec] [pid | job]... or\n" ++
      "kill -l [exitstatus]")
  arguments.forM fun argument => do sendSignal signal (← processOf argument)

/-- Sends the signal that its options name, or the one that asks a process to end; or
lists signals. -/
def kill (arguments : List String) : Act Unit := do
  match arguments with
  | "-l" :: [] =>
    Act.print (String.join ("0\n" :: signals.map fun (_, name, _) => name ++ "\n")) 0
  | "-l" :: argument :: _ =>
    match (Text.digits? argument.toList).map fun n => if 128 < n then n - 128 else n with
    | some n => Act.print ((signalName? n).getD (Text.decimal n) ++ "\n") 0
    | none => Act.fail ("Illegal number: " ++ argument)
  | "-s" :: name :: rest =>
    match signalNumber? name with
    | some signal => sendAll signal rest
    | none => Act.fail ("invalid signal number or name: " ++ name)
  | "--" :: rest => sendAll 15 rest
  | option :: rest =>
    match option.toList with
    | '-' :: c :: cs =>
      match signalNumber? (String.ofList (c :: cs)) with
      | some signal => sendAll signal (if rest.head? = some "--" then rest.tail else rest)
      | none => Act.fail ("Illegal option -" ++ String.singleton c)
    | _ => sendAll 15 arguments
  | [] => sendAll 15 []

/-- The line at the start of a text and what follows it, and whether the line has an end. Unless
`raw` holds, a backslash quotes the next character, and joins a line with the next one. -/
def takeLine (raw : Bool) : (steps : Nat) → List Char → List Atom × List Char × Bool
  | 0, text => ([], text, false)
  | _ + 1, [] => ([], [], false)
  | steps + 1, c :: rest =>
    let add (atoms : List Atom) (result : List Atom × List Char × Bool) :
        List Atom × List Char × Bool :=
      (atoms ++ result.1, result.2)
    if c = '\n' then ([], rest, true)
    else if c = '\x00' then takeLine raw steps rest
    else if c = '\\' && !raw then
      match rest with
      | '\n' :: rest => takeLine raw steps rest
      | c :: rest => add [.glyph ⟨c, true⟩ false] (takeLine raw steps rest)
      | [] => ([], [], false)
    else add [.glyph ⟨c, false⟩ true] (takeLine raw steps rest)

def lineBound : Nat := 1000000

/-- Takes one line out of the input and divides it among parameters, the last of which gets the
rest. -/
def readParameters (arguments : List String) : Act Unit := do
  let (options, names) ← optionsOf arguments
  if names.isEmpty then Act.fail "arg count"
  match names.find? fun name => !isName name.toList with
  | some name => Act.fail (name ++ ": bad variable name")
  | none =>
    let text ← Act.remaining 0
    let (line, rest, complete) := takeLine (options.contains 'r') lineBound text
    Act.setRemaining 0 rest
    let separators := (← Act.frame).separators
    (names.zip (distribute separators names.length line)).forM fun (name, value) =>
      Act.setParameter name value
    Act.setStatus (if complete then 0 else 1)
where
  /-- The options and the names; the option for a prompt has a value. -/
  optionsOf (arguments : List String) : Act (List Char × List String) := do
    match arguments with
    | "-p" :: _ :: rest => takeOptions ['r', 'p'] rest
    | "-r" :: "-p" :: _ :: rest => do
      let (letters, rest) ← takeOptions ['r', 'p'] rest
      return ('r' :: letters, rest)
    | _ => takeOptions ['r', 'p'] arguments

/-- The number that an argument is; it is not negative and fits 32 bits. -/
def numberOf (argument : String) : Act Nat :=
  match (integer? argument.toList).filter fun n => 0 ≤ n && n < 2147483648 with
  | some n => pure n.toNat
  | none => Act.fail ("Illegal number: " ++ argument)

def exitShell (arguments : List String) : Act Unit := do
  match arguments with
  | [] => throw (.exit (← Act.frame).status)
  | argument :: _ => do
    let status ← numberOf argument
    throw (.exit (status % 256))

/-- Leaves the function around the command with the status given, or with that of the
last command. -/
def leaveFunction (arguments : List String) : Act Unit := do
  match arguments with
  | [] => pure ()
  | argument :: _ => Act.setStatus (← numberOf argument)
  throw .leaveFunction

def endRounds (how : Nat → Halt) (arguments : List String) : Act Unit := do
  let count ← match arguments with
    | [] => pure 1
    | argument :: _ => numberOf argument
  if count = 0 then Act.fail ("Illegal number: " ++ arguments.headD "")
  Act.setStatus 0
  let loops := (← Act.frame).loops
  if loops ≠ 0 then throw (how (min count loops))

def declared (argument : String) : Act String := do
  let (name, value) := match Text.cut? '=' argument.toList with
    | some (name, value) => (name, some (String.ofList value))
    | none => (argument.toList, none)
  if !isName name then Act.fail (String.ofList name ++ ": bad variable name")
  match value with
  | some value => Act.setParameter (String.ofList name) value
  | none => pure ()
  return String.ofList name

def printParameters (word : String) (names : List String) : Act Unit := do
  let frame ← Act.frame
  let line (name : String) : String :=
    word ++ name ++ (match frame.parameters.get? name with
      | some value => "=" ++ singleQuoted value
      | none => "") ++ "\n"
  Act.print (String.join ((sorted (Text.distinct names)).map line)) 0

def exportParameters (arguments : List String) : Act Unit := do
  let (options, arguments) ← takeOptions ['p'] arguments
  if arguments.isEmpty || options.contains 'p' then
    printParameters "export " (← Act.frame).exported
  else do
    arguments.forM fun argument => do Act.exportName (← declared argument)
    Act.setStatus 0

/-- Lets parameters never change again. -/
def fixParameters (arguments : List String) : Act Unit := do
  let (options, arguments) ← takeOptions ['p'] arguments
  if arguments.isEmpty || options.contains 'p' then
    printParameters "readonly " (← Act.frame).fixed
  else do
    arguments.forM fun argument => do
      let name ← declared argument
      Act.changeFrame fun frame => { frame with fixed := name :: frame.fixed }
    Act.setStatus 0

/-- Lets parameters be as they were when the function around the command ends. -/
def localParameters (arguments : List String) : Act Unit := do
  if (← Act.frame).calls = 0 then Act.fail "not in a function"
  arguments.forM fun argument => do
    Act.saveParameter (String.ofList (argument.toList.takeWhile (· ≠ '=')))
    let _ ← declared argument
  Act.setStatus 0

def unsetNames (arguments : List String) : Act Unit := do
  let (options, names) ← takeOptions ['f', 'v'] arguments
  names.forM fun name => do
    if options.contains 'f' then
      Act.changeFrame fun frame => { frame with functions := frame.functions.erase name }
    else do
      if !isName name.toList then Act.fail (name ++ ": bad variable name")
      if (← Act.frame).fixed.contains name then Act.fail (name ++ ": is read only")
      Act.changeFrame fun frame => { frame with
        parameters := frame.parameters.erase name
        exported := frame.exported.filter (· ≠ name) }
  Act.setStatus 0

def changeDirectory (arguments : List String) : Act Unit := do
  let (_, arguments) ← takeOptions ['L', 'P'] arguments
  let frame ← Act.frame
  let target := match arguments with
    | [] => (frame.parameters.get? "HOME").getD ""
    | "-" :: _ => (frame.parameters.get? "OLDPWD").getD frame.directory
    | target :: _ => target
  let path := resolve frame.directory target
  if target ≠ "" && !(← Act.world).written.isDirectory path then Act.fail ("can't cd to " ++ target)
  Act.setParameter "OLDPWD" frame.directory
  Act.setParameter "PWD" path
  Act.changeFrame fun frame => { frame with directory := path, status := 0 }
  if arguments.head? = some "-" then Act.print (path ++ "\n") 0

def setOption (value : Bool) (letter : Char) : Act Unit :=
  Act.changeFrame fun frame => { frame with
    options := if value then letter :: frame.options.filter (· ≠ letter)
      else frame.options.filter (· ≠ letter) }

def printOptions (value : Bool) : Act Unit := do
  let frame ← Act.frame
  let shown (name : String) (letter : Char) : String :=
    if value then
      name ++ String.ofList (List.replicate (16 - name.length) ' ') ++
        (if frame.has letter then "on" else "off") ++ "\n"
    else "set " ++ (if frame.has letter then "-" else "+") ++ "o " ++ name ++ "\n"
  let lines := optionNames.map fun (name, letter) => shown name letter
  Act.print ((if value then "Current option settings\n" else "") ++ String.join lines) 0

def setLetters (value : Bool) (letters : List Char) : Act Unit :=
  letters.forM fun letter => do
    if letter.isAlpha && (optionNames.map (·.2)).contains letter then setOption value letter
    else Act.fail ("Illegal option " ++ (if value then "-" else "+") ++ String.singleton letter)

def setNamed (value : Bool) (name : String) : Act Unit :=
  match optionNames.lookup name with
  | some letter => setOption value letter
  | none => Act.fail ("Illegal option " ++ (if value then "-" else "+") ++ "o " ++ name)

/-- Sets options, and gives the arguments that follow them, if there are any or they are said to
follow. -/
def applyOptions : (steps : Nat) → List String → Act (Option (List String))
  | 0, _ => return none
  | _ + 1, [] => return none
  | steps + 1, argument :: rest =>
    match argument.toList with
    | ['-', '-'] => return some rest
    | ['-'] => do
      setOption false 'x'
      setOption false 'v'
      return if rest.isEmpty then none else some rest
    | sign :: letters =>
      if (sign = '-' || sign = '+') && !letters.isEmpty then do
        let value : Bool := sign = '-'
        setLetters value (letters.filter (· ≠ 'o'))
        if letters.contains 'o' then
          match rest with
          | name :: rest => do
            setNamed value name
            applyOptions steps rest
          | [] => do
            printOptions value
            return none
        else applyOptions steps rest
      else return some (argument :: rest)
    | [] => return some (argument :: rest)

def setAll (arguments : List String) : Act Unit := do
  Act.setStatus 0
  if arguments.isEmpty then printParameters "" ((← Act.frame).parameters.entries.map (·.1))
  else
    match ← applyOptions (arguments.length + 1) arguments with
    | some positional => Act.changeFrame fun frame => { frame with positional }
    | none => pure ()

def shiftPositional (arguments : List String) : Act Unit := do
  let count ← numberOf (arguments.headD "1")
  if (← Act.frame).positional.length < count then Act.fail "can't shift that many"
  Act.changeFrame fun frame =>
    { frame with positional := frame.positional.drop count, status := 0 }

def printTraps : Act Unit := do
  let frame ← Act.frame
  let line (number : Nat) : Option String :=
    (frame.traps.get? number).map fun action =>
      "trap -- " ++ singleQuoted action ++ " " ++
        (if number = 0 then "EXIT" else (signalName? number).getD (Text.decimal number)) ++ "\n"
  Act.print (String.join ((List.range 65).filterMap line)) 0

/-- Sets what is done when signals come, or when the shell ends. -/
def setTraps (arguments : List String) : Act Unit := do
  match (← takeOptions [] arguments).2 with
  | [] => printTraps
  | [name] => each none [name]
  | action :: names => each (if action = "-" then none else some action) names
where
  /-- Sets an action for each of some signals, until one is not known. -/
  each (action : Option String) : List String → Act Unit
    | [] => Act.setStatus 0
    | name :: rest =>
      match signalNumber? name with
      | none => do
        Act.warn ("trap: " ++ name ++ ": bad trap")
        Act.setStatus 1
      | some number => do
        Act.changeFrame fun frame => { frame with
          traps := match action with
            | some action => frame.traps.set number action
            | none => frame.traps.erase number }
        each action rest

def setAliases (arguments : List String) : Act Unit := do
  let line (name value : String) : String := name ++ "=" ++ singleQuoted value ++ "\n"
  Act.setStatus 0
  if arguments.isEmpty then
    Act.print
      (String.join ((← Act.frame).aliases.entries.map fun (name, value) => line name value)) 0
  else arguments.forM fun argument => do
    match Text.cut? '=' argument.toList with
    | some (name, value) =>
      Act.changeFrame fun frame =>
        { frame with aliases := frame.aliases.set (String.ofList name) (String.ofList value) }
    | none =>
      match (← Act.frame).aliases.get? argument with
      | some value => do
        let _ ← Act.write 1 (line argument value)
      | none => do
        Act.warn ("alias: " ++ argument ++ " not found")
        Act.setStatus 1

def unsetAliases (arguments : List String) : Act Unit := do
  let (options, names) ← takeOptions ['a'] arguments
  Act.setStatus 0
  if options.contains 'a' then Act.changeFrame fun frame => { frame with aliases := {} }
  else names.forM fun name => do
    if ((← Act.frame).aliases.get? name).isNone then
      Act.warn ("unalias: " ++ name ++ " not found")
      Act.setStatus 1
    Act.changeFrame fun frame => { frame with aliases := frame.aliases.erase name }

def maskText (mask : Nat) : String :=
  let rights (name : String) (taken : Nat) : String :=
    name ++ "=" ++ (if taken / 4 % 2 = 0 then "r" else "") ++
      (if taken / 2 % 2 = 0 then "w" else "") ++
      (if taken % 2 = 0 then "x" else "")
  rights "u" (mask / 64 % 8) ++ "," ++ rights "g" (mask / 8 % 8) ++ "," ++ rights "o" (mask % 8)

/-- Shows or sets the rights that new files do not have. -/
def fileMask (arguments : List String) : Act Unit := do
  let (options, arguments) ← takeOptions ['S'] arguments
  let mask := (← Act.frame).mask
  match arguments with
  | [] =>
    let digits := String.ofList (Nat.toDigits 8 mask)
    let padded := String.ofList (List.replicate (4 - digits.length) '0') ++ digits
    Act.print ((if options.contains 'S' then maskText mask else padded) ++ "\n") 0
  | argument :: _ =>
    if argument.toList.head?.any Char.isDigit then
      match leadingDigits 8 0 0 argument.toList with
      | (value, _, []) => Act.changeFrame fun frame =>
        { frame with mask := value % 512, status := 0 }
      | _ => Act.fail ("Illegal number: " ++ argument)
    else Act.setStatus 0

def describes (letter : Char) : List Char → Option Bool
  | [] => none
  | c :: rest =>
    if c = letter && c ≠ ':' then some (rest.head? = some ':') else describes letter rest

def nextOption (arguments : List String) : Act Unit := do
  match arguments with
  | description :: name :: given =>
    let frame ← Act.frame
    let words := if given.isEmpty then frame.positional else given
    let index := ((frame.parameters.get? "OPTIND").bind fun n => Text.digits? n.toList).getD 1
    let quiet := description.startsWith ":"
    let finish (index place : Nat) (option : String) (value : Option String) (status : Nat) :
        Act Unit := do
      Act.setParameter "OPTIND" (Text.decimal index)
      match value with
      | some value => Act.setParameter "OPTARG" value
      | none => Act.changeFrame fun frame =>
          { frame with parameters := frame.parameters.erase "OPTARG" }
      Act.setParameter name option
      Act.changeFrame fun frame => { frame with optionPlace := place, status }
    match words[index - 1]?.map String.toList with
    | none => finish index 0 "?" none 1
    | some word =>
      let place := if frame.optionPlace = 0 then 1 else frame.optionPlace
      if frame.optionPlace = 0 && (word.head? ≠ some '-' || word = ['-']) then
        finish index 0 "?" none 1
      else if frame.optionPlace = 0 && word = ['-', '-'] then finish (index + 1) 0 "?" none 1
      else
        let letter := (word.drop place).headD '?'
        let rest := word.drop (place + 1)
        let (index', place') := if rest.isEmpty then (index + 1, 0) else (index, place + 1)
        match describes letter description.toList with
        | none =>
          if quiet then finish index' place' "?" (some (String.singleton letter)) 0
          else do
            Act.warn ("Illegal option -" ++ String.singleton letter)
            finish index' place' "?" none 0
        | some false => finish index' place' (String.singleton letter) none 0
        | some true =>
          if !rest.isEmpty then
            finish (index + 1) 0 (String.singleton letter) (some (String.ofList rest)) 0
          else match words[index]? with
            | some value => finish (index + 2) 0 (String.singleton letter) (some value) 0
            | none =>
              if quiet then finish (index + 1) 0 ":" (some (String.singleton letter)) 0
              else do
                Act.warn ("No arg for -" ++ String.singleton letter ++ " option")
                finish (index + 1) 0 "?" none 0
  | _ => Act.fail "Usage: getopts optstring var [arg...]"

def utility? (name : String) : Option (List String → Act Unit) :=
  match name with
  | ":" => some fun _ => Act.setStatus 0
  | "true" => some fun _ => Act.setStatus 0
  | "false" => some fun _ => Act.setStatus 1
  | "echo" => some echo
  | "printf" => some printf
  | "test" => some testCondition
  | "[" => some fun arguments =>
    if arguments.getLast?.any (·.startsWith "]") then testCondition arguments.dropLast
    else Act.fail "missing ]"
  | "kill" => some kill
  | "read" => some readParameters
  | "exit" => some exitShell
  | "return" => some leaveFunction
  | "break" => some (endRounds .leaveLoops)
  | "continue" => some (endRounds .nextRound)
  | "export" => some exportParameters
  | "readonly" => some fixParameters
  | "local" => some localParameters
  | "unset" => some unsetNames
  | "cd" => some changeDirectory
  | "chdir" => some changeDirectory
  | "pwd" => some fun _ => do Act.print ((← Act.frame).directory ++ "\n") 0
  | "set" => some setAll
  | "shift" => some shiftPositional
  | "trap" => some setTraps
  | "alias" => some setAliases
  | "unalias" => some unsetAliases
  | "umask" => some fileMask
  | "getopts" => some nextOption
  | "ulimit" => some fun arguments =>
    if arguments.length ≤ 1 then Act.print "unlimited\n" 0 else Act.setStatus 0
  | "times" => some fun _ => Act.print "0m0.000000s 0m0.000000s\n0m0.000000s 0m0.000000s\n" 0
  | "fg" => some fun _ => Act.fail "No current job"
  | "bg" => some fun _ => Act.fail "No current job"
  | _ => none

def commandUtilities : List String :=
  ["command", "eval", "exec", ".", "wait", "jobs", "type", "hash"]

def isUtility (name : String) : Bool := (utility? name).isSome || commandUtilities.contains name

end MacroScript.Shell
