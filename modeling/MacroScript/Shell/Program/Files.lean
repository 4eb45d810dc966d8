import MacroScript.Shell.Program.Basic

/-! Programs that make, move, remove and list files, and those that take paths apart. -/

namespace MacroScript.Shell

def isBelow (path other : String) : Bool := other = path || other.startsWith (path ++ "/")

def removeFiles (arguments : List String) : Act Unit := do
  let (options, paths) := optionsAndOthers [] arguments
  let force := given options 'f'
  Act.setStatus 0
  if paths.isEmpty && !force then
    refuse "rm" 1 "missing operand\nTry 'rm --help' for more information."
  paths.forM fun path => do
    let written := (← Act.world).written
    let full := resolve (← Act.frame).directory path
    if written.isFile full then changeWritten fun written =>
      { written with files := written.files.erase full }
    else if written.isDirectory full then
      if given options 'r' || given options 'R' then changeWritten fun written =>
        { written with
          files := ⟨written.files.entries.filter fun (other, _) => !isBelow full other⟩
          directories := written.directories.filter fun other => !isBelow full other }
      else refuse "rm" 1 ("cannot remove '" ++ path ++ "': Is a directory")
    else if !force then
      refuse "rm" 1 ("cannot remove '" ++ path ++ "': No such file or directory")

def touch (paths : List String) : Act Unit := do
  Act.setStatus 0
  if paths.isEmpty then
    refuse "touch" 1 "missing file operand\nTry 'touch --help' for more information."
  paths.forM fun path => do
    let written := (← Act.world).written
    let full := resolve (← Act.frame).directory path
    if !written.exists? full then
      if written.isDirectory (parentOf full) then
        changeWritten fun written => { written with files := written.files.set full "" }
      else refuse "touch" 1 ("cannot touch '" ++ path ++ "': No such file or directory")

/-- Makes directories; under an option also those that they are in. -/
def makeDirectories (arguments : List String) : Act Unit := do
  let (options, paths) := optionsAndOthers ['m'] arguments
  Act.setStatus 0
  if paths.isEmpty then
    refuse "mkdir" 1 "missing operand\nTry 'mkdir --help' for more information."
  paths.forM fun path => do
    let written := (← Act.world).written
    let full := resolve (← Act.frame).directory path
    let add (paths : List String) : Act Unit :=
      changeWritten fun written => { written with directories := paths ++ written.directories }
    if given options 'p' then
      let parts := (Text.fields '/' full.toList).filter (· ≠ [])
      let above := (List.range parts.length).map fun i =>
        "/" ++ String.ofList (['/'].intercalate (parts.take (i + 1)))
      add (above.filter fun path => !written.isDirectory path)
    else if written.exists? full then
      refuse "mkdir" 1 ("cannot create directory '" ++ path ++ "': File exists")
    else if !written.isDirectory (parentOf full) then
      refuse "mkdir" 1 ("cannot create directory '" ++ path ++ "': No such file or directory")
    else add [full]

def removeDirectories (paths : List String) : Act Unit := do
  Act.setStatus 0
  paths.forM fun path => do
    let written := (← Act.world).written
    let full := resolve (← Act.frame).directory path
    let failed (reason : String) : Act Unit :=
      refuse "rmdir" 1 ("failed to remove '" ++ path ++ "': " ++ reason)
    if written.isFile full then failed "Not a directory"
    else if !written.isDirectory full then failed "No such file or directory"
    else if written.paths.any fun other => other ≠ full && isBelow full other then
      failed "Directory not empty"
    else changeWritten fun written =>
      { written with directories := written.directories.filter (· ≠ full) }

def copyFiles (name : String) (moves : Bool) (arguments : List String) : Act Unit := do
  let (_, paths) := optionsAndOthers [] arguments
  Act.setStatus 0
  match paths.reverse with
  | target :: source :: more => do
    let directory := (← Act.frame).directory
    (source :: more).reverse.forM fun path => do
      let written := (← Act.world).written
      let full := resolve directory path
      let place := resolve directory target
      let place := if written.isDirectory place then resolve place (lastPart full) else place
      match written.files.get? full with
      | none =>
        refuse name 1 ("cannot stat '" ++ path ++ "': No such file or directory")
      | some text =>
        if !written.isDirectory (parentOf place) then
          refuse name 1 ("cannot create regular file '" ++ target ++ "': No such file or directory")
        else changeWritten fun written => { written with
          files := (if moves then written.files.erase full else written.files).set place text }
  | [path] =>
    refuse name 1 ("missing destination file operand after '" ++ path ++ "'\nTry '" ++ name ++
      " --help' for more information.")
  | [] =>
    refuse name 1 ("missing file operand\nTry '" ++ name ++ " --help' for more information.")

def listedNames (written : Written) (directory : String) : List String :=
  sorted (Text.distinct ((written.paths.filter fun path => parentOf path = directory).map lastPart))

def listFiles (arguments : List String) : Act Unit := do
  let (options, paths) := optionsAndOthers [] arguments
  Act.setStatus 0
  let written := (← Act.world).written
  let directory := (← Act.frame).directory
  let paths := if paths.isEmpty then ["."] else paths
  let isThere (path : String) : Bool := written.exists? (resolve directory path)
  (paths.filter fun path => !isThere path).forM fun path =>
    refuse "ls" 2 ("cannot access '" ++ path ++ "': No such file or directory")
  let isPlain (path : String) : Bool :=
    given options 'd' || !written.isDirectory (resolve directory path)
  let there := sorted (paths.filter isThere)
  let names (path : String) : List String :=
    (listedNames written (resolve directory path)).filter fun name =>
      given options 'a' || given options 'A' || !name.startsWith "."
  let plain := there.filter isPlain
  let directories := there.filter fun path => !isPlain path
  let blocks := directories.map fun path =>
    (if 1 < paths.length then [path ++ ":"] else []) ++
      (if given options 'a' then [".", ".."] else []) ++ names path
  let blocks := (if plain.isEmpty then [] else [plain]) ++ blocks
  emit (("\n".intercalate (blocks.map fun lines => String.join (lines.map (· ++ "\n")))).toList)

def baseName (arguments : List String) : Act Unit :=
  match (optionsAndOthers [] arguments).2 with
  | path :: rest =>
    let name := if path ≠ "" && path.toList.all (· = '/') then "/" else lastPart path
    let ending := rest.headD ""
    let name := if ending ≠ "" && name.endsWith ending && name ≠ ending then
      String.ofList (name.toList.take (name.length - ending.length)) else name
    succeed (name.toList ++ ['\n'])
  | [] => refuse "basename" 1 "missing operand\nTry 'basename --help' for more information."

def directoryName (arguments : List String) : Act Unit :=
  match arguments with
  | path :: _ =>
    let parts := (Text.fields '/' path.toList).filter (· ≠ [])
    let root := if path.startsWith "/" then "/" else ""
    let text := root ++ String.ofList (['/'].intercalate parts.dropLast)
    succeed ((if text = "" then "." else text).toList ++ ['\n'])
  | [] => refuse "dirname" 1 "missing operand\nTry 'dirname --help' for more information."

def wholePaths (arguments : List String) : Act Unit := do
  let (_, paths) := optionsAndOthers [] arguments
  let directory := (← Act.frame).directory
  succeed (ofLines (paths.map fun path => (resolve directory path).toList))

def changeMode (arguments : List String) : Act Unit := do
  match arguments with
  | mode :: paths => do
    Act.setStatus 0
    let sets := mode.toList.contains 'x' && !mode.toList.contains '-' ||
      mode.toList.any fun c => c = '7' || c = '5' || c = '1'
    paths.forM fun path => do
      let full := resolve (← Act.frame).directory path
      if !(← Act.world).written.exists? full then
        refuse "chmod" 1 ("cannot access '" ++ path ++ "': No such file or directory")
      else changeWritten fun written => { written with
        runnable := if sets then full :: written.runnable else written.runnable.filter (· ≠ full) }
  | [] => refuse "chmod" 1 "missing operand\nTry 'chmod --help' for more information."

def locate (names : List String) : Act Unit := do
  Act.setStatus 0
  names.forM fun name => do
    if programNames.contains name then emit ("/usr/bin/" ++ name ++ "\n").toList
    else Act.setStatus 1

end MacroScript.Shell
