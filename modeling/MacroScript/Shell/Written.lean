import MacroScript.Table
import MacroScript.Text.Scan

/-! The files and directories that commands have made, beside those that every system has, and the
names that lead to them. -/

namespace MacroScript.Shell

structure Written where
  files : Table String String := {}
  directories : List String := []
  runnable : List String := []

def knownDirectories : List String :=
  ["/", "/bin", "/boot", "/dev", "/etc", "/home", "/lib", "/media", "/mnt", "/opt", "/proc",
    "/root", "/run", "/sbin", "/srv", "/sys", "/tmp", "/usr", "/usr/bin", "/usr/lib", "/usr/local",
    "/usr/local/bin", "/usr/local/lib", "/usr/sbin", "/usr/share", "/var", "/var/lib", "/var/log",
    "/var/tmp", "/work"]

def knownDevices : List String :=
  ["/dev/null", "/dev/full", "/dev/zero", "/dev/random", "/dev/urandom"]

def programNames : List String :=
  ["[", "arch", "base64", "basename", "cat", "chmod", "cp", "cut", "dirname", "echo", "env", "expr",
    "false", "fold", "grep", "head", "id", "ls", "mkdir", "mv", "nl", "nohup", "nproc", "od",
    "paste", "printenv", "printf", "pwd", "realpath", "rev", "rm", "rmdir", "sed", "seq", "sh",
    "sleep", "sort", "tac", "tail", "tee", "test", "timeout", "touch", "tr", "true", "tty", "uname",
    "uniq", "wc", "which", "whoami", "xargs", "yes"]

def programDirectories : List String := ["/bin", "/usr/bin"]

def programAt? (path : String) : Option String :=
  programDirectories.findSome? fun directory =>
    match Text.after? (directory ++ "/").toList path.toList with
    | some name =>
      if programNames.contains (String.ofList name) then some (String.ofList name) else none
    | none => none

def resolve (directory path : String) : String :=
  let parts := Text.fields '/' path.toList
  let start := if path.startsWith "/" then []
    else (Text.fields '/' directory.toList).filter (· ≠ [])
  let ascended := parts.foldl (fun (done : List (List Char)) part =>
    if part = [] || part = ['.'] then done
    else if part = ['.', '.'] then done.dropLast
    else done ++ [part]) start
  "/" ++ String.ofList (['/'].intercalate ascended)

def parentOf (path : String) : String :=
  let parts := ((Text.fields '/' path.toList).filter (· ≠ [])).dropLast
  "/" ++ String.ofList (['/'].intercalate parts)

def lastPart (path : String) : String :=
  String.ofList (((Text.fields '/' path.toList).filter (· ≠ [])).getLastD [])

namespace Written

def isDirectory (written : Written) (path : String) : Bool :=
  knownDirectories.contains path || written.directories.contains path

def isFile (written : Written) (path : String) : Bool := (written.files.get? path).isSome

def exists? (written : Written) (path : String) : Bool :=
  written.isFile path || written.isDirectory path || knownDevices.contains path

/-- All paths at which there is something that commands have made. -/
def paths (written : Written) : List String :=
  written.files.entries.map (·.1) ++ written.directories

/-- All paths at which something is known to be. -/
def allPaths (written : Written) : List String :=
  written.paths ++ knownDirectories ++ knownDevices

end Written

end MacroScript.Shell
