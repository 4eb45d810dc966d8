import MacroScript.Shell.Program.Files
import MacroScript.Shell.Program.Lines
import MacroScript.Shell.Program.Values

/-! The programs that a shell can start by name or by path. They turn their input and arguments into
text and a status. -/

namespace MacroScript.Shell

/-- The program with a name, if there is one that works on its own. -/
def program? (name : String) : Option (List String → Act Unit) :=
  match name with
  | "echo" => some echoProgram
  | "true" => some fun _ => Act.setStatus 0
  | "false" => some fun _ => Act.setStatus 1
  | "cat" => some cat
  | "printf" => some printf
  | "test" => some testCondition
  | "[" => some fun arguments => testCondition arguments.dropLast
  | "pwd" => some fun _ => do succeed ((← Act.frame).directory ++ "\n").toList
  | "sleep" => some sleep
  | "head" => some head
  | "tail" => some tail
  | "tac" => some fun arguments => filterLines "tac" arguments List.reverse
  | "rev" => some fun arguments => filterLines "rev" arguments (·.map List.reverse)
  | "nl" => some fun arguments => filterLines "nl" arguments fun lines =>
    ((lines.zipIdx 1).map fun (line, i) => (padLeft 6 (Text.decimal i)).toList ++ '\t' :: line)
  | "wc" => some countText
  | "tr" => some exchange
  | "grep" => some searchLines
  | "sed" => some editText
  | "seq" => some countUp
  | "sort" => some fun arguments =>
    let (options, paths) := optionsAndOthers ['k', 't', 'o'] arguments
    filterLines "sort" paths (sortLines (given options 'n') (given options 'r') (given options 'u'))
  | "uniq" => some uniqueLines
  | "cut" => some cutLines
  | "paste" => some pasteLines
  | "od" => some dump
  | "base64" => some convertSixBits
  | "fold" => some breakLines
  | "realpath" => some wholePaths
  | "tee" => some tee
  | "rm" => some removeFiles
  | "touch" => some touch
  | "mkdir" => some makeDirectories
  | "rmdir" => some removeDirectories
  | "cp" => some (copyFiles "cp" false)
  | "mv" => some (copyFiles "mv" true)
  | "chmod" => some changeMode
  | "ls" => some listFiles
  | "basename" => some baseName
  | "dirname" => some directoryName
  | "expr" => some expressionProgram
  | "printenv" => some printEnvironment
  | "which" => some locate
  | "yes" => some fun arguments =>
    let line := (if arguments.isEmpty then "y" else spaced arguments) ++ "\n"
    do
      emit (List.replicate (pipeBound / line.length + 1) line.toList).flatten
      throw (.killed 13)
  | "id" => some fun arguments =>
    succeed (if arguments.isEmpty then "uid=0(root) gid=0(root) groups=0(root)\n"
      else if arguments.any (·.toList.contains 'n') then "root\n" else "0\n").toList
  | "whoami" => some fun _ => succeed "root\n".toList
  | "uname" => some fun _ => succeed "Linux\n".toList
  | "arch" => some fun _ => succeed "x86_64\n".toList
  | "nproc" => some fun _ => succeed "1\n".toList
  | "tty" => some fun _ => do
    succeed "not a tty\n".toList
    Act.setStatus 1
  | _ => none

end MacroScript.Shell
