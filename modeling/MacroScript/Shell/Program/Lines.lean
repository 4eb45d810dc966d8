import MacroScript.Shell.Dump
import MacroScript.Shell.Edit
import MacroScript.Shell.Program.Basic

/-! Programs that turn the text of their input or of files into other text. -/

namespace MacroScript.Shell

/-- How a character is shown that may not be seen. -/
def visible (tabs others : Bool) (c : Char) : List Char :=
  let n := c.toNat
  let plain (n : Nat) : List Char :=
    if n < 32 then ['^', Char.ofNat (n + 64)] else if n = 127 then ['^', '?'] else [Char.ofNat n]
  if c = '\t' then (if tabs then ['^', 'I'] else [c])
  else if c = '\n' || !others then [c]
  else if n < 128 then plain n
  else 'M' :: '-' :: plain (n - 128)

/-- Prints files one after another, maybe with numbers before the lines, or with marks for what may
not be seen. -/
def cat (arguments : List String) : Act Unit := do
  let (options, paths) := optionsAndOthers [] arguments
  let text ← textsOf "cat" paths
  let all := given options 'A'
  let tabs := all || given options 'T' || given options 't'
  let ends := all || given options 'E' || given options 'e'
  let others := all || given options 'v' || given options 'e' || given options 't'
  let text := text.flatMap fun c =>
    if c = '\n' && ends then ['$', '\n'] else visible tabs others c
  if given options 'n' then
    let numbered := ((linesOf text).zipIdx 1).map fun (line, i) =>
      (padLeft 6 (Text.decimal i)).toList ++ '\t' :: line
    emit (ofLines numbered)
  else emit text

/-- The count that options for the start or the end of a text ask for, and whether it
counts lines. -/
def countAsked (arguments : List String) : (Option (List Char) × Bool) × List String :=
  match arguments with
  | first :: rest =>
    match first.toList with
    | '-' :: c :: cs =>
      if c.isDigit then ((some (c :: cs), true), rest)
      else
        let (options, paths) := optionsAndOthers ['n', 'c'] arguments
        match options.lookup 'c', options.lookup 'n' with
        | some value, _ => ((some value.toList, false), paths)
        | _, some value => ((some value.toList, true), paths)
        | _, _ => ((some ['1', '0'], true), paths)
    | _ => ((some ['1', '0'], true), arguments)
  | [] => ((some ['1', '0'], true), [])

def onParts (byLine : Bool) (change : {α : Type} → List α → List α) (text : List Char) :
    List Char :=
  if byLine then
    let pieces := (Text.fields '\n' text).map (· ++ ['\n'])
    let pieces := if pieces.getLast? = some ['\n'] then pieces.dropLast
      else pieces.dropLast ++ (pieces.getLast?.toList.map List.dropLast)
    (change pieces).flatten
  else change text

/-- Prints the start of files; a count below zero leaves out the end. -/
def head (arguments : List String) : Act Unit := do
  let ((count, byLine), paths) := countAsked arguments
  match count with
  | some ('-' :: digits) =>
    let n := (Text.digits? digits).getD 0
    let text ← textsOf "head" paths
    emit (onParts byLine (fun items => items.take (items.length - n)) text)
  | some digits =>
    match Text.digits? digits with
    | some n => do
      let text ← textsOf "head" paths
      emit (onParts byLine (fun items => items.take n) text)
    | none => refuse "head" 1 ("invalid number of lines: '" ++ String.ofList digits ++ "'")
  | none => Act.setStatus 1

/-- Prints the end of files; a count with a plus is the place where it starts. -/
def tail (arguments : List String) : Act Unit := do
  let ((count, byLine), paths) := countAsked arguments
  match count with
  | some ('+' :: digits) =>
    let n := (Text.digits? digits).getD 0
    let text ← textsOf "tail" paths
    emit (onParts byLine (fun items => items.drop (n - 1)) text)
  | some digits =>
    match Text.digits? digits with
    | some n => do
      let text ← textsOf "tail" paths
      emit (onParts byLine (fun items => items.drop (items.length - n)) text)
    | none => refuse "tail" 1 ("invalid number of lines: '" ++ String.ofList digits ++ "'")
  | none => Act.setStatus 1

/-- The counts of a text that options ask for: lines, words and octets. -/
def countsOf (options : List (Char × String)) (text : List Char) : List Nat :=
  let all := !(['l', 'w', 'c', 'm'].any (given options))
  (if all || given options 'l' then [text.countP (· = '\n')] else []) ++
    (if all || given options 'w' then [wordCount text] else []) ++
    (if all || given options 'c' || given options 'm' then [text.length] else [])

def countText (arguments : List String) : Act Unit := do
  let (options, paths) := optionsAndOthers [] arguments
  Act.setStatus 0
  if paths.isEmpty then
    let counts := countsOf options (← Act.readAll 0)
    let width := if counts.length = 1 then 0 else 7
    emit ((spaced (counts.map fun n => padLeft width (Text.decimal n))).toList ++ ['\n'])
  else do
    let texts ← paths.filterMapM fun path => do
      return (← textOf "wc" path).map fun text => (path, text)
    let total := texts.foldl (fun n (_, text) => n + text.length) 0
    let isSingle := paths.length = 1 && (countsOf options []).length = 1
    let width := if isSingle then 0 else (Text.decimal total).length
    let line (counts : List Nat) (path : String) : List Char :=
      (spaced (counts.map (fun n => padLeft width (Text.decimal n)) ++ [path])).toList
    let rows := texts.map fun (path, text) => line (countsOf options text) path
    let sums := texts.foldl (fun sums (_, text) =>
      sums.zipWith (· + ·) (countsOf options text)) ((countsOf options []).map fun _ => 0)
    emit (ofLines (if paths.length = 1 then rows else rows ++ [line sums "total"]))

def exchange (arguments : List String) : Act Unit := do
  let (options, sets) := optionsAndOthers [] arguments
  let text ← Act.readAll 0
  let first := setOfText (sets.headD "")
  let first := if given options 'c' || given options 'C' then
    ((List.range 256).map Char.ofNat).filter fun c => !first.contains c else first
  match sets.findSome? fun set => reversedRange? set.toList with
  | some range =>
    refuse "tr" 1
      ("range-endpoints of '" ++ String.ofList range ++ "' are in reverse collating sequence order")
  | none =>
  match sets with
  | [] => refuse "tr" 1 "missing operand\nTry 'tr --help' for more information."
  | [_] =>
    if given options 'd' then succeed (text.filter fun c => !first.contains c)
    else if given options 's' then succeed (squeezed first text)
    else refuse "tr" 1 ("missing operand after '" ++ sets.headD "" ++
      "'\nTwo strings must be given when translating.\nTry 'tr --help' for more information.")
  | _ :: second :: _ =>
    let second := setOfText second
    if given options 'd' then
      succeed (squeezed second (text.filter fun c => !first.contains c))
    else
      let changed := text.map (replaced first second)
      succeed (if given options 's' then squeezed second changed else changed)

/-- Searches lines for a pattern; the status says whether there was one. -/
def searchLines (arguments : List String) : Act Unit := do
  let (options, others) := optionsAndOthers ['e', 'm'] arguments
  let (pattern, paths) := match options.lookup 'e', others with
    | some pattern, paths => (some pattern, paths)
    | none, pattern :: paths => (some pattern, paths)
    | none, [] => (none, [])
  let regex? := pattern.bind fun pattern =>
    if given options 'F' then some (.ofPlain pattern.toList)
    else Regex.ofText? (given options 'E') pattern.toList
  match regex? with
  | none => refuse "grep" 2 "Invalid regular expression"
  | some regex =>
    let fold := given options 'i'
    let regex := if given options 'x' then .sequence .start (.sequence regex .finish) else regex
    let isFound (line : List Char) : Bool := (regex.find? fold line).isSome != given options 'v'
    let texts ← (if paths.isEmpty then ["-"] else paths).mapM fun path => do
      return (path, ← textOf "grep" path)
    let label (path : String) : List Char :=
      if 1 < paths.length && !given options 'h' then path.toList ++ [':'] else []
    let report := texts.flatMap fun (path, text) =>
      let lines := ((linesOf (text.getD [])).zipIdx 1).filter fun (line, _) => isFound line
      let number (i : Nat) : List Char :=
        if given options 'n' then (Text.decimal i).toList ++ [':'] else []
      if text.isNone then []
      else if given options 'c' then [label path ++ (Text.decimal lines.length).toList]
      else if given options 'l' then (if lines.isEmpty then [] else [path.toList])
      else if given options 'o' then lines.flatMap fun (line, i) =>
        (matchesIn fold regex (line.length + 1) line).map (label path ++ number i ++ ·)
      else lines.map fun (line, i) => label path ++ number i ++ line
    let any := texts.any fun (_, text) => (linesOf (text.getD [])).any isFound
    if !given options 'q' then emit (ofLines report)
    Act.setStatus (if any && (given options 'q' || texts.all (·.2.isSome)) then 0
      else if texts.all (·.2.isSome) then 1 else 2)

def cutLines (arguments : List String) : Act Unit := do
  let (options, paths) := optionsAndOthers ['d', 'f', 'c', 'b'] arguments
  let list := (options.lookup 'f').orElse fun _ =>
    (options.lookup 'c').orElse fun _ => options.lookup 'b'
  let delimiter := ((options.lookup 'd').bind (·.toList.head?)).getD '\t'
  match list.bind ranges? with
  | none =>
    refuse "cut" 1
      ("you must specify a list of bytes, characters, or fields\n" ++
        "Try 'cut --help' for more information.")
  | some ranges =>
    filterLines "cut" paths fun lines => lines.filterMap fun line =>
      if given options 'f' then
        if line.contains delimiter then
          some ([delimiter].intercalate (selected ranges (Text.fields delimiter line)))
        else if given options 's' then none else some line
      else some (selected ranges line)

def uniqueLines (arguments : List String) : Act Unit := do
  let (options, paths) := optionsAndOthers [] arguments
  filterLines "uniq" (paths.take 1) fun lines =>
    let kept := (runs lines).filter fun (count, _) =>
      (!given options 'd' || 1 < count) && (!given options 'u' || count = 1)
    kept.map fun (count, line) =>
      if given options 'c' then (padLeft 7 (Text.decimal count)).toList ++ ' ' :: line else line

def editText (arguments : List String) : Act Unit := do
  let (options, others) := optionsAndOthers ['e'] arguments
  let scripts := (options.filter (·.1 = 'e')).map (·.2)
  let (script, paths) := match scripts, others with
    | [], script :: paths => (script, paths)
    | scripts, paths => (String.intercalate "\n" scripts, paths)
  let extended := given options 'E' || given options 'r'
  match readEdits? extended (script.length + 1) script.toList with
  | none => refuse "sed" 1 "-e expression #1, char 1: unknown command"
  | some commands =>
    let text ← textsOf "sed" paths
    let edited := ofLines
      (editLines (given options 'n') commands 1 (commands.map fun _ => false) (linesOf text))
    emit (if text.getLast? = some '\n' || text.isEmpty then edited else edited.dropLast)

def tee (arguments : List String) : Act Unit := do
  let (options, paths) := optionsAndOthers [] arguments
  let text ← Act.readAll 0
  succeed text
  paths.forM fun path => do
    let written := (← Act.world).written
    let full := resolve (← Act.frame).directory path
    if full = "/dev/null" then pure ()
    else if written.isDirectory full || !written.isDirectory (parentOf full) then
      refuse "tee" 1 (path ++ ": No such file or directory")
    else
      let before := if given options 'a' then (written.files.get? full).getD "" else ""
      changeWritten fun written =>
        { written with files := written.files.set full (before ++ String.ofList text) }

def pasteLines (arguments : List String) : Act Unit := do
  let (options, paths) := optionsAndOthers ['d'] arguments
  let delimiter := ((options.lookup 'd').bind (·.toList.head?)).getD '\t'
  if given options 's' then
    filterLines "paste" paths fun lines => [[delimiter].intercalate lines]
  else do
    let texts ← (if paths.isEmpty then ["-"] else paths).mapM (textOf "paste")
    let columns := texts.filterMap fun text => text.map linesOf
    let height := columns.foldl (fun n column => max n column.length) 0
    Act.setStatus 0
    emit (ofLines ((List.range height).map fun i =>
      [delimiter].intercalate (columns.map fun column => column[i]?.getD [])))

def dump (arguments : List String) : Act Unit := do
  let (options, paths) := optionsAndOthers ['A', 't', 'j', 'N', 'w'] arguments
  let kind : DumpKind :=
    match options.lookup 't' with
    | some "x1" => .octets 16 2
    | some "o1" => .octets 8 3
    | some "u1" => .octets 10 3
    | some "c" => .characters
    | some "x2" => .pairs 16 4
    | _ =>
      if given options 'c' then .characters
      else if given options 'b' then .octets 8 3
      else if given options 'x' then .pairs 16 4
      else .pairs 8 6
  let text ← textsOf "od" paths
  emit (ofLines (dumpRows kind (options.lookup 'A' ≠ some "n") (text.length + 2) 0 text))

def convertSixBits (arguments : List String) : Act Unit := do
  let (options, paths) := optionsAndOthers ['w'] arguments
  let text ← textsOf "base64" paths
  if given options 'd' || given options '-' then
    match decodeSixBits? (text.filter (· ≠ '\n')) with
    | some decoded => emit decoded
    | none => refuse "base64" 1 "invalid input"
  else
    let encoded := encodeSixBits text
    let width := ((options.lookup 'w').bind fun w => Text.digits? w.toList).getD 76
    if encoded.isEmpty then pure ()
    else if width = 0 then emit encoded
    else emit (ofLines (foldLines width (encoded.length + 1) encoded))

def breakLines (arguments : List String) : Act Unit := do
  let (options, paths) := optionsAndOthers ['w'] arguments
  let width := ((options.lookup 'w').bind fun w => Text.digits? w.toList).getD 80
  filterLines "fold" paths fun lines =>
    lines.flatMap fun line => foldLines (max width 1) (line.length + 1) line

end MacroScript.Shell
