import MacroScript.Shell.Integer
import MacroScript.Shell.Octets
import MacroScript.Shell.Regex

/-! Texts as lines: counting, choosing, ordering and changing them. -/

namespace MacroScript.Shell

def linesOf (text : List Char) : List (List Char) :=
  let lines := Text.fields '\n' text
  if lines.getLast? = some [] then lines.dropLast else lines

def ofLines (lines : List (List Char)) : List Char := lines.flatMap (· ++ ['\n'])

/-- The characters of a set in which a dash between two characters stands for all between them, and
a name in brackets for a kind of characters. -/
def characterSet : (steps : Nat) → List Char → List Char
  | 0, _ => []
  | _ + 1, [] => []
  | steps + 1, '[' :: ':' :: rest =>
    let name := rest.takeWhile (· ≠ ':')
    match kindOf? (String.ofList name), rest.drop name.length with
    | some holds, ':' :: ']' :: rest =>
      ((List.range 256).map Char.ofNat).filter holds ++ characterSet steps rest
    | _, _ => '[' :: characterSet steps (':' :: rest)
  | steps + 1, '\\' :: c :: rest =>
    let c := match c with
      | 'n' => '\n'
      | 't' => '\t'
      | 'r' => '\r'
      | c => c
    c :: characterSet steps rest
  | steps + 1, a :: '-' :: b :: rest =>
    (List.range (b.toNat + 1 - a.toNat)).map (fun i => Char.ofNat (a.toNat + i)) ++
      characterSet steps rest
  | steps + 1, c :: rest => c :: characterSet steps rest

def reversedRange? : List Char → Option (List Char)
  | a :: '-' :: b :: rest => if b.toNat < a.toNat then some [a, '-', b] else reversedRange? rest
  | _ :: rest => reversedRange? rest
  | [] => none

def setOfText (text : String) : List Char := characterSet (text.length + 1) text.toList

/-- The character that stands at the same place in another set, of which the last stands for all
that are missing. -/
def replaced (before after : List Char) (c : Char) : Char :=
  let filled := after ++ List.replicate before.length (after.getLastD c)
  ((before.zip filled).reverse.lookup c).getD c

/-- A text in which a character of a set does not follow itself. -/
def squeezed (set : List Char) : List Char → List Char
  | a :: b :: rest =>
    if a = b && set.contains a then squeezed set (b :: rest) else a :: squeezed set (b :: rest)
  | text => text

def wordCount (text : List Char) : Nat :=
  ((text.splitBy fun a b => isSpace a == isSpace b).filter fun run => !run.any isSpace).length

def runs : List (List Char) → List (Nat × List Char)
  | [] => []
  | line :: rest =>
    match runs rest with
    | (count, next) :: more => if line = next then (count + 1, line) :: more
      else (1, line) :: (count, next) :: more
    | [] => [(1, line)]

def padLeft (width : Nat) (text : String) : String :=
  String.ofList (List.replicate (width - text.length) ' ') ++ text

/-- The ranges in a list such as `1,3-5`, where an end may be missing. -/
def ranges? (text : String) : Option (List (Nat × Option Nat)) :=
  (Text.fields ',' text.toList).mapM fun part =>
    match Text.cut? '-' part with
    | none => (Text.digits? part).map fun n => (n, some n)
    | some (low, high) => do
      let low ← if low.isEmpty then some 1 else Text.digits? low
      if high.isEmpty then some (low, none)
      else do some (low, some (← Text.digits? high))

def selected {α : Type} (ranges : List (Nat × Option Nat)) (items : List α) : List α :=
  (items.zipIdx 1).filterMap fun (item, i) =>
    if ranges.any fun (low, high) => low ≤ i && (high.all (i ≤ ·)) then some item else none

def lineNumber (line : List Char) : Int :=
  let reading := Reading.ofText false line
  if reading.isMissing then 0 else reading.value

/-- Lines in order: by their octets or the numbers at their start, maybe turned around, and maybe
each once. -/
def sortLines (byNumber reversed once : Bool) (lines : List (List Char)) : List (List Char) :=
  let before (a b : List Char) : Bool :=
    if byNumber && lineNumber a ≠ lineNumber b then lineNumber a < lineNumber b else precedes a b
  let inOrder := lines.mergeSort fun a b => if reversed then !before a b else !before b a
  if once then (runs inOrder).map (·.2) else inOrder

def matchesIn (fold : Bool) (regex : Regex) : (steps : Nat) → List Char → List (List Char)
  | 0, _ => []
  | steps + 1, text =>
    match regex.find? fold text with
    | none => []
    | some (start, finish) =>
      let found := start.upTo finish
      let rest := if found.isEmpty then finish.after.drop 1 else finish.after
      if found.isEmpty then (if rest.isEmpty then [] else matchesIn fold regex steps rest)
      else found :: matchesIn fold regex steps rest

/-- The text that replaces a match: an ampersand stands for all of it, and a number after a
backslash for one of its groups. -/
def replacementText (whole : List Char) (groups : List (Nat × List Char)) : List Char → List Char
  | [] => []
  | '\\' :: c :: rest =>
    let text := match Text.digit? c with
      | some 0 => whole
      | some n => (groups.lookup n).getD []
      | none => if c = 'n' then ['\n'] else if c = 't' then ['\t'] else [c]
    text ++ replacementText whole groups rest
  | '&' :: rest => whole ++ replacementText whole groups rest
  | c :: rest => c :: replacementText whole groups rest

/-- Replaces matches in a text from a place on: the one with a number and maybe all after it. Also
says whether there was one. -/
def replaceMatches (fold : Bool) (regex : Regex) (replacement : List Char) (all : Bool) :
    (steps number : Nat) → Spot → List Char × Bool
  | 0, _, spot => (spot.after, false)
  | steps + 1, number, spot =>
    match regex.search? fold (spot.after.length + 1) spot with
    | none => (spot.after, false)
    | some (start, finish) =>
      let before := spot.upTo start
      let whole := start.upTo finish
      let shown := if number ≤ 1 then replacementText whole finish.groups replacement else whole
      let (skipped, next) := if whole.isEmpty then
          (finish.after.take 1, { finish with
            before := (finish.after.take 1) ++ finish.before, after := finish.after.drop 1 })
        else ([], finish)
      if number ≤ 1 && !all then (before ++ shown ++ finish.after, true)
      else if finish.after.isEmpty then (before ++ shown, number ≤ 1)
      else
        let (rest, found) := replaceMatches fold regex replacement all steps (number - 1) next
        (before ++ shown ++ skipped ++ rest, found || number ≤ 1)

end MacroScript.Shell
