import MacroScript.Shell.Lines

/-! Scripts that change a text line by line. -/

namespace MacroScript.Shell

/-- Which lines a command is for: one with a number, the last one, or those that match. -/
inductive Address where
  | number (n : Nat)
  | last
  | pattern (regex : Regex)

inductive EditAction where
  | substitute (regex : Regex) (fold : Bool) (replacement : List Char) (all : Bool) (nth : Nat)
      (shows : Bool)
  | delete
  | print
  | quit
  | number
  | exchange (before after : List Char)
  | insert (text : List Char)
  | append (text : List Char)
  | change (text : List Char)

/-- A command of a script: the lines that it is for, or all others. -/
structure EditCommand where
  first : Option Address := none
  last : Option Address := none
  negated : Bool := false
  action : EditAction

/-- A part of a text up to a mark that is not quoted, and what follows it. -/
def untilMark (mark : Char) : List Char → Option (List Char × List Char)
  | [] => none
  | '\\' :: c :: rest =>
    (untilMark mark rest).map fun (part, rest) =>
      if c = mark then (c :: part, rest) else ('\\' :: c :: part, rest)
  | c :: rest =>
    if c = mark then some ([], rest)
    else (untilMark mark rest).map fun (part, rest) => (c :: part, rest)

def readAddress? (extended : Bool) (text : List Char) : Option (Address × List Char) :=
  match text with
  | '$' :: rest => some (.last, rest)
  | '/' :: rest => do
    let (pattern, rest) ← untilMark '/' rest
    some (.pattern (← Regex.ofText? extended pattern), rest)
  | _ =>
    let digits := text.takeWhile Char.isDigit
    (Text.digits? digits).map fun n => (.number n, text.drop digits.length)

def readAction? (extended : Bool) (text : List Char) : Option (EditAction × List Char) :=
  let argument (rest : List Char) : List Char :=
    let rest := rest.dropWhile fun c => c = ' '
    let rest := if rest.head? = some '\\' then (rest.drop 1).dropWhile (· = '\n') else rest
    rest.takeWhile (· ≠ '\n')
  match text with
  | 's' :: mark :: rest => do
    let (pattern, rest) ← untilMark mark rest
    let (replacement, rest) ← untilMark mark rest
    let flags := rest.takeWhile fun c => c.isDigit || ['g', 'p', 'i', 'I'].contains c
    let regex ← Regex.ofText? extended pattern
    let number := (Text.digits? (flags.filter Char.isDigit)).getD 1
    some (.substitute regex (flags.contains 'i' || flags.contains 'I') replacement
      (flags.contains 'g') number
      (flags.contains 'p'), rest.drop flags.length)
  | 'y' :: mark :: rest => do
    let (before, rest) ← untilMark mark rest
    let (after, rest) ← untilMark mark rest
    if before.length = after.length then some (.exchange before after, rest) else none
  | 'd' :: rest => some (.delete, rest)
  | 'p' :: rest => some (.print, rest)
  | 'q' :: rest => some (.quit, rest)
  | '=' :: rest => some (.number, rest)
  | 'i' :: rest => some (.insert (argument rest), rest.dropWhile (· ≠ '\n'))
  | 'a' :: rest => some (.append (argument rest), rest.dropWhile (· ≠ '\n'))
  | 'c' :: rest => some (.change (argument rest), rest.dropWhile (· ≠ '\n'))
  | _ => none

def readEdits? (extended : Bool) : (steps : Nat) → List Char → Option (List EditCommand)
  | 0, _ => none
  | steps + 1, text =>
    match text.dropWhile fun c => isSpace c || c = ';' with
    | [] => some []
    | text => do
      let (first, text) := match readAddress? extended text with
        | some (address, rest) => (some address, rest)
        | none => (none, text)
      let (last, text) ← match text with
        | ',' :: rest =>
          (readAddress? extended rest).map fun (address, rest) => (some address, rest)
        | _ => some (none, text)
      let text := text.dropWhile (· = ' ')
      let (negated, text) := match text with
        | '!' :: rest => (true, rest)
        | _ => (false, text)
      let (action, rest) ← readAction? extended text
      let more ← readEdits? extended steps rest
      some (⟨first, last, negated, action⟩ :: more)

def Address.isAt (number : Nat) (isLast : Bool) (line : List Char) : Address → Bool
  | .number n => n = number
  | .last => isLast
  | .pattern regex => (regex.find? false line).isSome

/-- The command is for a line; `within` says that the line before was in its range. Also says
whether the range goes on. -/
def EditCommand.covers (command : EditCommand) (within : Bool) (number : Nat) (isLast : Bool)
    (line : List Char) : Bool × Bool :=
  match command.first, command.last with
  | none, _ => (true, false)
  | some opening, none => (opening.isAt number isLast line, false)
  | some opening, some closing =>
    let ends := match closing with
      | .number n => n ≤ number
      | address => address.isAt number isLast line
    if within then (true, !ends)
    else if opening.isAt number isLast line then
      (true, match closing with
        | .number n => number < n
        | _ => true)
    else (false, false)

/-- A line that is being edited: its text, what is printed before and after it, whether it is gone,
and whether it is the last one to be edited. -/
structure EditedLine where
  text : List Char
  before : List (List Char) := []
  after : List (List Char) := []
  isGone : Bool := false
  isFinal : Bool := false

def EditAction.apply (number : Nat) (line : EditedLine) : EditAction → EditedLine
  | .substitute regex fold replacement all nth shows =>
    let (text, found) := replaceMatches fold regex replacement all (line.text.length + 2) nth
      { after := line.text }
    if found then
      { line with text, before := if shows then line.before ++ [text] else line.before }
    else line
  | .delete => { line with isGone := true }
  | .print => { line with before := line.before ++ [line.text] }
  | .quit => { line with isFinal := true }
  | .number => { line with before := line.before ++ [(Text.decimal number).toList] }
  | .exchange before after =>
    { line with text := line.text.map fun c => ((before.zip after).lookup c).getD c }
  | .insert text => { line with before := line.before ++ [text] }
  | .append text => { line with after := line.after ++ [text] }
  | .change text => { line with before := line.before ++ [text], isGone := true }

/-- Carries commands out on a line; each comes with whether the line before was in its range. -/
def editLine (number : Nat) (isLast : Bool) : EditedLine → List (EditCommand × Bool) →
    EditedLine × List Bool
  | line, [] => (line, [])
  | line, (command, within) :: rest =>
    if line.isGone || line.isFinal then (line, within :: rest.map (·.2))
    else
      let (covered, goesOn) := command.covers within number isLast line.text
      let line := if covered != command.negated then command.action.apply number line else line
      let (line, others) := editLine number isLast line rest
      (line, goesOn :: others)

/-- Carries a script out on lines; each line is printed after it, unless `quiet` holds. -/
def editLines (quiet : Bool) (commands : List EditCommand) : (number : Nat) → (within : List Bool) →
    List (List Char) → List (List Char)
  | _, _, [] => []
  | number, within, line :: rest =>
    let (edited, within) := editLine number rest.isEmpty { text := line } (commands.zip within)
    let shown := edited.before ++
      (if quiet || edited.isGone then [] else [edited.text]) ++ edited.after
    if edited.isFinal then shown else shown ++ editLines quiet commands (number + 1) within rest

end MacroScript.Shell
