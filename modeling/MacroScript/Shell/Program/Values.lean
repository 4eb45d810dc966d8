import MacroScript.Shell.Program.Basic

/-! Programs that print what their arguments come to. -/

namespace MacroScript.Shell

def echoProgram (arguments : List String) : Act Unit :=
  let isOption (argument : String) : Bool :=
    match argument.toList with
    | '-' :: c :: cs => (c :: cs).all fun c => ['n', 'e', 'E'].contains c
    | _ => false
  let options := (arguments.takeWhile isOption).flatMap String.toList
  let text := (spaced (arguments.dropWhile isOption)).toList
  let (text, cut) := if options.contains 'e' then unescaped text else (text, false)
  succeed (if options.contains 'n' || cut then text else text ++ ['\n'])

def milliseconds? (text : String) : Option Nat :=
  let (number, scale) := match text.toList.getLast? with
    | some 's' => (text.toList.dropLast, 1)
    | some 'm' => (text.toList.dropLast, 60)
    | some 'h' => (text.toList.dropLast, 3600)
    | some 'd' => (text.toList.dropLast, 86400)
    | _ => (text.toList, 1)
  let (value, count, places, rest) := pointDigits 10 number
  if count = 0 || !rest.isEmpty then none
  else some (value * 1000 * scale / Nat.pow 10 places)

def sleep (arguments : List String) : Act Unit := do
  if arguments.isEmpty then
    refuse "sleep" 1 "missing operand\nTry 'sleep --help' for more information."
  else match arguments.find? fun a => (milliseconds? a).isNone with
    | some bad =>
      refuse "sleep" 1
        ("invalid time interval '" ++ bad ++ "'\nTry 'sleep --help' for more information.")
    | none =>
      let span := (arguments.filterMap milliseconds?).foldl (· + ·) 0
      Act.changeFrame fun frame => { frame with clock := frame.clock + span, status := 0 }

def numbersFrom (step last : Int) : (count : Nat) → (first : Int) → List Int
  | 0, _ => []
  | count + 1, first =>
    if (0 < step && last < first) || (step < 0 && first < last) then []
    else first :: numbersFrom step last count (first + step)

def countUp (arguments : List String) : Act Unit := do
  let isNumber (argument : String) : Bool := (integer? argument.toList).isSome
  let (separator, arguments) := match arguments with
    | "-s" :: separator :: rest => (separator, rest)
    | option :: rest =>
      match option.toList with
      | '-' :: 's' :: separator => (String.ofList separator, rest)
      | _ => ("\n", arguments)
    | [] => ("\n", [])
  let range := match arguments.map fun a => integer? a.toList with
    | [some last] => some (1, 1, last)
    | [some first, some last] => some (first, 1, last)
    | [some first, some step, some last] => if step = 0 then none else some (first, step, last)
    | _ => none
  match range with
  | some (first, step, last) =>
    let numbers := numbersFrom step last ((last - first).natAbs / step.natAbs + 1) first
    succeed (if numbers.isEmpty then [] else
      (String.intercalate separator (numbers.map integerText)).toList ++ ['\n'])
  | none =>
    match arguments.find? fun a => !isNumber a with
    | some bad =>
      refuse "seq" 1
        ("invalid floating point argument: '" ++ bad ++ "'\nTry 'seq --help' for more information.")
    | none => refuse "seq" 1 "missing operand\nTry 'seq --help' for more information."

/-- The value of an expression of words, and the words after it; or what is wrong. -/
abbrev WordValue := Except String (String × List String)

def joinValues (operator a b : String) : Except String String :=
  let isTrue (text : String) : Bool := text ≠ "" && text ≠ "0"
  let numbers (join : Int → Int → Except String Int) : Except String String :=
    match integer? a.toList, integer? b.toList with
    | some a, some b => (join a b).map integerText
    | _, _ => .error "non-integer argument"
  let compare (holds : Ordering → Bool) : Except String String :=
    let order := match integer? a.toList, integer? b.toList with
      | some a, some b => if a < b then .lt else if b < a then .gt else .eq
      | _, _ =>
        if precedes a.toList b.toList then .lt else if precedes b.toList a.toList then .gt else .eq
    .ok (if holds order then "1" else "0")
  match operator with
  | "|" => .ok (if isTrue a then a else if isTrue b then b else "0")
  | "&" => .ok (if isTrue a && isTrue b then a else "0")
  | "=" => compare (· == .eq)
  | "==" => compare (· == .eq)
  | "!=" => compare (· != .eq)
  | "<" => compare (· == .lt)
  | "<=" => compare (· != .gt)
  | ">" => compare (· == .gt)
  | ">=" => compare (· != .lt)
  | "+" => numbers fun a b => .ok (a + b)
  | "-" => numbers fun a b => .ok (a - b)
  | "*" => numbers fun a b => .ok (a * b)
  | "/" => numbers fun a b => if b = 0 then .error "division by zero" else .ok (a.tdiv b)
  | "%" => numbers fun a b => if b = 0 then .error "division by zero" else .ok (a.tmod b)
  | _ =>
    match Regex.ofText? false b.toList with
    | none => .error "Invalid regular expression"
    | some regex =>
      match (Regex.sequence .start regex).longest? false { after := a.toList } with
      | some finish =>
        let hasGroup := Text.occurs ['\\', '('] b.toList
        .ok (if hasGroup then String.ofList ((finish.groups.lookup 1).getD [])
          else Text.decimal finish.before.length)
      | none => .ok (if Text.occurs ['\\', '('] b.toList then "" else "0")

def operatorLevels : List (List String) :=
  [["|"], ["&"], ["=", "==", "!=", "<", "<=", ">", ">="], ["+", "-"], ["*", "/", "%"], [":"]]

mutual

def wordValue : (steps : Nat) → List (List String) → List String → WordValue
  | 0, _, _ => .error "syntax error"
  | steps + 1, [], words => operandValue steps words
  | steps + 1, level :: levels, words => do
    let (value, rest) ← wordValue steps levels words
    moreValues steps level levels value rest

def moreValues : (steps : Nat) → List String → List (List String) → String → List String → WordValue
  | 0, _, _, _, _ => .error "syntax error"
  | steps + 1, level, levels, value, words =>
    match words with
    | operator :: rest =>
      if level.contains operator then do
        if rest.isEmpty then .error ("syntax error: missing argument after '" ++ operator ++ "'")
        let (next, rest) ← wordValue steps levels rest
        moreValues steps level levels (← joinValues operator value next) rest
      else .ok (value, words)
    | [] => .ok (value, [])

def operandValue : (steps : Nat) → List String → WordValue
  | 0, _ => .error "syntax error"
  | steps + 1, words =>
    match words with
    | [] => .error "syntax error: missing argument"
    | "(" :: rest => do
      let (value, rest) ← wordValue steps operatorLevels rest
      match rest with
      | ")" :: rest => .ok (value, rest)
      | _ => .error "syntax error: expecting ')'"
    | "length" :: text :: rest => .ok (Text.decimal text.length, rest)
    | "substr" :: text :: start :: count :: rest =>
      let number (text : String) : Nat := ((integer? text.toList).map Int.toNat).getD 0
      let part := if number start = 0 then [] else
        (text.toList.drop (number start - 1)).take (number count)
      .ok (String.ofList part, rest)
    | "index" :: text :: set :: rest =>
      .ok (Text.decimal (match text.toList.findIdx? set.toList.contains with
        | some i => i + 1
        | none => 0), rest)
    | "match" :: text :: pattern :: rest => do .ok (← joinValues ":" text pattern, rest)
    | word :: rest => .ok (word, rest)

end

def expressionProgram (words : List String) : Act Unit :=
  match wordValue (20 * words.length + 20) operatorLevels words with
  | .ok (value, []) => do
    succeed (value.toList ++ ['\n'])
    Act.setStatus (if value = "" || value = "0" then 1 else 0)
  | .ok (_, word :: _) => refuse "expr" 2 ("syntax error: unexpected argument '" ++ word ++ "'")
  | .error reason => refuse "expr" 2 reason

def printEnvironment (arguments : List String) : Act Unit := do
  let environment := (← Act.frame).environment
  match arguments with
  | [] =>
    succeed (ofLines (environment.reverse.map fun (name, value) => (name ++ "=" ++ value).toList))
  | name :: _ =>
    match environment.lookup name with
    | some value => succeed (value.toList ++ ['\n'])
    | none => Act.setStatus 1

end MacroScript.Shell
