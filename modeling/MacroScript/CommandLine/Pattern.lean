import MacroScript.Text.Alphanumeric
import MacroScript.Text.Scan

/-! Regular expressions, as far as it takes to tell whether one is well formed. They are read from
left to right; what is kept is which groups are open, which flags hold, and whether there is
something that a repetition can refer to. Nothing is ever matched against one. -/

namespace MacroScript.CommandLine

/-- Why a regular expression cannot be used: it is not well formed, or it looks for the bounds of
words in all scripts. -/
inductive PatternFault where
  | malformed
  | wordBounds
  deriving DecidableEq

/-- The flags that decide what is well formed: whether blanks and comments are passed over, and
whether characters of all scripts count. -/
structure PatternFlags where
  spaced : Bool := false
  allScripts : Bool := true
  deriving DecidableEq

/-- What is kept while a regular expression is read. A group is the flags that hold again
after it. -/
structure PatternState where
  groups : List PatternFlags := []
  flags : PatternFlags := {}
  repeatable : Bool := false
  names : List (List Char) := []
  wordBounds : Bool := false

/-- One element of a regular expression: a character, a set of characters, or a place. -/
inductive PatternAtom where
  | literal (c : Char)
  | set
  | place (wordBound : Bool)
  deriving DecidableEq

/-- Passes over blanks and comments where the flags say so. -/
def skipSpaced (flags : PatternFlags) (cs : List Char) : List Char :=
  if flags.spaced then passOver false cs else cs
where
  /-- The text after blanks and comments, of which the first may have been begun. -/
  passOver : (comment : Bool) → List Char → List Char
    | _, [] => []
    | true, c :: cs => passOver (c ≠ '\n') cs
    | false, c :: cs =>
      if c = '#' then passOver true cs else if Text.isBlank c then passOver false cs else c :: cs

def metaCharacters : List Char :=
  ['\\', '.', '+', '*', '?', '(', ')', '|', '[', ']', '\x7b', '\x7d', '^', '$', '#', '&', '-', '~']

/-- A character that an escape may leave as it is: a sign of ASCII, but none that could get a
meaning of its own. -/
def isEscapable (c : Char) : Bool :=
  metaCharacters.contains c || (c.toNat < 0x80 && !c.isAlphanum && c ≠ '<' && c ≠ '>')

def hexCharacter? (count : Nat) (cs : List Char) : Option (Char × List Char) := do
  let digits := cs.take count
  if digits.length < count then none
  else
    let value ← digits.foldlM (fun value c => (Text.hexDigit? c).map (value * 16 + ·)) 0
    if value < 0xD800 ∨ (0xDFFF < value ∧ value < 0x110000) then
      some (Char.ofNat value, cs.drop count)
    else none

def categoryLetters : List Char := ['l', 'm', 'n', 'p', 's', 'z', 'c']

def readEscape (flags : PatternFlags) : List Char → Option (PatternAtom × List Char)
  | [] => none
  | c :: rest =>
    let hex (count : Nat) : Option (PatternAtom × List Char) := do
      let (value, rest) ← hexCharacter? count rest
      if flags.allScripts || value.toNat < 0x80 then some (.literal value, rest) else none
    if c = 'x' then hex 2
    else if c = 'u' then hex 4
    else if c = 'U' then hex 8
    else if c = 'p' ∨ c = 'P' then
      match rest with
      | letter :: rest =>
        if flags.allScripts && categoryLetters.contains letter.toLower then some (.set, rest)
        else none
      | [] => none
    else if c = 'd' ∨ c = 's' ∨ c = 'w' then some (.set, rest)
    else if c = 'D' ∨ c = 'S' ∨ c = 'W' then
      if flags.allScripts then some (.set, rest) else none
    else if isEscapable c then some (.literal c, rest)
    else match c with
      | 'a' => some (.literal '\x07', rest)
      | 'f' => some (.literal '\x0c', rest)
      | 't' => some (.literal '\t', rest)
      | 'n' => some (.literal '\n', rest)
      | 'r' => some (.literal '\r', rest)
      | 'v' => some (.literal '\x0b', rest)
      | 'A' => some (.place false, rest)
      | 'z' => some (.place false, rest)
      | 'b' => some (.place flags.allScripts, rest)
      | 'B' => some (.place flags.allScripts, rest)
      | '<' => some (.place flags.allScripts, rest)
      | '>' => some (.place flags.allScripts, rest)
      | _ => none

def asciiSets : List String :=
  ["alnum", "alpha", "ascii", "blank", "cntrl", "digit", "graph", "lower", "print", "punct",
    "space", "upper", "word", "xdigit"]

def afterAsciiSet? (cs : List Char) : Option (List Char) := do
  let rest ← Text.after? ['[', ':'] cs
  let rest := match rest with
    | '^' :: rest => rest
    | _ => rest
  let (name, rest) ← Text.cut? ':' rest
  let rest ← Text.after? [']'] rest
  if asciiSets.contains (String.ofList name) then some rest else none

/-- What follows the opening of a set: its negation, dashes, or a bracket that stand
for themselves. -/
def openSet (flags : PatternFlags) (cs : List Char) : Option (List Char) :=
  let cs := skipSpaced flags cs
  match cs with
  | '^' :: rest => if flags.allScripts then some (first (skipSpaced flags rest)) else none
  | _ => some (first cs)
where
  /-- What follows the characters that stand for themselves only here. -/
  first (cs : List Char) : List Char :=
    match cs with
    | ']' :: rest => skipSpaced flags rest
    | '-' :: _ => skipSpaced flags (cs.dropWhile (· = '-'))
    | _ => cs

def readMember (flags : PatternFlags) : List Char → Option (PatternAtom × List Char)
  | '\\' :: rest => readEscape flags rest
  | c :: rest =>
    if flags.allScripts || c.toNat < 0x80 then some (.literal c, rest) else none
  | [] => none

def readRange (flags : PatternFlags) (cs : List Char) : Option (List Char) := do
  let (low, rest) ← readMember flags cs
  let rest := skipSpaced flags rest
  let single : Option (List Char) := match low with
    | .place _ => none
    | _ => some rest
  match rest with
  | '-' :: more =>
    match (skipSpaced flags more).head? with
    | none => none
    | some c =>
      if c = ']' ∨ c = '-' then single
      else do
        let (high, rest) ← readMember flags (skipSpaced flags more)
        match low, high with
        | .literal a, .literal b => if a ≤ b then some rest else none
        | _, _ => none
  | _ => single

/-- What follows a set of characters that has been opened; sets may be nested, and `depth` counts
those around the present one. -/
def readSet (flags : PatternFlags) : (steps depth : Nat) → List Char → Option (List Char)
  | 0, _, _ => none
  | steps + 1, depth, cs =>
    match skipSpaced flags cs with
    | [] => none
    | ']' :: rest =>
      match depth with
      | 0 => some rest
      | depth + 1 => readSet flags steps depth rest
    | '[' :: rest =>
      match afterAsciiSet? ('[' :: rest) with
      | some rest => readSet flags steps depth rest
      | none => do readSet flags steps (depth + 1) (← openSet flags rest)
    | '&' :: '&' :: rest => readSet flags steps depth rest
    | '-' :: '-' :: rest => readSet flags steps depth rest
    | '~' :: '~' :: rest => readSet flags steps depth rest
    | cs => do readSet flags steps depth (← readRange flags cs)

/-- A name for a group: it starts with a letter or an underscore. -/
def isGroupName : List Char → Bool
  | [] => false
  | c :: cs =>
    (c = '_' || Text.isAlphabetic c) &&
      cs.all fun c => ['_', '.', '[', ']'].contains c || Text.isAlphanumeric c

/-- The flags after some letters, each of which may occur once; those after a dash are put off. -/
def readFlags (flags : PatternFlags) : (seen : List Char) → List Char → Option PatternFlags
  | seen, [] => if seen.head? = some '-' then none else some flags
  | seen, c :: rest =>
    if seen.contains c || !(['i', 'm', 's', 'U', 'u', 'R', 'x', '-'].contains c) then none
    else
      let on := !seen.contains '-'
      let flags := if c = 'x' then { flags with spaced := on }
        else if c = 'u' then { flags with allScripts := on }
        else flags
      readFlags flags (c :: seen) rest

def PatternState.openGroup (state : PatternState) (inside : PatternFlags) : PatternState :=
  { state with groups := state.flags :: state.groups, flags := inside, repeatable := false }

/-- What follows an opening parenthesis: a name, flags, or the group itself. -/
def readGroup (state : PatternState) (cs : List Char) : Option (PatternState × List Char) :=
  let cs := skipSpaced state.flags cs
  match (Text.after? ['?', 'P', '<'] cs).or (Text.after? ['?', '<'] cs) with
  | some rest => do
    let (name, rest) ← Text.cut? '>' rest
    if isGroupName name && !state.names.contains name then
      some ({ state.openGroup state.flags with names := name :: state.names }, rest)
    else none
  | none =>
    match cs with
    | '?' :: rest =>
      let isEnd (c : Char) : Bool := c = ':' || c = ')'
      let letters := rest.takeWhile (!isEnd ·)
      match readFlags state.flags [] letters, rest.drop letters.length with
      | some flags, ':' :: rest => some (state.openGroup flags, rest)
      | some flags, ')' :: rest =>
        if letters.isEmpty then none else some ({ state with flags, repeatable := false }, rest)
      | _, _ => none
    | _ => some (state.openGroup state.flags, cs)

def readPattern : (steps : Nat) → PatternState → List Char → Option PatternState
  | 0, _, _ => none
  | steps + 1, state, cs =>
    match skipSpaced state.flags cs with
    | [] => if state.groups.isEmpty then some state else none
    | c :: rest =>
      match c with
      | '(' => do
        let (state, rest) ← readGroup state rest
        readPattern steps state rest
      | ')' =>
        match state.groups with
        | flags :: groups => readPattern steps { state with flags, groups, repeatable := true } rest
        | [] => none
      | '|' => readPattern steps { state with repeatable := false } rest
      | '[' => do
        let rest ← readSet state.flags steps 0 (← openSet state.flags rest)
        readPattern steps { state with repeatable := true } rest
      | '\x7b' => none
      | '\\' => do
        let (atom, rest) ← readEscape state.flags rest
        let wordBounds := state.wordBounds || atom = .place true
        readPattern steps { state with wordBounds, repeatable := true } rest
      | '.' =>
        if state.flags.allScripts then readPattern steps { state with repeatable := true } rest
        else none
      | c =>
        if c = '?' ∨ c = '*' ∨ c = '+' then
          if state.repeatable then
            readPattern steps state (match rest with
              | '?' :: rest => rest
              | _ => rest)
          else none
        else readPattern steps { state with repeatable := true } rest

def checkPattern (pattern : List Char) : Except PatternFault Unit :=
  match readPattern (pattern.length + 1) {} pattern with
  | none => .error .malformed
  | some state => if state.wordBounds then .error .wordBounds else .ok ()

/-- A number with an optional sign, fraction and exponent, or a name for what is not a number. -/
def isNumber (text : List Char) : Bool :=
  let body := match text with
    | '+' :: rest => rest
    | '-' :: rest => rest
    | _ => text
  let lower := String.ofList (body.map Char.toLower)
  let whole := body.takeWhile Char.isDigit
  let (fraction, rest) := match body.drop whole.length with
    | '.' :: rest => (rest.takeWhile Char.isDigit, rest.dropWhile Char.isDigit)
    | rest => ([], rest)
  let exponentFits : Bool := match rest with
    | [] => true
    | e :: rest =>
      let digits := match rest with
        | '+' :: rest => rest
        | '-' :: rest => rest
        | _ => rest
      (e = 'e' || e = 'E') && !digits.isEmpty && digits.all Char.isDigit
  lower = "inf" || lower = "infinity" || lower = "nan" ||
    ((!whole.isEmpty || !fraction.isEmpty) && exponentFits)

end MacroScript.CommandLine
