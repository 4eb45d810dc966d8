import MacroScript.Text.Scan

/-! The words of a shell. A word is a row of pieces, since parts of it may be quoted and parts of it
may stand for something else: a parameter, what commands print, or the value of an expression. -/

namespace MacroScript.Shell

mutual

/-- A part of a word. The commands whose output it may stand for are kept as text. -/
inductive Piece where
  | text (chars : List Char) (quoted : Bool)
  | parameter (name : List Char) (use : Use) (quoted : Bool)
  | printed (script : List Char) (quoted : Bool)
  | arithmetic (body : List Piece) (quoted : Bool)

/-- What is wanted of a parameter: its value, the length of that, something else when it is not set,
or its value without what matches a pattern. An empty value may count as not set. -/
inductive Use where
  | value
  | length
  | orDefault (emptyCounts : Bool) (word : List Piece)
  | orSet (emptyCounts : Bool) (word : List Piece)
  | orFail (emptyCounts : Bool) (word : List Piece)
  | orAlternative (emptyCounts : Bool) (word : List Piece)
  | withoutStart (longest : Bool) (pattern : List Piece)
  | withoutEnd (longest : Bool) (pattern : List Piece)
  | unknown

end

abbrev Word := List Piece

/-- The characters that end a word when they are not quoted. -/
def endsWord (c : Char) : Bool :=
  [' ', '\t', '\n', ';', '&', '|', '(', ')', '<', '>'].contains c

def startsName (c : Char) : Bool := c.isAlpha || c = '_'

def continuesName (c : Char) : Bool := c.isAlphanum || c = '_'

def isName : List Char → Bool
  | c :: cs => startsName c && cs.all continuesName
  | [] => false

def isSpecialName (c : Char) : Bool := ['?', '$', '!', '#', '@', '*', '-'].contains c

/-- Where the pieces that are read stand: in a word, between double quotes, in the braces of a
parameter, or in a text of their own. Braces may stand in a quoted text, and hold a pattern. -/
inductive Setting where
  | plain
  | quoted
  | braced (inQuotes pattern : Bool)
  | document
  deriving DecidableEq

namespace Setting

/-- The pieces are quoted where nothing else says so. -/
def isQuoted : Setting → Bool
  | plain => false
  | quoted => true
  | braced inQuotes pattern => inQuotes && !pattern
  | document => true

def hasSingleQuotes : Setting → Bool
  | plain => true
  | quoted => false
  | braced inQuotes pattern => !inQuotes || pattern
  | document => false

def hasDoubleQuotes : Setting → Bool
  | plain => true
  | quoted => false
  | braced _ _ => true
  | document => false

def escapes (setting : Setting) (c : Char) : Bool :=
  match setting with
  | plain => true
  | quoted => ['$', '\x60', '\x22', '\\'].contains c
  | braced inQuotes pattern =>
    !inQuotes || pattern || ['$', '\x60', '\x22', '\\', '\x7d'].contains c
  | document => ['$', '\x60', '\\'].contains c

end Setting

/-- The words after which a command starts. -/
def openingWords : List String :=
  ["if", "then", "else", "elif", "while", "until", "do", "!", "\x7b", "esac", "fi", "done", "\x7d"]

def prepend (chars : List Char) (found : Option (List Char × List Char)) :
    Option (List Char × List Char) :=
  found.map fun (inside, after) => (chars ++ inside, after)

mutual

/-- The text up to the parenthesis that closes one already open, and the text after it. Parentheses
that are quoted or opened on the way do not count, nor those that follow the patterns of a choice;
`choices` says how many choices are open within each parenthesis, and `first` that a command starts
here. -/
def closeParenthesis : (steps : Nat) → (choices : List Nat) → (first : Bool) → List Char →
    Option (List Char × List Char)
  | 0, _, _, _ => none
  | _ + 1, _, _, [] => none
  | steps + 1, choices, first, c :: rest =>
    if c = ')' then
      match choices with
      | [] => some ([], rest)
      | [0] => some ([], rest)
      | 0 :: outer => prepend [c] (closeParenthesis steps outer false rest)
      | choices => prepend [c] (closeParenthesis steps choices true rest)
    else if c = '(' then prepend [c] (closeParenthesis steps (0 :: choices) true rest)
    else if c = ' ' || c = '\t' then prepend [c] (closeParenthesis steps choices first rest)
    else if c = '<' || c = '>' then prepend [c] (closeParenthesis steps choices false rest)
    else if endsWord c then prepend [c] (closeParenthesis steps choices true rest)
    else if c = '#' then
      let comment := (c :: rest).takeWhile (· ≠ '\n')
      prepend comment (closeParenthesis steps choices first ((c :: rest).drop comment.length))
    else do
      let (word, rest) ← passWord steps endsWord (c :: rest)
      let text := String.ofList word
      let choices := match choices with
        | count :: outer =>
          if first && text = "case" then (count + 1) :: outer
          else if first && text = "esac" then (count - 1) :: outer
          else choices
        | [] => []
      prepend word (closeParenthesis steps choices (first && openingWords.contains text) rest)

/-- The text up to a character that ends it and is not quoted, and the text from there on. -/
def passWord : (steps : Nat) → (ends : Char → Bool) → List Char → Option (List Char × List Char)
  | 0, _, _ => none
  | _ + 1, _, [] => some ([], [])
  | steps + 1, ends, c :: rest =>
    if ends c then some ([], c :: rest)
    else if c = '\\' then prepend (c :: rest.take 1) (passWord steps ends (rest.drop 1))
    else if c = '\x27' then do
      let (quoted, rest) ← Text.cut? '\x27' rest
      prepend (c :: quoted ++ ['\x27']) (passWord steps ends rest)
    else if c = '\x22' then do
      let (quoted, rest) ← passQuoted steps '\x22' rest
      prepend (c :: quoted) (passWord steps ends rest)
    else if c = '\x60' then do
      let (quoted, rest) ← passQuoted steps '\x60' rest
      prepend (c :: quoted) (passWord steps ends rest)
    else if c = '$' && rest.head? = some '(' then do
      let (inside, rest) ← closeParenthesis steps [0] true (rest.drop 1)
      prepend ('$' :: '(' :: inside ++ [')']) (passWord steps ends rest)
    else if c = '$' && rest.head? = some '\x7b' then do
      let (inside, rest) ← passWord steps (· = '\x7d') (rest.drop 1)
      prepend ('$' :: '\x7b' :: inside) (passWord steps ends rest)
    else prepend [c] (passWord steps ends rest)

/-- The text through a closing quote that is not escaped, and the text after it. -/
def passQuoted : (steps : Nat) → (close : Char) → List Char → Option (List Char × List Char)
  | 0, _, _ => none
  | _ + 1, _, [] => none
  | steps + 1, close, c :: rest =>
    if c = close then some ([c], rest)
    else if c = '\\' then prepend (c :: rest.take 1) (passQuoted steps close (rest.drop 1))
    else if close = '\x22' && c = '$' && rest.head? = some '(' then do
      let (inside, rest) ← closeParenthesis steps [0] true (rest.drop 1)
      prepend ('$' :: '(' :: inside ++ [')']) (passQuoted steps close rest)
    else prepend [c] (passQuoted steps close rest)

end

/-- The text of an expression up to the two parentheses that close it, and the text after them.
Quotes mean nothing in it, and a parenthesis too many is a part of it. -/
def closeArithmetic : (steps depth : Nat) → List Char → Option (List Char × List Char)
  | 0, _, _ => none
  | _ + 1, _, [] => none
  | steps + 1, depth, c :: rest =>
    if c = '(' then prepend [c] (closeArithmetic steps (depth + 1) rest)
    else if c = ')' then
      match depth, rest with
      | depth + 1, _ => prepend [c] (closeArithmetic steps depth rest)
      | 0, ')' :: rest => some ([], rest)
      | 0, _ => prepend [c] (closeArithmetic steps 0 rest)
    else if c = '\\' then prepend (c :: rest.take 1) (closeArithmetic steps depth (rest.drop 1))
    else if c = '\x60' then do
      let (quoted, rest) ← passQuoted steps '\x60' rest
      prepend (c :: quoted) (closeArithmetic steps depth rest)
    else if c = '$' && rest.head? = some '(' then do
      let (inside, rest) ← closeParenthesis steps [0] true (rest.drop 1)
      prepend ('$' :: '(' :: inside ++ [')']) (closeArithmetic steps depth rest)
    else if c = '$' && rest.head? = some '\x7b' then do
      let (inside, rest) ← passWord steps (· = '\x7d') (rest.drop 1)
      prepend ('$' :: '\x7b' :: inside) (closeArithmetic steps depth rest)
    else prepend [c] (closeArithmetic steps depth rest)

/-- The text up to the next backquote that is not escaped, without the backslashes that quote a
backquote, a backslash or a dollar sign in it. -/
def closeBackquote (quoted : Bool) : List Char → Option (List Char × List Char)
  | [] => none
  | '\x60' :: rest => some ([], rest)
  | '\\' :: c :: rest =>
    if ['\x60', '\\', '$'].contains c || (quoted && c = '\x22') then
      prepend [c] (closeBackquote quoted rest)
    else prepend ['\\', c] (closeBackquote quoted rest)
  | c :: rest => prepend [c] (closeBackquote quoted rest)

def leadingName (cs : List Char) : List Char :=
  match cs with
  | [] => []
  | c :: _ =>
    if startsName c then cs.takeWhile continuesName
    else if c.isDigit then cs.takeWhile Char.isDigit
    else if isSpecialName c then [c]
    else []

/-- The piece stands for all positional parameters, each by itself, and so maybe for nothing. -/
def Piece.isAllPositional : Piece → Bool
  | .parameter ['@'] .value _ => true
  | _ => false

inductive Missing where
  | quote
  | brace
  | parenthesis
  | parentheses
  | backquote
  deriving DecidableEq

def Missing.message : Missing → String
  | quote => "Unterminated quoted string"
  | brace => "Missing '\x7d'"
  | parenthesis => "end of file unexpected (expecting \")\")"
  | parentheses => "Missing '))'"
  | backquote => "EOF in backquote substitution"

mutual

def readPieces : (steps : Nat) → Setting → List Char → Except Missing (Word × List Char)
  | 0, _, _ => .error .quote
  | _ + 1, setting, [] =>
    match setting with
    | .plain => .ok ([], [])
    | .document => .ok ([], [])
    | .quoted => .error .quote
    | .braced _ _ => .error .brace
  | steps + 1, setting, c :: rest =>
    if setting = .plain && endsWord c then .ok ([], c :: rest)
    else if setting = .quoted && c = '\x22' then .ok ([], rest)
    else if setting matches .braced _ _ && c = '\x7d' then .ok ([], rest)
    else do
      let (pieces, rest) ← readPiece steps setting c rest
      let (more, rest) ← readPieces steps setting rest
      .ok (pieces ++ more, rest)

def readPiece : (steps : Nat) → Setting → Char → List Char → Except Missing (Word × List Char)
  | 0, _, _, _ => .error .quote
  | steps + 1, setting, c, rest =>
    if c = '\\' then
      match rest with
      | [] => .ok ([.text ['\\'] true], [])
      | '\n' :: rest => .ok ([], rest)
      | c :: rest =>
        .ok ([.text (if setting.escapes c then [c] else ['\\', c]) true], rest)
    else if c = '\x27' && setting.hasSingleQuotes then
      match Text.cut? '\x27' rest with
      | some (quoted, rest) => .ok ([.text quoted true], rest)
      | none => .error .quote
    else if c = '\x22' && setting.hasDoubleQuotes then do
      let (pieces, rest) ← readPieces steps .quoted rest
      .ok (if pieces.any (·.isAllPositional) then pieces else .text [] true :: pieces, rest)
    else if c = '$' then readDollar steps setting.isQuoted rest
    else if c = '\x60' then
      match closeBackquote setting.isQuoted rest with
      | some (script, rest) => .ok ([.printed script setting.isQuoted], rest)
      | none => .error .backquote
    else .ok ([.text [c] setting.isQuoted], rest)

/-- What a dollar sign stands for; one that starts nothing stands for itself. -/
def readDollar : (steps : Nat) → (quoted : Bool) → List Char → Except Missing (Word × List Char)
  | 0, _, _ => .error .quote
  | steps + 1, quoted, rest =>
    match rest with
    | '(' :: '(' :: rest =>
      match closeArithmetic (2 * rest.length + 2) 0 rest with
      | some (body, rest) => do
        let (pieces, _) ← readPieces steps .document body
        .ok ([.arithmetic pieces quoted], rest)
      | none => .error .parentheses
    | '(' :: rest =>
      match closeParenthesis (2 * rest.length + 2) [0] true rest with
      | some (script, rest) => .ok ([.printed script quoted], rest)
      | none => .error .parenthesis
    | '\x7b' :: rest => readBraces steps quoted rest
    | _ =>
      let name := leadingName rest
      let name := if name.head?.any Char.isDigit then name.take 1 else name
      if name.isEmpty then .ok ([.text ['$'] quoted], rest)
      else .ok ([.parameter name .value quoted], rest.drop name.length)

def readBraces : (steps : Nat) → (quoted : Bool) → List Char → Except Missing (Word × List Char)
  | 0, _, _ => .error .quote
  | steps + 1, quoted, rest =>
    let counted := leadingName (rest.drop 1)
    if rest.head? = some '#' && !counted.isEmpty &&
        (rest.drop (1 + counted.length)).head? = some '\x7d'
    then .ok ([.parameter counted .length quoted], rest.drop (2 + counted.length))
    else
      let name := leadingName rest
      let after := rest.drop name.length
      let finish (use : Word → Use) (pattern : Bool) (rest : List Char) :
          Except Missing (Word × List Char) := do
        let (word, rest) ← readPieces steps (.braced quoted pattern) rest
        .ok ([.parameter name (use word) quoted], rest)
      if name.isEmpty then finish (fun _ => .unknown) false after
      else match after with
        | '\x7d' :: rest => .ok ([.parameter name .value quoted], rest)
        | ':' :: '-' :: rest => finish (.orDefault true) false rest
        | '-' :: rest => finish (.orDefault false) false rest
        | ':' :: '=' :: rest => finish (.orSet true) false rest
        | '=' :: rest => finish (.orSet false) false rest
        | ':' :: '?' :: rest => finish (.orFail true) false rest
        | '?' :: rest => finish (.orFail false) false rest
        | ':' :: '+' :: rest => finish (.orAlternative true) false rest
        | '+' :: rest => finish (.orAlternative false) false rest
        | '#' :: '#' :: rest => finish (.withoutStart true) true rest
        | '#' :: rest => finish (.withoutStart false) true rest
        | '%' :: '%' :: rest => finish (.withoutEnd true) true rest
        | '%' :: rest => finish (.withoutEnd false) true rest
        | rest => finish (fun _ => .unknown) false rest

end

def bareWord? : Word → Option (List Char)
  | [] => some []
  | .text chars false :: rest => (bareWord? rest).map (chars ++ ·)
  | _ => none

mutual

def Piece.scripts : Piece → List (List Char)
  | .text _ _ => []
  | .parameter _ use _ => use.scripts
  | .printed script _ => [script]
  | .arithmetic body _ => scriptsIn body

def Use.scripts : Use → List (List Char)
  | .value => []
  | .length => []
  | .orDefault _ word => scriptsIn word
  | .orSet _ word => scriptsIn word
  | .orFail _ word => scriptsIn word
  | .orAlternative _ word => scriptsIn word
  | .withoutStart _ word => scriptsIn word
  | .withoutEnd _ word => scriptsIn word
  | .unknown => []

def scriptsIn : List Piece → List (List Char)
  | [] => []
  | piece :: rest => piece.scripts ++ scriptsIn rest

end

end MacroScript.Shell
