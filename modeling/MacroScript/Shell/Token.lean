import MacroScript.Shell.Word

/-! The tokens of shell commands. A text always has tokens: where it cannot be divided any further,
the last token says why, so that the commands before it can still be carried out. -/

namespace MacroScript.Shell

/-- A part of a command line. A redirection may name the stream that it connects. -/
inductive Token where
  | word (pieces : Word)
  | operator (symbol : String)
  | newline
  | redirect (stream : Option Nat) (symbol : String)
  | document (stream : Option Nat) (body : Word)
  | fault (message : String)

/-- The words with a meaning of their own where a command may start. -/
def keywords : List String :=
  ["!", "case", "do", "done", "elif", "else", "esac", "fi", "for", "if", "in", "then", "until",
    "while", "\x7b", "\x7d"]

def Token.bare? : Token → Option String
  | .word pieces => (bareWord? pieces).map String.ofList
  | _ => none

def Token.keyword? (token : Token) : Option String := token.bare?.filter keywords.contains

/-- A document that is to follow on the next lines: the line that ends it, whether tabs at the start
of its lines are dropped, and whether it is taken as it is. -/
structure Awaited where
  terminator : List Char
  dropsTabs : Bool
  isLiteral : Bool

def Awaited.take (awaited : Awaited) : (steps : Nat) → List Char → List Char × List Char
  | 0, text => ([], text)
  | _ + 1, [] => ([], [])
  | steps + 1, text =>
    let whole := text.takeWhile (· ≠ '\n')
    let rest := text.drop whole.length
    let line := if awaited.dropsTabs then whole.dropWhile (· = '\t') else whole
    if line = awaited.terminator then ([], rest.drop 1)
    else
      let (lines, after) := awaited.take steps (rest.drop 1)
      (line ++ rest.take 1 ++ lines, after)

def Awaited.body (awaited : Awaited) (text : List Char) : Word × List Char :=
  let (lines, rest) := awaited.take text.length text
  if awaited.isLiteral then ([.text lines true], rest)
  else match readPieces (4 * lines.length + 4) .document lines with
    | .ok (pieces, _) => (pieces, rest)
    | .error _ => ([.text lines true], rest)

def takeDocuments : List Awaited → List Char → List Word × List Char
  | [], text => ([], text)
  | awaited :: more, text =>
    let (body, text) := awaited.body text
    let (bodies, text) := takeDocuments more text
    (body :: bodies, text)

/-- The operators, of which one that starts with another comes before it. -/
def operators : List String := ["&&", "||", ";;", "&", "|", ";", "(", ")"]

/-- The operators of redirections, of which one that starts with another comes before it. -/
def redirections : List String := ["<<-", "<<", "<&", "<>", "<", ">>", ">&", ">|", ">"]

def leadingSymbol? (symbols : List String) (text : List Char) : Option (String × List Char) :=
  symbols.findSome? fun symbol => (Text.after? symbol.toList text).map fun rest => (symbol, rest)

/-- The redirection at the start of a text: the stream, the symbol and the text after them. -/
def leadingRedirection? (text : List Char) : Option (Option Nat × String × List Char) :=
  match text with
  | d :: c :: rest =>
    if d.isDigit && (c = '<' || c = '>') then
      (leadingSymbol? redirections (c :: rest)).map fun (symbol, rest) =>
        (some (d.toNat - '0'.toNat), symbol, rest)
    else (leadingSymbol? redirections text).map fun (symbol, rest) => (none, symbol, rest)
  | _ => (leadingSymbol? redirections text).map fun (symbol, rest) => (none, symbol, rest)

def withoutQuotes : List Char → List Char
  | [] => []
  | '\\' :: c :: rest => c :: withoutQuotes rest
  | c :: rest => if c = '\x27' || c = '\x22' then withoutQuotes rest else c :: withoutQuotes rest

def scanFrom : (steps : Nat) → List Awaited → List Char → List Token × List Word
  | 0, _, _ => ([.fault "out of memory"], [])
  | _ + 1, awaited, [] => ([], awaited.map fun _ => [])
  | steps + 1, awaited, c :: rest =>
    if c = ' ' || c = '\t' then scanFrom steps awaited rest
    else if c = '\\' && rest.head? = some '\n' then scanFrom steps awaited (rest.drop 1)
    else if c = '\n' then
      let (bodies, rest) := takeDocuments awaited rest
      (.newline :: (scanFrom steps [] rest).1, bodies)
    else if c = '#' then scanFrom steps awaited (rest.dropWhile (· ≠ '\n'))
    else match leadingRedirection? (c :: rest) with
      | some (stream, symbol, rest) =>
        let rest := rest.dropWhile fun c => c = ' ' || c = '\t'
        match symbol.startsWith "<<", passWord (2 * rest.length + 2) endsWord rest with
        | true, some (word@(_ :: _), rest) =>
          let wanted : Awaited := {
            terminator := withoutQuotes word
            dropsTabs := symbol = "<<-"
            isLiteral := word.any fun c => c = '\\' || c = '\x27' || c = '\x22' }
          let (tokens, bodies) := scanFrom steps (awaited ++ [wanted]) rest
          (.document stream (bodies.getLastD []) :: tokens, bodies.dropLast)
        | _, _ =>
          let (tokens, bodies) := scanFrom steps awaited rest
          (.redirect stream symbol :: tokens, bodies)
      | none =>
        match leadingSymbol? operators (c :: rest) with
        | some (symbol, rest) =>
          let (tokens, bodies) := scanFrom steps awaited rest
          (.operator symbol :: tokens, bodies)
        | none =>
          match readPieces (4 * rest.length + 8) .plain (c :: rest) with
          | .ok (pieces, rest) =>
            let (tokens, bodies) := scanFrom steps awaited rest
            (.word pieces :: tokens, bodies)
          | .error missing => ([.fault missing.message], awaited.map fun _ => [])

def scan (text : List Char) : List Token := (scanFrom (text.length + 1) [] text).1

end MacroScript.Shell
