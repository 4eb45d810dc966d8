import MacroScript.Shell.Token
import MacroScript.Table

/-! The commands of a shell, as they are read from tokens. -/

namespace MacroScript.Shell

/-- What a stream is connected to: a file that is read, written anew, overwritten whatever the
options say, added to or both read and written, another stream, or a document. -/
inductive Connection where
  | read
  | write
  | overwrite
  | append
  | readWrite
  | duplicate
  | document
  deriving DecidableEq

structure Redirect where
  stream : Nat
  connection : Connection
  target : Word

inductive Command where
  | nothing
  | simple (assignments : List (String × Word)) (words : List Word) (redirects : List Redirect)
  | redirected (body : Command) (redirects : List Redirect)
  | subshell (body : Command) (redirects : List Redirect)
  | negated (body : Command)
  | pipe (left right : Command)
  | both (left right : Command)
  | either (left right : Command)
  | sequence (left right : Command)
  | background (body : Command)
  | conditional (test yes no : Command)
  | loop (whileHolds : Bool) (test body : Command)
  | each (name : String) (words : List Word) (body : Command)
  | choice (subject : Word) (patterns : List Word) (body otherwise : Command)
  | function (name : String) (body : Command)

/-- The texts that stand for others where a command may start. -/
abbrev Aliases := Table String String

abbrev Parsed := Except String (Command × List Token)

def closers : List String :=
  [")", ";;", "\x7d", "then", "else", "elif", "fi", "do", "done", "esac"]

def Token.symbol? : Token → Option String
  | .operator symbol => some symbol
  | token => token.keyword?

/-- A list of commands may end before the token. -/
def Token.closes (token : Token) : Bool := token.symbol?.any closers.contains

def Token.title (token : Token) : String :=
  match token with
  | .newline => "newline"
  | .redirect .. => "redirection"
  | .document .. => "redirection"
  | .fault message => message
  | token =>
    match token.symbol? with
    | some symbol => "\"" ++ symbol ++ "\""
    | none => "word"

/-- Complains of the next token, where something else may have been expected. -/
def unexpected {α : Type} (tokens : List Token) (expected : String) : Except String α :=
  match tokens with
  | .fault message :: _ => .error message
  | _ =>
    let title := match tokens with
      | [] => "end of file"
      | token :: _ => token.title
    .error (title ++ " unexpected" ++
      if expected = "" then "" else " (expecting " ++ expected ++ ")")

/-- Takes a keyword or symbol that has to come next. -/
def expect (symbol : String) : List Token → Except String (List Token)
  | token :: rest =>
    if token.symbol? = some symbol then .ok rest
    else unexpected (token :: rest) ("\"" ++ symbol ++ "\"")
  | [] => unexpected [] ("\"" ++ symbol ++ "\"")

def skipLines : List Token → List Token
  | .newline :: rest => skipLines rest
  | tokens => tokens

def assignment? (word : Word) : Option (String × Word) :=
  let rec split : List Char → Word → Option (String × Word)
    | name, .text ['='] false :: rest =>
      if isName name.reverse then some (String.ofList name.reverse, rest) else none
    | name, .text [c] false :: rest => split (c :: name) rest
    | _, _ => none
  split [] word

def connectionOf (symbol : String) : Connection × Nat :=
  match symbol with
  | "<" => (.read, 0)
  | "<>" => (.readWrite, 0)
  | "<&" => (.duplicate, 0)
  | ">&" => (.duplicate, 1)
  | ">>" => (.append, 1)
  | ">|" => (.overwrite, 1)
  | _ => (.write, 1)

/-- The redirection at the start of some tokens, if there is one. -/
def readRedirect? (tokens : List Token) : Except String (Option (Redirect × List Token)) :=
  match tokens with
  | .document stream body :: rest => .ok (some (⟨stream.getD 0, .document, body⟩, rest))
  | .redirect stream symbol :: .word target :: rest =>
    let (connection, usual) := connectionOf symbol
    .ok (some (⟨stream.getD usual, connection, target⟩, rest))
  | .redirect .. :: rest => unexpected rest ""
  | _ => .ok none

def readRedirects : (steps : Nat) → List Token → Except String (List Redirect × List Token)
  | 0, tokens => .ok ([], tokens)
  | steps + 1, tokens => do
    match ← readRedirect? tokens with
    | none => .ok ([], tokens)
    | some (redirect, rest) =>
      let (redirects, rest) ← readRedirects steps rest
      .ok (redirect :: redirects, rest)

def withRedirects (command : Command) (rest : List Token) : Parsed := do
  let (redirects, rest) ← readRedirects rest.length rest
  match redirects, command with
  | [], _ => .ok (command, rest)
  | _, .subshell body _ => .ok (.subshell body redirects, rest)
  | _, _ => .ok (.redirected command redirects, rest)

structure Parts where
  assignments : List (String × Word) := []
  words : List Word := []
  redirects : List Redirect := []

def readParts : (steps : Nat) → Parts → List Token → Except String (Parts × List Token)
  | 0, parts, tokens => .ok (parts, tokens)
  | steps + 1, parts, tokens => do
    match ← readRedirect? tokens with
    | some (redirect, rest) =>
      readParts steps { parts with redirects := parts.redirects ++ [redirect] } rest
    | none =>
      match tokens with
      | .word word :: rest =>
        match parts.words, assignment? word with
        | [], some assignment =>
          readParts steps { parts with assignments := parts.assignments ++ [assignment] } rest
        | words, _ => readParts steps { parts with words := words ++ [word] } rest
      | _ => .ok (parts, tokens)

def readWords : List Token → List Word × List Token
  | .word word :: rest =>
    let (words, rest) := readWords rest
    (word :: words, rest)
  | tokens => ([], tokens)

/-- The patterns of a choice, with a bar between neighbours, up to the parenthesis that closes
them. -/
def readPatterns : List Token → Except String (List Word × List Token)
  | .word word :: .operator "|" :: rest => do
    let (words, rest) ← readPatterns rest
    .ok (word :: words, rest)
  | .word word :: rest => do .ok ([word], ← expect ")" rest)
  | tokens => unexpected tokens "\")\""

/-- The tokens with an alias at their start replaced by what it stands for, and that again; no alias
is replaced within its own text. After a text that ends in a blank the next word may be an alias
too. -/
def replaceAliases (aliases : Aliases) : (steps : Nat) → (used : List String) →
    List Token → List Token
  | 0, _, tokens => tokens
  | _ + 1, _, [] => []
  | steps + 1, used, token :: rest =>
    match token.bare? with
    | none => token :: rest
    | some name =>
      if used.contains name then token :: rest
      else match aliases.get? name with
        | none => token :: rest
        | some text =>
          let rest := if text.endsWith " " then replaceAliases aliases steps [] rest else rest
          replaceAliases aliases steps (name :: used) (scan text.toList ++ rest)

/-- Where a list of commands stands: on a line, which ends it; between words, where it cannot be
empty; or where it can. -/
inductive Place where
  | line
  | required
  | optional
  deriving DecidableEq

def specialNames : List String :=
  [".", ":", "break", "continue", "eval", "exec", "exit", "export", "local", "readonly", "return",
    "set", "shift", "times", "trap", "unset"]

/-- One command after another, of which the first may be missing. -/
def Command.followedBy : Command → Command → Command
  | .nothing, next => next
  | first, next => .sequence first next

mutual

/-- Commands one after another; `before` are those that have been read. -/
def readList : (steps : Nat) → Aliases → Place → (before : Command) → List Token → Parsed
  | 0, _, _, _, tokens => unexpected tokens ""
  | steps + 1, aliases, place, before, tokens => do
    let tokens := if place = .line then tokens else skipLines tokens
    match tokens with
    | [] => .ok (before, [])
    | .newline :: rest => .ok (before, rest)
    | token :: _ =>
      if place = .optional && token.closes then .ok (before, tokens)
      else do
        let (command, rest) ← readChain steps aliases tokens
        let next := if place = .required then .optional else place
        match rest with
        | .operator "&" :: rest =>
          readList steps aliases next (before.followedBy (.background command)) rest
        | .operator ";" :: rest => readList steps aliases next (before.followedBy command) rest
        | .newline :: _ => readList steps aliases next (before.followedBy command) rest
        | [] => .ok (before.followedBy command, [])
        | _ => if place = .line then unexpected rest "" else .ok (before.followedBy command, rest)

def readChain : (steps : Nat) → Aliases → List Token → Parsed
  | 0, _, tokens => unexpected tokens ""
  | steps + 1, aliases, tokens => do
    let (first, rest) ← readPipeline steps aliases tokens
    extendChain steps aliases first rest

def extendChain : (steps : Nat) → Aliases → Command → List Token → Parsed
  | 0, _, _, tokens => unexpected tokens ""
  | steps + 1, aliases, first, .operator "&&" :: rest => do
    let (next, rest) ← readPipeline steps aliases (skipLines rest)
    extendChain steps aliases (.both first next) rest
  | steps + 1, aliases, first, .operator "||" :: rest => do
    let (next, rest) ← readPipeline steps aliases (skipLines rest)
    extendChain steps aliases (.either first next) rest
  | _ + 1, _, first, tokens => .ok (first, tokens)

/-- Commands that hand what they print to the next; an exclamation mark before them turns the
status around. -/
def readPipeline : (steps : Nat) → Aliases → List Token → Parsed
  | 0, _, tokens => unexpected tokens ""
  | steps + 1, aliases, tokens =>
    match tokens with
    | token :: rest =>
      if token.keyword? = some "!" then do
        let (command, rest) ← readPiped steps aliases rest
        .ok (.negated command, rest)
      else readPiped steps aliases tokens
    | [] => readPiped steps aliases tokens

def readPiped : (steps : Nat) → Aliases → List Token → Parsed
  | 0, _, tokens => unexpected tokens ""
  | steps + 1, aliases, tokens => do
    let (first, rest) ← readCommand steps aliases
      (replaceAliases aliases (aliases.entries.length + 1) [] tokens)
    match rest with
    | .operator "|" :: rest => do
      let (next, rest) ← readPiped steps aliases (skipLines rest)
      .ok (.pipe first next, rest)
    | _ => .ok (first, rest)

def readCommand : (steps : Nat) → Aliases → List Token → Parsed
  | 0, _, tokens => unexpected tokens ""
  | steps + 1, aliases, tokens =>
    match tokens with
    | [] => unexpected [] ""
    | token :: rest =>
      match token.symbol? with
      | some "(" => do
        let (body, rest) ← readList steps aliases .required .nothing rest
        withRedirects (.subshell body []) (← expect ")" rest)
      | some "\x7b" => do
        let (body, rest) ← readList steps aliases .required .nothing rest
        withRedirects body (← expect "\x7d" rest)
      | some "if" => do
        let (command, rest) ← readConditional steps aliases rest
        withRedirects command rest
      | some "while" => readLoop steps aliases true rest
      | some "until" => readLoop steps aliases false rest
      | some "for" => readEach steps aliases rest
      | some "case" =>
        match rest with
        | .word subject :: rest => do
          let rest ← expect "in" (skipLines rest)
          let (command, rest) ← readChoices steps aliases subject (skipLines rest)
          withRedirects command rest
        | _ => unexpected rest "word"
      | some _ => unexpected tokens ""
      | none =>
        match token with
        | .newline => unexpected tokens ""
        | .fault _ => unexpected tokens ""
        | _ => readSimple steps aliases tokens

def readSimple : (steps : Nat) → Aliases → List Token → Parsed
  | 0, _, tokens => unexpected tokens ""
  | steps + 1, aliases, tokens => do
    let (parts, rest) ← readParts tokens.length {} tokens
    match parts, rest with
    | ⟨[], [word], []⟩, .operator "(" :: rest => do
      let rest ← (match rest with
        | .word _ :: _ => .error "word unexpected (expecting \")\")"
        | _ => expect ")" rest)
      match bareWord? word with
      | some name =>
        if isName name && !specialNames.contains (String.ofList name) then do
          let (body, rest) ← readCommand steps aliases (skipLines rest)
          .ok (.function (String.ofList name) body, rest)
        else .error "Bad function name"
      | none => .error "Bad function name"
    | _, .fault message :: _ => .error message
    | _, _ => .ok (.simple parts.assignments parts.words parts.redirects, rest)

/-- What follows `if` or `elif`. -/
def readConditional : (steps : Nat) → Aliases → List Token → Parsed
  | 0, _, tokens => unexpected tokens ""
  | steps + 1, aliases, tokens => do
    let (test, rest) ← readList steps aliases .required .nothing tokens
    let (yes, rest) ← readList steps aliases .required .nothing (← expect "then" rest)
    match rest with
    | token :: rest' =>
      match token.keyword? with
      | some "else" => do
        let (no, rest) ← readList steps aliases .required .nothing rest'
        .ok (.conditional test yes no, ← expect "fi" rest)
      | some "elif" => do
        let (no, rest) ← readConditional steps aliases rest'
        .ok (.conditional test yes no, rest)
      | _ => .ok (.conditional test yes .nothing, ← expect "fi" rest)
    | [] => unexpected [] "\"fi\""

def readChoices : (steps : Nat) → Aliases → (subject : Word) → List Token → Parsed
  | 0, _, _, tokens => unexpected tokens ""
  | steps + 1, aliases, subject, tokens =>
    if tokens.head?.any fun token => token.keyword? = some "esac" then .ok (.nothing, tokens.tail)
    else do
      let tokens := match tokens with
        | .operator "(" :: rest => rest
        | _ => tokens
      let (patterns, rest) ← readPatterns tokens
      let (body, rest) ← readList steps aliases .optional .nothing rest
      let rest := skipLines rest
      if rest.head?.any fun token => token.keyword? = some "esac" then
        .ok (.choice subject patterns body .nothing, rest.tail)
      else do
        let rest ← expect ";;" rest
        let (otherwise, rest) ← readChoices steps aliases subject (skipLines rest)
        .ok (.choice subject patterns body otherwise, rest)

/-- What follows `while` or `until`. -/
def readLoop : (steps : Nat) → Aliases → (whileHolds : Bool) → List Token → Parsed
  | 0, _, _, tokens => unexpected tokens ""
  | steps + 1, aliases, whileHolds, tokens => do
    let (test, rest) ← readList steps aliases .required .nothing tokens
    let (body, rest) ← readList steps aliases .required .nothing (← expect "do" rest)
    withRedirects (.loop whileHolds test body) (← expect "done" rest)

def readEach : (steps : Nat) → Aliases → List Token → Parsed
  | 0, _, tokens => unexpected tokens ""
  | steps + 1, aliases, tokens => do
    let (name, rest) ← (match tokens with
      | .fault message :: _ => .error message
      | token :: rest =>
        match token.bare?.filter (isName ·.toList) with
        | some name => .ok (name, rest)
        | none => .error "Bad for loop variable"
      | [] => .error "Bad for loop variable")
    let rest := skipLines rest
    let (words, rest) ← (match rest with
      | .operator ";" :: rest => .ok ([[.parameter ['@'] .value true]], rest)
      | token :: after =>
        if token.keyword? = some "in" then
          match readWords after with
          | (words, .operator ";" :: rest) => .ok (words, rest)
          | (words, .newline :: rest) => .ok (words, rest)
          | (_, rest) => unexpected rest ""
        else .ok ([[.parameter ['@'] .value true]], rest)
      | [] => .ok ([], []))
    let rest ← expect "do" (skipLines rest)
    let (body, rest) ← readList steps aliases .required .nothing rest
    withRedirects (.each name words body) (← expect "done" rest)

end

def nestingBound : Nat := 100000

def Token.scripts : Token → List (List Char)
  | .word pieces => scriptsIn pieces
  | .document _ body => scriptsIn body
  | _ => []

mutual

/-- The commands on the first line of some tokens, and the tokens after it. The commands in its
words are checked too. -/
def readLine : (steps : Nat) → Aliases → List Token → Parsed
  | 0, _, tokens => unexpected tokens ""
  | steps + 1, aliases, tokens => do
    let (command, rest) ← readList nestingBound aliases .line .nothing tokens
    let taken := tokens.take (tokens.length - rest.length)
    checkScripts steps aliases (taken.flatMap Token.scripts)
    .ok (command, rest)

def checkScripts : (steps : Nat) → Aliases → List (List Char) → Except String Unit
  | 0, _, _ => .ok ()
  | _ + 1, _, [] => .ok ()
  | steps + 1, aliases, script :: more => do
    checkLines steps aliases (scan script)
    checkScripts steps aliases more

def checkLines : (steps : Nat) → Aliases → List Token → Except String Unit
  | 0, _, _ => .ok ()
  | _ + 1, _, [] => .ok ()
  | steps + 1, aliases, tokens => do
    let (_, rest) ← readLine steps aliases tokens
    checkLines steps aliases rest

end

end MacroScript.Shell
