import MacroScript.Shell.Expression
import MacroScript.Shell.Field
import MacroScript.Shell.Process

/-! What words stand for. A word in a command may give any number of arguments; elsewhere it stands
for a single text or pattern. -/

namespace MacroScript.Shell

def parameterNumber (name : String) : Act Int := do
  match (← Act.frame).parameter? name with
  | none => return 0
  | some value =>
    let reading := Reading.ofText true value.toList
    if value.toList.all isSpace then return 0
    else if reading.isMissing || !reading.rest.all isSpace then
      Act.fail ("Illegal number: " ++ value)
    else return reading.clamped

def failExpression {α : Type} (text reason : String) : Act α :=
  Act.fail ("arithmetic expression: " ++ reason ++ ": \"" ++ text ++ "\"")

def applyOperation (text : String) (operation : Operation) (a b : Int) : Act Int :=
  match operation.apply? a b with
  | some n => pure n
  | none => failExpression text "division by zero"

def evaluateExpression (text : String) : Expression → Act Int
  | .number n => pure n
  | .parameter name => parameterNumber name
  | .negative body => do return wrapped (-(← evaluateExpression text body))
  | .isZero body => do return truth ((← evaluateExpression text body) = 0)
  | .complement body => do return -(← evaluateExpression text body) - 1
  | .binary operation left right => do
    let a ← evaluateExpression text left
    let b ← evaluateExpression text right
    applyOperation text operation a b
  | .both left right => do
    if (← evaluateExpression text left) = 0 then return 0
    return truth ((← evaluateExpression text right) ≠ 0)
  | .either left right => do
    if (← evaluateExpression text left) ≠ 0 then return 1
    return truth ((← evaluateExpression text right) ≠ 0)
  | .choose test yes no => do
    if (← evaluateExpression text test) ≠ 0 then evaluateExpression text yes
    else evaluateExpression text no
  | .assign name operation value => do
    let n ← evaluateExpression text value
    let n ← match operation with
      | none => pure n
      | some operation => do applyOperation text operation (← parameterNumber name) n
    Act.setParameter name (integerText n)
    return n

def arithmeticValue (text : String) : Act Int :=
  match Expression.ofText text.toList with
  | .ok expression => evaluateExpression text expression
  | .error reason => failExpression text reason

/-- What a value gives in a word: unless it is quoted, it may be divided. -/
def valueAtoms (quoted : Bool) (value : String) : List Atom :=
  if quoted then .mark :: value.toList.map fun c => .glyph ⟨c, true⟩ false
  else value.toList.map fun c => .glyph ⟨c, false⟩ true

def separated : List (List Atom) → List Atom
  | [] => []
  | [part] => part
  | part :: next :: rest => part ++ .boundary :: separated (next :: rest)

/-- How the pieces of a word are taken: whether it may give several fields, and whether text that is
not quoted may be divided. -/
structure Taking where
  fields : Bool
  divides : Bool := false

def isPositionalList (name : String) : Bool := name = "@" || name = "*"

def setParameterAtoms (frame : Frame) (taking : Taking) (quoted : Bool) (name value : String) :
    List Atom :=
  if isPositionalList name && taking.fields && !(quoted && name = "*") then
    separated (frame.positional.map (valueAtoms quoted))
  else valueAtoms quoted value

/-- The value of a parameter that counts as set. -/
def valueSet? (emptyCounts : Bool) (value : Option String) : Option String :=
  value.filter fun v => !(emptyCounts && v.isEmpty)

/-- The value of a parameter; one that is not set has none, and may not be asked for under an
option. -/
def demanded (name : String) : Act String := do
  let frame ← Act.frame
  match frame.parameter? name with
  | some value => return value
  | none =>
    if frame.has 'u' then Act.fail (name ++ ": parameter not set") else return ""

def substitute (inner : Inner) (script : List Char) : Act String := do
  let status := (← Act.frame).status
  let text ← printedBy inner false (runScript inner false (String.ofList script))
  Act.changeFrame fun frame => { frame with status, substituted := frame.status }
  return String.ofList (((text.toList.filter (· ≠ '\x00')).reverse.dropWhile (· = '\n')).reverse)

mutual

def expandPiece (inner : Inner) (taking : Taking) : Piece → Act (List Atom)
  | .text chars quoted =>
    return if quoted then .mark :: chars.map fun c => .glyph ⟨c, true⟩ false
      else chars.map fun c => .glyph ⟨c, false⟩ taking.divides
  | .parameter name use quoted => expandUse inner taking (String.ofList name) quoted use
  | .printed script quoted => do return valueAtoms quoted (← substitute inner script)
  | .arithmetic body quoted => do
    let text := glyphText (joinedAtoms (← expandPieces inner ⟨false, false⟩ body))
    return valueAtoms quoted (integerText (← arithmeticValue text))

def expandUse (inner : Inner) (taking : Taking) (name : String) (quoted : Bool) :
    Use → Act (List Atom)
  | .value => do
    let value ← demanded name
    return setParameterAtoms (← Act.frame) taking quoted name value
  | .length => do
    let value ← demanded name
    return valueAtoms quoted (Text.decimal value.length)
  | .orDefault emptyCounts word => do
    match valueSet? emptyCounts ((← Act.frame).parameter? name) with
    | some value => return setParameterAtoms (← Act.frame) taking quoted name value
    | none => expandPieces inner ⟨taking.fields, !quoted⟩ word
  | .orSet emptyCounts word => do
    match valueSet? emptyCounts ((← Act.frame).parameter? name) with
    | some value => return setParameterAtoms (← Act.frame) taking quoted name value
    | none =>
      let value := glyphText (joinedAtoms (← expandPieces inner ⟨false, false⟩ word))
      if !isName name.toList then Act.fail (name ++ ": bad variable name")
      Act.setParameter name value
      return valueAtoms quoted value
  | .orFail emptyCounts word => do
    match valueSet? emptyCounts ((← Act.frame).parameter? name) with
    | some value => return setParameterAtoms (← Act.frame) taking quoted name value
    | none =>
      let reason := glyphText (joinedAtoms (← expandPieces inner ⟨false, false⟩ word))
      let usual := if emptyCounts then "parameter not set or null" else "parameter not set"
      Act.fail (name ++ ": " ++ if reason.isEmpty then usual else reason)
  | .orAlternative emptyCounts word => do
    match valueSet? emptyCounts ((← Act.frame).parameter? name) with
    | some _ => expandPieces inner ⟨taking.fields, !quoted⟩ word
    | none => return []
  | .withoutStart longest pattern => do
    let value ← demanded name
    let glyphs := joinedAtoms (← expandPieces inner ⟨false, false⟩ pattern)
    return valueAtoms quoted (String.ofList (withoutStart longest (wildsOf glyphs) value.toList))
  | .withoutEnd longest pattern => do
    let value ← demanded name
    let glyphs := joinedAtoms (← expandPieces inner ⟨false, false⟩ pattern)
    return valueAtoms quoted (String.ofList (withoutEnd longest (wildsOf glyphs) value.toList))
  | .unknown => Act.fail "Bad substitution"

def expandPieces (inner : Inner) (taking : Taking) : List Piece → Act (List Atom)
  | [] => return []
  | piece :: rest => do
    let first ← expandPiece inner taking piece
    return first ++ (← expandPieces inner taking rest)

end

def homeOf? (frame : Frame) (name : String) : Option String :=
  if name = "" then frame.parameters.get? "HOME"
  else if name = "root" then some "/root"
  else none

/-- The characters at the start of a word that are not quoted. -/
def bareStart : Word → List Char
  | .text [c] false :: rest => c :: bareStart rest
  | _ => []

/-- The word with the tilde at its start replaced; in an assignment also those after a colon. -/
def replaceTildes (frame : Frame) (inAssignment : Bool) : (steps : Nat) → (atStart : Bool) →
    Word → Word
  | 0, _, word => word
  | _ + 1, _, [] => []
  | steps + 1, atStart, piece :: rest =>
    let ends (c : Char) : Bool := c = '/' || (inAssignment && c = ':')
    let after (word : Word) : Word :=
      if inAssignment then replaceTildes frame inAssignment steps false word else word
    match piece with
    | .text ['~'] false =>
      let bare := bareStart rest
      let name := bare.takeWhile fun c => !ends c
      let isWhole := (bare.drop name.length).head?.isSome || bare.length = rest.length
      match atStart && isWhole, homeOf? frame (String.ofList name) with
      | true, some home => .text home.toList true :: after (rest.drop name.length)
      | _, _ => piece :: after rest
    | .text [':'] false =>
      if inAssignment then piece :: replaceTildes frame inAssignment steps true rest
      else piece :: rest
    | _ => piece :: after rest

def withHomes (frame : Frame) (inAssignment : Bool) (word : Word) : Word :=
  replaceTildes frame inAssignment (word.length + 1) true word

def expandText (inner : Inner) (inAssignment : Bool) (word : Word) : Act String := do
  let word := withHomes (← Act.frame) inAssignment word
  return glyphText (joinedAtoms (← expandPieces inner ⟨false, false⟩ word))

def expandPattern (inner : Inner) (word : Word) : Act (List Wild) := do
  let word := withHomes (← Act.frame) false word
  return wildsOf (joinedAtoms (← expandPieces inner ⟨false, false⟩ word))

def namesIn (written : Written) (directory : String) : List String :=
  let inside := written.allPaths.filter fun path => path ≠ "/" && parentOf path = directory
  sorted (Text.distinct (inside.map lastPart))

/-- The paths that a pattern stands for, part by part; `before` is the path so far. -/
def matchingPaths (written : Written) (directory : String) : (before : String) → List (List Glyph) →
    List String
  | before, [] => [before]
  | before, part :: rest =>
    let slash := if rest.isEmpty then "" else "/"
    let pattern := wildsOf part
    if isWild pattern then
      let place := resolve directory before
      let found := (namesIn written place).filter fun name =>
        fitsPart pattern name.toList && (rest.isEmpty || written.isDirectory (resolve place name))
      found.flatMap fun name => matchingPaths written directory (before ++ name ++ slash) rest
    else
      let path := before ++ glyphText part ++ slash
      if rest.isEmpty && !written.exists? (resolve directory path) then []
      else matchingPaths written directory path rest

/-- The arguments that a field gives: the files whose paths it matches, or itself. -/
def fileArguments (frame : Frame) (written : Written) (field : List Glyph) : List String :=
  if frame.has 'f' || !isWild (wildsOf field) then [glyphText field]
  else match matchingPaths written frame.directory "" (patternParts field) with
    | [] => [glyphText field]
    | paths => paths

def expandWord (inner : Inner) (word : Word) : Act (List String) := do
  let word := withHomes (← Act.frame) false word
  let atoms ← expandPieces inner ⟨true, false⟩ word
  let frame ← Act.frame
  let written := (← Act.world).written
  return (fieldsOf frame.separators atoms).flatMap (fileArguments frame written)

def expandWords (inner : Inner) : List Word → Act (List String)
  | [] => return []
  | word :: rest => do
    let first ← expandWord inner word
    return first ++ (← expandWords inner rest)

/-- Connects a stream to what a path names; fails when there is no such thing. -/
def connectRead (stream : Nat) (target : String) : Act Bool := do
  let frame ← Act.frame
  let written := (← Act.world).written
  let path := resolve frame.directory target
  let join (connection : Stream) : Act Bool := do
    Act.changeFrame fun frame => { frame with streams := frame.streams.set stream connection }
    return true
  match written.files.get? path with
  | some text => do join (.source (← Act.newSource text.toList))
  | none =>
    if path = "/dev/null" then join .discard
    else if path = "/dev/stdin" then join ((frame.streams.get? 0).getD .discard)
    else if path = "/dev/zero" then do
      join (.source (← Act.newSource (List.replicate 65536 '\x00')))
    else if target ≠ "" && written.isDirectory path then join .discard
    else do
      Act.complain ("cannot open " ++ target ++ ": No such file")
      return false

def streamOfPath? (path : String) : Option Nat :=
  match path with
  | "/dev/stdin" => some 0
  | "/dev/stdout" => some 1
  | "/dev/stderr" => some 2
  | _ =>
    match Text.after? "/dev/fd/".toList path.toList with
    | some digits => Text.digits? digits
    | none => none

/-- Connects a stream to a file that is written; fails when there cannot be one. -/
def connectWrite (stream : Nat) (connection : Connection) (target : String) : Act Bool := do
  let frame ← Act.frame
  let written := (← Act.world).written
  let path := resolve frame.directory target
  let join (connection : Stream) : Act Bool := do
    Act.changeFrame fun frame => { frame with streams := frame.streams.set stream connection }
    return true
  let refuse (reason : String) : Act Bool := do
    Act.complain ("cannot create " ++ target ++ ": " ++ reason)
    return false
  if path = "/dev/null" || path = "/dev/zero" then join .discard
  else if path = "/dev/full" then join .full
  else match (streamOfPath? path).bind frame.streams.get? with
    | some known => join known
    | none =>
      if target = "" then refuse "Directory nonexistent"
      else if written.isDirectory path || target.endsWith "/" then refuse "Is a directory"
      else if written.isFile (parentOf path) then refuse "Not a directory"
      else if !written.isDirectory (parentOf path) then refuse "Directory nonexistent"
      else if connection = .write && frame.has 'C' && written.isFile path then refuse "File exists"
      else do
        let before := if connection = .append || connection = .readWrite then
          (written.files.get? path).getD "" else ""
        Act.changeWorld fun world =>
          { world with written.files := world.written.files.set path before }
        join (.file path)

def connectDuplicate (stream : Nat) (target : String) : Act Bool := do
  let streams := (← Act.frame).streams
  if target = "-" then do
    Act.changeFrame fun frame => { frame with streams := frame.streams.erase stream }
    return true
  else match target.toList with
    | [d] =>
      if d.isDigit then
        match streams.get? (d.toNat - '0'.toNat) with
        | some connection => do
          Act.changeFrame fun frame => { frame with streams := frame.streams.set stream connection }
          return true
        | none => do
          Act.complain (target ++ ": Bad file descriptor")
          return false
      else Act.fail "Syntax error: Bad fd number"
    | _ => Act.fail "Syntax error: Bad fd number"

/-- Makes connections in order; fails at the first that cannot be made. -/
def connectAll (inner : Inner) : List Redirect → Act Bool
  | [] => return true
  | redirect :: rest => do
    let target ← expandText inner false redirect.target
    let stream := redirect.stream
    let made ← match redirect.connection with
      | .read => connectRead stream target
      | .duplicate => connectDuplicate stream target
      | .document => do
        let number ← Act.newSource target.toList
        Act.changeFrame fun frame =>
          { frame with streams := frame.streams.set stream (.source number) }
        return true
      | connection => connectWrite stream connection target
    if made then connectAll inner rest else return false

end MacroScript.Shell
