import MacroScript.Shell.Wild
import MacroScript.Text.Scan

/-! Regular expressions for searching lines, in the basic and the extended form. Of the matches that
start at the same place the longest counts. -/

namespace MacroScript.Shell

/-- A regular expression. Groups are numbered from one in the order in which they open. -/
inductive Regex where
  | empty
  | one (member : Member)
  | oneOf (negated : Bool) (members : List Member)
  | start
  | finish
  | group (number : Nat) (body : Regex)
  | again (number : Nat)
  | sequence (first second : Regex)
  | either (first second : Regex)
  | repeated (body : Regex) (least : Nat) (most : Option Nat)

/-- A place in a text: what is before it, newest first, what is after it, and the groups that have
matched. -/
structure Spot where
  before : List Char := []
  after : List Char
  groups : List (Nat × List Char) := []

namespace Spot

/-- The place after the next character, if that is as it should be. -/
def step? (spot : Spot) (holds : Char → Bool) : Option Spot :=
  match spot.after with
  | c :: rest =>
    if holds c then some { spot with before := c :: spot.before, after := rest } else none
  | [] => none

def upTo (spot later : Spot) : List Char := spot.after.take (spot.after.length - later.after.length)

end Spot

/-- The places to which a match may lead. With `fold` small and capital letters are the same. -/
def Regex.spots (fold : Bool) : (steps : Nat) → Regex → Spot → List Spot
  | 0, _, _ => []
  | steps + 1, regex, spot =>
    match regex with
    | .empty => [spot]
    | .one member => (spot.step? (agrees [member])).toList
    | .oneOf negated members => (spot.step? fun c => agrees members c != negated).toList
    | .start => if spot.before.isEmpty then [spot] else []
    | .finish => if spot.after.isEmpty then [spot] else []
    | .group number body =>
      (body.spots fold steps spot).map fun later =>
        { later with groups := (number, spot.upTo later) :: later.groups }
    | .again number =>
      match spot.groups.lookup number with
      | none => []
      | some text =>
        match Text.after? text spot.after with
        | some rest => [{ spot with before := text.reverse ++ spot.before, after := rest }]
        | none => []
    | .sequence first second => (first.spots fold steps spot).flatMap (second.spots fold steps)
    | .either first second => first.spots fold steps spot ++ second.spots fold steps spot
    | .repeated body least most =>
      let more := if most = some 0 then [] else
        (body.spots fold steps spot).flatMap fun later =>
          if later.after.length = spot.after.length && least = 0 then []
          else (Regex.repeated body (least - 1) (most.map (· - 1))).spots fold steps later
      if least = 0 then more ++ [spot] else more
where
  /-- One of some members has the character. -/
  agrees (members : List Member) (c : Char) : Bool :=
    members.any fun member =>
      member.has c || (fold && (member.has c.toLower || member.has c.toUpper))

def Regex.longest? (fold : Bool) (regex : Regex) (spot : Spot) : Option Spot :=
  (regex.spots fold 10000 { spot with groups := [] }).foldl (fun best spot =>
    match best with
    | some found => if spot.after.length < found.after.length then some spot else best
    | none => some spot) none

/-- The first match at or after a place: where it starts and where it ends. -/
def Regex.search? (fold : Bool) (regex : Regex) : (steps : Nat) → Spot → Option (Spot × Spot)
  | 0, _ => none
  | steps + 1, spot =>
    match regex.longest? fold spot with
    | some later => some (spot, later)
    | none =>
      match spot.step? fun _ => true with
      | some next => regex.search? fold steps next
      | none => none

def Regex.find? (fold : Bool) (regex : Regex) (text : List Char) : Option (Spot × Spot) :=
  regex.search? fold (text.length + 1) { after := text }

/-- What was read of an expression: it, the text after it, and how many groups have been opened. -/
abbrev RegexRead := Option (Regex × List Char × Nat)

def readBracket? (text : List Char) : Option (Regex × List Char) :=
  let (negated, body) := match text with
    | '^' :: rest => (true, rest)
    | rest => (false, rest)
  let glyphs := body.map fun c => (⟨c, false⟩ : Glyph)
  (readMembers (glyphs.length + 1) true glyphs).map fun (members, rest) =>
    (.oneOf negated members, rest.map (·.char))

def readBounds? (extended : Bool) (text : List Char) : Option (Nat × Option Nat × List Char) := do
  let low := text.takeWhile Char.isDigit
  let rest := text.drop low.length
  let least := (Text.digits? low).getD 0
  let (most, rest) := match rest with
    | ',' :: rest =>
      let high := rest.takeWhile Char.isDigit
      (Text.digits? high, rest.drop high.length)
    | rest => (some least, rest)
  let rest ← Text.after? (if extended then ['\x7d'] else ['\\', '\x7d']) rest
  some (least, most, rest)

def readRepeats (extended : Bool) : (steps : Nat) → Regex → List Char → Regex × List Char
  | 0, regex, text => (regex, text)
  | steps + 1, regex, text =>
    let bounds (text : List Char) : Regex × List Char :=
      match readBounds? extended text with
      | some (least, most, rest) => readRepeats extended steps (.repeated regex least most) rest
      | none => (regex, text)
    match text with
    | '*' :: rest => readRepeats extended steps (.repeated regex 0 none) rest
    | '+' :: rest =>
      if extended then readRepeats extended steps (.repeated regex 1 none) rest else (regex, text)
    | '?' :: rest =>
      if extended then readRepeats extended steps (.repeated regex 0 (some 1)) rest
      else (regex, text)
    | '\x7b' :: rest => if extended then bounds rest else (regex, text)
    | '\\' :: '\x7b' :: rest => if extended then (regex, text) else bounds rest
    | '\\' :: '+' :: rest =>
      if extended then (regex, text) else readRepeats extended steps (.repeated regex 1 none) rest
    | '\\' :: '?' :: rest =>
      if extended then (regex, text)
      else readRepeats extended steps (.repeated regex 0 (some 1)) rest
    | _ => (regex, text)

def escapedKind? : Char → Option Regex
  | 'w' => some (.oneOf false [.kind Char.isAlphanum, .range '_' '_'])
  | 'W' => some (.oneOf true [.kind Char.isAlphanum, .range '_' '_'])
  | 's' => some (.oneOf false [.range ' ' ' ', .range '\t' '\r'])
  | 'S' => some (.oneOf true [.range ' ' ' ', .range '\t' '\r'])
  | 'n' => some (.one (.range '\n' '\n'))
  | 't' => some (.one (.range '\t' '\t'))
  | _ => none

mutual

def readAlternatives (extended : Bool) : (steps groups : Nat) → List Char → RegexRead
  | 0, _, _ => none
  | steps + 1, groups, text => do
    let (first, rest, groups) ← readRow extended steps groups true text
    match (if extended then Text.after? ['|'] rest else Text.after? ['\\', '|'] rest) with
    | some rest => do
      let (second, rest, groups) ← readAlternatives extended steps groups rest
      some (.either first second, rest, groups)
    | none => some (first, rest, groups)

def readRow (extended : Bool) : (steps groups : Nat) → (first : Bool) → List Char → RegexRead
  | 0, _, _, _ => none
  | steps + 1, groups, first, text =>
    let closes := if extended then text.head? = some '|' || text.head? = some ')'
      else text.take 2 = ['\\', '|'] || text.take 2 = ['\\', ')']
    if text.isEmpty || closes then some (.empty, text, groups)
    else do
      let (atom, rest, groups) ← readAtom extended steps groups first text
      let isAnchor := atom matches .start
      let (atom, rest) := if isAnchor && !extended then (atom, rest)
        else readRepeats extended (rest.length + 1) atom rest
      let (more, rest, groups) ← readRow extended steps groups (isAnchor && !extended) rest
      some (.sequence atom more, rest, groups)

def readAtom (extended : Bool) : (steps groups : Nat) → (first : Bool) → List Char → RegexRead
  | 0, _, _, _ => none
  | steps + 1, groups, first, text =>
    let only (c : Char) (rest : List Char) : RegexRead := some (.one (.range c c), rest, groups)
    let grouped (rest : List Char) (close : List Char) : RegexRead := do
      let (body, rest, inside) ← readAlternatives extended steps (groups + 1) rest
      let rest ← Text.after? close rest
      some (.group (groups + 1) body, rest, inside)
    match text with
    | [] => none
    | '.' :: rest => some (.oneOf true [], rest, groups)
    | '[' :: rest => (readBracket? rest).map fun (set, rest) => (set, rest, groups)
    | '^' :: rest => if extended || first then some (.start, rest, groups) else only '^' rest
    | '$' :: rest =>
      if extended || rest.isEmpty || rest.take 2 = ['\\', ')'] || rest.take 2 = ['\\', '|'] then
        some (.finish, rest, groups)
      else only '$' rest
    | '(' :: rest => if extended then grouped rest [')'] else only '(' rest
    | '\\' :: '(' :: rest => if extended then only '(' rest else grouped rest ['\\', ')']
    | '\\' :: c :: rest =>
      match Text.digit? c, escapedKind? c with
      | some n, _ => some (.again n, rest, groups)
      | _, some kind => some (kind, rest, groups)
      | _, _ => only c rest
    | ['\\'] => none
    | c :: rest => only c rest

end

def Regex.ofText? (extended : Bool) (text : List Char) : Option Regex :=
  match readAlternatives extended (8 * text.length + 8) 0 text with
  | some (regex, [], _) => some regex
  | _ => none

/-- The expression that matches a text only. -/
def Regex.ofPlain (text : List Char) : Regex :=
  text.foldr (fun c rest => .sequence (.one (.range c c)) rest) .empty

end MacroScript.Shell
