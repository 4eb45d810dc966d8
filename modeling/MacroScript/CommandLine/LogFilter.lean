import MacroScript.CommandLine.Pattern

/-! Log filters: directives divided by commas. A directive is a level, a target, a target with a
level, and may name a span and a field in brackets: `target[span\x7bfield=value\x7d]=level`. A value
that is neither a number nor a truth value is a regular expression. Nothing is logged here, so a
filter is only checked. -/

namespace MacroScript.CommandLine

inductive FilterFault where
  | directive
  | level
  | field (fault : PatternFault)
  deriving DecidableEq

def FilterFault.message : FilterFault → String
  | directive => "invalid filter directive"
  | level =>
    "error parsing level filter: expected one of \"off\", \"error\", \"warn\", \"info\", " ++
    "\"debug\", \"trace\", or a number 0-5"
  | field .malformed => "invalid field filter: error building NFA"
  | field .wordBounds => "invalid field filter: unsupported regex feature for DFAs"

def levelNames : List String := ["off", "error", "warn", "info", "debug", "trace"]

/-- A level: one of the names in any capitals, a number from 0 to 5, or nothing at all. -/
def isLevel (text : List Char) : Bool :=
  text.isEmpty || levelNames.any (fun name => name.toList = text.map Char.toLower) ||
    (Text.numeral? 6 text).isSome

/-- Checks a field: what stands between its first and its second equals sign is a truth value, a
number or a regular expression. -/
def checkField (text : List Char) : Except FilterFault Unit :=
  match Text.fields '=' text with
  | _ :: value :: _ =>
    if ["true", "false"].contains (String.ofList value) || isNumber value then .ok ()
    else (checkPattern value).mapError .field
  | _ => .ok ()

def dropOctets : (count : Nat) → List Char → List Char
  | _, [] => []
  | 0, cs => cs
  | count + 1, c :: cs => dropOctets (count + 1 - c.utf8Size) cs

def takeOctets : (count : Nat) → List Char → List Char
  | _, [] => []
  | 0, _ => []
  | count + 1, c :: cs => c :: takeOctets (count + 1 - c.utf8Size) cs

/-- The part of a directive that is being read, with the number of octets before what it will need
of the text. -/
inductive FilterPart where
  | start
  | target
  | span
  | field (opened : Nat)
  | fields
  | afterSpan
  | level (opened : Nat)
  deriving DecidableEq

def startsDirective (c : Char) : Bool :=
  c = '-' || c = ':' || c = '_' || Text.isAlphanumeric c

def FilterPart.step (text : List Char) (index : Nat) (c : Char) :
    FilterPart → Except FilterFault FilterPart
  | start =>
    if c = '[' then .ok span else if startsDirective c then .ok target else .error .directive
  | target =>
    if c = '=' then .ok (level (index + 1)) else if c = '[' then .ok span else .ok target
  | span =>
    if c = ']' then .ok afterSpan else if c = '\x7b' then .ok (field (index + 1)) else .ok span
  | field opened =>
    if c = '\x7d' then
      if index = opened then .error .directive
      else do
        checkField (takeOctets (index - opened) (dropOctets opened text))
        .ok fields
    else .ok (field opened)
  | fields => if c = ']' then .ok afterSpan else .error .directive
  | afterSpan => if c = '=' then .ok (level (index + 1)) else .error .directive
  | level opened => .ok (level opened)

/-- The part after all characters of the rest of a directive, which has a number of octets before
it. -/
def FilterPart.run (text : List Char) :
    (index : Nat) → List Char → FilterPart → Except FilterFault FilterPart
  | _, [], part => .ok part
  | index, c :: cs, part => do run text (index + c.utf8Size) cs (← part.step text index c)

/-- Checks one directive. Blanks around it are passed over while it is read, but a field and a level
are taken from the text with its blanks, at the place at which they stand in the text
without them. -/
def checkDirective (text : List Char) : Except FilterFault Unit := do
  match ← FilterPart.start.run text 0 (Text.trimChars text) with
  | .target => .ok ()
  | .afterSpan => .ok ()
  | .level opened => if isLevel (dropOctets opened text) then .ok () else .error .level
  | _ => .error .directive

/-- Checks the directives of a filter in order; empty ones are passed over. -/
def checkDirectives : List (List Char) → Except FilterFault Unit
  | [] => .ok ()
  | directive :: rest => do
    if !directive.isEmpty then checkDirective directive
    checkDirectives rest

def checkFilter (filter : String) : Except FilterFault Unit :=
  checkDirectives (Text.fields ',' filter.toList)

end MacroScript.CommandLine
