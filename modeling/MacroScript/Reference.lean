import MacroScript.RunError
import MacroScript.Text.Scan

/-! References to variables. A reference is `$(key)`, where the key runs to the next closing
bracket. References are looked for in the scope of a line: what follows its first colon, or the
whole line when it has none. -/

namespace MacroScript.Reference

def opener : List Char := ['$', '(']

def text (key : List Char) : List Char := opener ++ key ++ [')']

/-- The part of a line that is searched for references. -/
def scope (line : List Char) : List Char :=
  match Text.cut? ':' line with
  | some (_, rest) => rest
  | none => line

/-- The keys of the references in a text from left to right, or nothing when one is not closed.
`pending` is the key read so far, in reverse, when the text starts inside a reference. -/
def scan : (pending : Option (List Char)) → List Char → Option (List (List Char))
  | none, [] => some []
  | some _, [] => none
  | none, '$' :: '(' :: cs => scan (some []) cs
  | none, _ :: cs => scan none cs
  | some key, c :: cs =>
    if c = ')' then (scan none cs).map (key.reverse :: ·) else scan (some (c :: key)) cs

/-- The keys of all references in a text, from left to right, each as often as it occurs. -/
def keys? (text : List Char) : Option (List (List Char)) := scan none text

/-- The distinct keys referred to in the scope of the line at an index, by first appearance. -/
def ofLine (index : Nat) (line : List Char) : Except RunError (List (List Char)) :=
  match keys? (scope line) with
  | some keys => .ok (Text.distinct keys)
  | none => .error (.malformed index .referenceUnterminated)

def present (line : List Char) : Bool := Text.occurs opener line

end MacroScript.Reference
