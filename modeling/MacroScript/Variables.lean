import MacroScript.Reference
import MacroScript.Table

/-! Variables and their substitution into lines. The keys in the scope of the line are taken in the
order of their first appearance, and each one is replaced by its value in the whole line, so that
text inserted for one key is searched for the keys that come after it. -/

namespace MacroScript

/-- The values of the variables declared so far. -/
abbrev Variables := Table String String

namespace Variables

def size (vars : Variables) : Nat :=
  vars.entries.foldl (fun total (_, value) => total + value.utf8ByteSize) 0

/-- Replaces the references to each key in turn; stops at the first key without a value. -/
def replaceKeys (vars : Variables) (index : Nat) :
    List (List Char) → List Char → Except RunError (List Char)
  | [], line => .ok line
  | key :: keys, line =>
    match vars.get? (String.ofList key) with
    | none => .error (.undefinedVariable index (String.ofList key))
    | some value => replaceKeys vars index keys
        (Text.replaceAll (Reference.text key) value.toList line)

/-- The line at an index with its references replaced. The keys are found in the line as it is
written, before anything is replaced, so an unclosed reference is reported before an unknown key. -/
def substitute (vars : Variables) (index : Nat) (line : String) : Except RunError String := do
  if Reference.present line.toList then
    let keys ← Reference.ofLine index line.toList
    let replaced ← replaceKeys vars index keys line.toList
    .ok (String.ofList replaced)
  else .ok line

end Variables

end MacroScript
