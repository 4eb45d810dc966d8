import MacroScript.Case.Assertion
import MacroScript.Files

/-! Finding the cases in a tree. Cases are regular files of one name in a directory or any real
directory below it; they are listed in the order of their components. -/

namespace MacroScript

def caseFileName : String := "testcase.json"

mutual

/-- The components that lead from an entry to the cases at or below it. -/
def Node.cases (name : String) : Node → List (List String)
  | .file _ => if name = caseFileName then [[name]] else []
  | .directory entries => (entriesCases entries).map (name :: ·)
  | .link _ => []

def entriesCases : List (String × Node) → List (List String)
  | [] => []
  | (name, node) :: rest => node.cases name ++ entriesCases rest

end

/-- Component by component; texts are compared by code points, which is also the order of their
bytes. -/
def componentsLe : List String → List String → Bool
  | [], _ => true
  | _ :: _, [] => false
  | a :: as, b :: bs => if a = b then componentsLe as bs else decide (a < b)

def casesBelow (path : String) (place : Place) : List String :=
  ((entriesCases place.entries).mergeSort componentsLe).map fun components =>
    components.foldl Path.join path

/-- The cases found from a path. The path itself may be a case, a directory or a link to one. -/
def findCases (tree : Tree) (path : String) : List String :=
  match tree.find false path with
  | .error _ => []
  | .ok (.file _) => if Path.name? path = some caseFileName then [path] else []
  | .ok (.directory place) => casesBelow path place
  | .ok (.link _) =>
    match tree.find true path with
    | .ok (.directory place) => casesBelow path place
    | _ => []

/-- The cases found from a path, of which there has to be one. -/
def discoverCases (tree : Tree) (path : String) : Except CaseError (List String) :=
  match findCases tree path with
  | [] => .error (.noCases path)
  | found => .ok found

def assertSuite (tree : Tree) (limit : Nat) (path : String) :
    Except CaseError (List (String × Option (Except CaseError Unit))) :=
  (discoverCases tree path).map fun found =>
    found.map fun test => (test, assertCase tree.readText limit (Path.parent test) test)

end MacroScript
