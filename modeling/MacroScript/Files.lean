import MacroScript.Text.Scan

/-! Files. A path is shown the way it was put together; its components are what stands between
slashes. A tree has files, directories and symbolic links, and a relative path starts at its top,
like an absolute one. -/

namespace MacroScript

namespace Path

/-- The components of a path. A slash at the end leaves an empty last component. -/
def components (path : String) : List String :=
  (Text.fields '/' path.toList).map String.ofList

def isAbsolute (path : String) : Bool := path.toList.head? = some '/'

/-- `part` taken from `base`: one slash divides them, and an absolute `part` stands alone. -/
def join (base part : String) : String :=
  if isAbsolute part || base.isEmpty then part
  else if base.toList.getLast? = some '/' then base ++ part
  else base ++ "/" ++ part

/-- The last component that is not empty, if there is one. -/
def name? (path : String) : Option String :=
  ((components path).filter (· ≠ "")).getLast?

/-- The path without its last component and the slash before it. -/
def parent (path : String) : String :=
  match (Text.fields '/' path.toList).dropLast with
  | [[]] => "/"
  | above => String.ofList (Text.joinWith ['/'] above)

end Path

/-- The reasons for which a file cannot be read as text; `other` is for those that only a real
system has, in its words. -/
inductive ReadFault where
  | notFound
  | isDirectory
  | notDirectory
  | nameTooLong
  | tooManyLinks
  | nulInName
  | notText
  | other (text : String)
  deriving DecidableEq

def ReadFault.message : ReadFault → String
  | notFound => "No such file or directory (os error 2)"
  | isDirectory => "Is a directory (os error 21)"
  | notDirectory => "Not a directory (os error 20)"
  | nameTooLong => "File name too long (os error 36)"
  | tooManyLinks => "Too many levels of symbolic links (os error 40)"
  | nulInName => "file name contained an unexpected NUL byte"
  | notText => "stream did not contain valid UTF-8"
  | other text => text

abbrev ReadText := String → Except ReadFault String

/-- A file with its bytes, a directory with its named entries, or a link with the path it
leads to. -/
inductive Node where
  | file (bytes : ByteArray)
  | directory (entries : List (String × Node))
  | link (target : String)

abbrev Entries := List (String × Node)

/-- A directory within a tree: its entries, and those of the directories above it, nearest first. -/
structure Place where
  entries : Entries
  above : List Entries := []

inductive Found where
  | file (bytes : ByteArray)
  | directory (place : Place)
  | link (target : String)

namespace Place

/-- The directory above; the top is above itself. -/
def up (place : Place) : Place :=
  match place.above with
  | [] => place
  | entries :: above => ⟨entries, above⟩

def top (place : Place) : Place := ⟨place.above.getLastD place.entries, []⟩

def down (place : Place) (entries : Entries) : Place := ⟨entries, place.entries :: place.above⟩

def nameBound : Nat := 255

def pathBound : Nat := 4096

def linkBound : Nat := 40

/-- Goes along the components of a path. A link on the way is replaced by the components of its
target; a link at the very end is followed only if `follow` says so. -/
def walk (follow : Bool) (links : Nat) (place : Place) :
    (components : List String) → Except ReadFault Found
  | [] => .ok (.directory place)
  | name :: rest =>
    if name = "" ∨ name = "." then walk follow links place rest
    else if name = ".." then walk follow links place.up rest
    else if nameBound < name.utf8ByteSize then .error .nameTooLong
    else match place.entries.lookup name with
      | none => .error .notFound
      | some (.directory entries) => walk follow links (place.down entries) rest
      | some (.file bytes) => if rest.isEmpty then .ok (.file bytes) else .error .notDirectory
      | some (.link target) =>
        if rest.isEmpty && !follow then .ok (.link target)
        else match links with
          | 0 => .error .tooManyLinks
          | links + 1 =>
            walk follow links (if Path.isAbsolute target then place.top else place)
              (Path.components target ++ rest)
termination_by components => (links, components.length)

end Place

structure Tree where
  entries : Entries := []

namespace Tree

def find (tree : Tree) (follow : Bool) (path : String) : Except ReadFault Found :=
  if path.toList.contains '\x00' then .error .nulInName
  else if path.isEmpty then .error .notFound
  else if Place.pathBound ≤ path.utf8ByteSize then .error .nameTooLong
  else Place.walk follow Place.linkBound ⟨tree.entries, []⟩ (Path.components path)

def readText (tree : Tree) (path : String) : Except ReadFault String :=
  match tree.find true path with
  | .error fault => .error fault
  | .ok (.file bytes) =>
    match String.fromUTF8? bytes with
    | some text => .ok text
    | none => .error .notText
  | .ok (.directory _) => .error .isDirectory
  | .ok (.link _) => .error .tooManyLinks

def insertEntry (node : Node) : (components : List String) → Entries → Entries
  | [], entries => entries
  | [name], entries =>
    match entries.lookup name, node with
    | some (.directory _), .directory [] => entries
    | _, _ => entries.filter (·.1 ≠ name) ++ [(name, node)]
  | name :: next :: rest, entries =>
    let below := match entries.lookup name with
      | some (.directory below) => below
      | _ => []
    entries.filter (·.1 ≠ name) ++ [(name, .directory (insertEntry node (next :: rest) below))]

def insert (tree : Tree) (path : String) (node : Node) : Tree :=
  ⟨insertEntry node ((Path.components path).filter fun name => name ≠ "" ∧ name ≠ ".") tree.entries⟩

end Tree

end MacroScript
