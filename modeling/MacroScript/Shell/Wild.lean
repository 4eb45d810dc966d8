import MacroScript.Text.Scan

/-! Patterns for texts and file names. In a pattern a character that is quoted stands for itself,
and so do all others but a star, a question mark and a set in brackets. -/

namespace MacroScript.Shell

/-- A character that may have a meaning of its own unless it is quoted. -/
structure Glyph where
  char : Char
  quoted : Bool
  deriving DecidableEq

def glyphText (glyphs : List Glyph) : String := String.ofList (glyphs.map (·.char))

inductive Member where
  | range (low high : Char)
  | kind (holds : Char → Bool)

def Member.has (c : Char) : Member → Bool
  | range low high => low.toNat ≤ c.toNat && c.toNat ≤ high.toNat
  | kind holds => holds c

/-- A part of a pattern: a character, any character, any characters, or one that is or is not in a
set. -/
inductive Wild where
  | only (c : Char)
  | any
  | many
  | oneOf (negated : Bool) (members : List Member)

def kindOf? (name : String) : Option (Char → Bool) :=
  match name with
  | "alpha" => some Char.isAlpha
  | "digit" => some Char.isDigit
  | "alnum" => some Char.isAlphanum
  | "upper" => some Char.isUpper
  | "lower" => some Char.isLower
  | "space" => some fun c => c = ' ' || (9 ≤ c.toNat && c.toNat ≤ 13)
  | "blank" => some fun c => c = ' ' || c = '\t'
  | "punct" => some fun c => 33 ≤ c.toNat && c.toNat ≤ 126 && !c.isAlphanum
  | "print" => some fun c => 32 ≤ c.toNat && c.toNat ≤ 126
  | "graph" => some fun c => 33 ≤ c.toNat && c.toNat ≤ 126
  | "cntrl" => some fun c => c.toNat < 32 || c.toNat = 127
  | "xdigit" => some fun c => c.isDigit || ('a' ≤ c && c ≤ 'f') || ('A' ≤ c && c ≤ 'F')
  | _ => none

def leadingKind? (glyphs : List Glyph) : Option ((Char → Bool) × List Glyph) :=
  match glyphs with
  | ⟨'[', false⟩ :: ⟨':', false⟩ :: rest =>
    let name := rest.takeWhile fun glyph => glyph.char ≠ ':'
    match rest.drop name.length with
    | ⟨':', false⟩ :: ⟨']', false⟩ :: rest =>
      (kindOf? (glyphText name)).map fun holds => (holds, rest)
    | _ => none
  | _ => none

/-- The members of a set up to the bracket that closes it, which cannot be the first, and what
follows it. -/
def readMembers : (steps : Nat) → (first : Bool) → List Glyph → Option (List Member × List Glyph)
  | 0, _, _ => none
  | _ + 1, _, [] => none
  | steps + 1, first, glyph :: rest =>
    if glyph = ⟨']', false⟩ && !first then some ([], rest)
    else match leadingKind? (glyph :: rest) with
      | some (holds, rest) => do
        let (members, rest) ← readMembers steps false rest
        some (.kind holds :: members, rest)
      | none =>
        match rest with
        | ⟨'-', false⟩ :: high :: after =>
          if high = ⟨']', false⟩ then do
            let (members, rest) ← readMembers steps false rest
            some (.range glyph.char glyph.char :: members, rest)
          else do
            let (members, rest) ← readMembers steps false after
            some (.range glyph.char high.char :: members, rest)
        | _ => do
          let (members, rest) ← readMembers steps false rest
          some (.range glyph.char glyph.char :: members, rest)

def readSet? (glyphs : List Glyph) : Option (Wild × List Glyph) :=
  match glyphs with
  | ⟨'!', false⟩ :: rest =>
    (readMembers (rest.length + 1) true rest).map fun (members, rest) => (.oneOf true members, rest)
  | _ =>
    (readMembers (glyphs.length + 1) true glyphs).map fun (members, rest) =>
      (.oneOf false members, rest)

def readWilds : (steps : Nat) → List Glyph → List Wild
  | 0, _ => []
  | _ + 1, [] => []
  | steps + 1, glyph :: rest =>
    if glyph.quoted then .only glyph.char :: readWilds steps rest
    else if glyph.char = '*' then .many :: readWilds steps rest
    else if glyph.char = '?' then .any :: readWilds steps rest
    else if glyph.char = '[' then
      match readSet? rest with
      | some (set, rest) => set :: readWilds steps rest
      | none => .only '[' :: readWilds steps rest
    else if glyph.char = '\\' then
      match rest with
      | next :: rest => .only next.char :: readWilds steps rest
      | [] => [.only '\\']
    else .only glyph.char :: readWilds steps rest

def wildsOf (glyphs : List Glyph) : List Wild := readWilds (glyphs.length + 1) glyphs

def isWild (wilds : List Wild) : Bool := wilds.any fun wild => !(wild matches .only _)

def endings : List Char → List (List Char)
  | [] => [[]]
  | c :: cs => (c :: cs) :: endings cs

def fits : List Wild → List Char → Bool
  | [], text => text.isEmpty
  | .only c :: rest, text => text.head? = some c && fits rest text.tail
  | .any :: rest, text => !text.isEmpty && fits rest text.tail
  | .oneOf negated members :: rest, text =>
    (text.head?.any fun c => members.any (·.has c) != negated) && fits rest text.tail
  | .many :: rest, text => (endings text).any (fits rest)

def withoutStart (longest : Bool) (pattern : List Wild) (text : List Char) : List Char :=
  let lengths := List.range (text.length + 1)
  let found := (if longest then lengths.reverse else lengths).find? fun n =>
    fits pattern (text.take n)
  text.drop (found.getD 0)

def withoutEnd (longest : Bool) (pattern : List Wild) (text : List Char) : List Char :=
  let lengths := List.range (text.length + 1)
  let found := (if longest then lengths else lengths.reverse).find? fun n =>
    fits pattern (text.drop n)
  text.take (found.getD text.length)

/-- A pattern matches a part of a path; a leading dot has to be given. -/
def fitsPart (pattern : List Wild) (part : List Char) : Bool :=
  (part.head? ≠ some '.' || pattern.head? matches some (.only '.')) && fits pattern part

def patternParts (glyphs : List Glyph) : List (List Glyph) :=
  match glyphs with
  | [] => [[]]
  | glyph :: rest =>
    match patternParts rest with
    | part :: parts => if glyph.char = '/' then [] :: part :: parts else (glyph :: part) :: parts
    | [] => [[glyph]]

end MacroScript.Shell
