import MacroScript.Shell.Wild

/-! Dividing what words stand for into fields. The characters that divide fields are given: blanks
among them divide in any number, and every other one ends a field. -/

namespace MacroScript.Shell

/-- A part of what a word stands for: a character, which may divide fields; a mark, which makes a
field even if nothing else does; or a boundary between fields, which divides them as a
blank does. -/
inductive Atom where
  | glyph (glyph : Glyph) (divides : Bool)
  | mark
  | boundary

def isGap (separators : List Char) (c : Char) : Bool :=
  separators.contains c && (c = ' ' || c = '\t' || c = '\n')

/-- The fields found so far, newest first, the one that has been begun, and whether blanks ended the
newest. -/
structure Division where
  fields : List (List Glyph) := []
  current : Option (List Glyph) := none
  afterGap : Bool := false

namespace Division

def close (division : Division) (afterGap : Bool) : Division :=
  match division.current with
  | some glyphs => ⟨glyphs.reverse :: division.fields, none, afterGap⟩
  | none => { division with afterGap := afterGap && division.afterGap }

def add (separators : List Char) (division : Division) : Atom → Division
  | .mark => { division with current := some (division.current.getD []), afterGap := false }
  | .boundary => division.close true
  | .glyph glyph divides =>
    if !divides || !separators.contains glyph.char then
      { division with current := some (glyph :: division.current.getD []), afterGap := false }
    else if isGap separators glyph.char then division.close true
    else if division.current.isSome then division.close false
    else if division.afterGap then { division with afterGap := false }
    else { division with fields := [] :: division.fields }

def toList (division : Division) : List (List Glyph) := (division.close false).fields.reverse

end Division

def fieldsOf (separators : List Char) (atoms : List Atom) : List (List Glyph) :=
  (atoms.foldl (Division.add separators) {}).toList

/-- The glyphs of what a word stands for when it is not divided; a boundary gives a blank. -/
def joinedAtoms (atoms : List Atom) : List Glyph :=
  atoms.flatMap fun
    | .glyph glyph _ => [glyph]
    | .mark => []
    | .boundary => [⟨' ', true⟩]

/-- Gives a line out to a number of fields, of which the last takes all that is left without the
blanks around it and without a single separator at its end. -/
def distribute (separators : List Char) : (count : Nat) → List Atom → List String
  | 0, _ => []
  | 1, atoms =>
    match fieldsOf separators atoms with
    | [] => [""]
    | [field] => [glyphText field]
    | _ =>
      let isBlank : Atom → Bool
        | .glyph glyph divides => divides && isGap separators glyph.char
        | _ => false
      [glyphText (joinedAtoms ((atoms.dropWhile isBlank).reverse.dropWhile isBlank).reverse)]
  | count + 1, atoms =>
    let (field, rest) := firstField {} atoms
    field :: distribute separators count rest
where
  /-- The first field and what follows it. -/
  firstField (division : Division) : List Atom → String × List Atom
    | [] => (((division.close false).fields.head?.map glyphText).getD "", [])
    | atom :: rest =>
      let next := division.add separators atom
      match next.fields with
      | field :: _ => (glyphText field, if next.afterGap then dropSeparator rest else rest)
      | [] => firstField next rest
  /-- What follows the separator that blanks have begun. -/
  dropSeparator : List Atom → List Atom
    | .glyph glyph true :: rest =>
      if isGap separators glyph.char then dropSeparator rest
      else if separators.contains glyph.char then rest
      else .glyph glyph true :: rest
    | atoms => atoms

end MacroScript.Shell
