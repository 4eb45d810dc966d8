/-! Texts as rows of octets. A shell knows nothing of characters beyond ASCII: what it reads,
compares, counts and writes are octets. Here an octet is held as the character with its number, so
that a row of octets is a list of characters below 256. -/

namespace MacroScript.Shell

def octetsOf (text : String) : List Char :=
  text.toUTF8.toList.map fun b => Char.ofNat b.toNat

/-- How many octets follow a first one, and between which numbers the second lies; nothing when no
character starts with it. -/
def followers? (first : Nat) : Option (Nat × Nat × Nat) :=
  if 0xC2 ≤ first ∧ first ≤ 0xDF then some (1, 0x80, 0xBF)
  else if first = 0xE0 then some (2, 0xA0, 0xBF)
  else if first = 0xED then some (2, 0x80, 0x9F)
  else if 0xE1 ≤ first ∧ first ≤ 0xEF then some (2, 0x80, 0xBF)
  else if first = 0xF0 then some (3, 0x90, 0xBF)
  else if first = 0xF4 then some (3, 0x80, 0x8F)
  else if 0xF1 ≤ first ∧ first ≤ 0xF3 then some (3, 0x80, 0xBF)
  else none

/-- Adds the octets that follow to the value of a character; nothing when they do not fit. Also
gives what is left of the text. -/
def followOn : (missing low high value : Nat) → List Char → Option Nat × List Char
  | 0, _, _, value, cs => (some value, cs)
  | _ + 1, _, _, _, [] => (none, [])
  | missing + 1, low, high, value, c :: cs =>
    if low ≤ c.toNat ∧ c.toNat ≤ high then followOn missing 0x80 0xBF (value * 64 + c.toNat % 64) cs
    else (none, c :: cs)

/-- The characters of a row of octets; a part that is no character is shown as the replacement
character. -/
def decodeOctets : (steps : Nat) → List Char → List Char
  | 0, _ => []
  | _ + 1, [] => []
  | steps + 1, c :: cs =>
    if c.toNat < 0x80 then c :: decodeOctets steps cs
    else match followers? c.toNat with
      | none => '�' :: decodeOctets steps cs
      | some (missing, low, high) =>
        let start := if missing = 1 then c.toNat - 0xC0 else if missing = 2 then c.toNat - 0xE0
          else c.toNat - 0xF0
        match followOn missing low high start cs with
        | (some value, cs) => Char.ofNat value :: decodeOctets steps cs
        | (none, cs) => '�' :: decodeOctets steps cs

def textOfOctets (octets : String) : String :=
  String.ofList (decodeOctets octets.length octets.toList)

def precedes : List Char → List Char → Bool
  | _, [] => false
  | [], _ :: _ => true
  | a :: as, b :: bs => a.toNat < b.toNat || (a.toNat = b.toNat && precedes as bs)

def sorted (rows : List String) : List String :=
  rows.mergeSort fun a b => !precedes b.toList a.toList

end MacroScript.Shell
