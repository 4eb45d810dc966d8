import MacroScript.Shell.Lines

/-! Texts shown octet by octet: as numbers or characters with the place of each row, or six bits at
a time. -/

namespace MacroScript.Shell

/-- How octets are shown: as characters, one by one in a base, or two by two in a base. -/
inductive DumpKind where
  | characters
  | octets (base width : Nat)
  | pairs (base width : Nat)

def digitsPadded (base width n : Nat) : String :=
  let digits := Nat.toDigits base n
  String.ofList (List.replicate (width - digits.length) '0' ++ digits)

def dumpedCharacter (c : Char) : String :=
  match c with
  | '\x00' => "\\0"
  | '\x07' => "\\a"
  | '\x08' => "\\b"
  | '\t' => "\\t"
  | '\n' => "\\n"
  | '\x0b' => "\\v"
  | '\x0c' => "\\f"
  | '\r' => "\\r"
  | c => if 32 ≤ c.toNat && c.toNat < 127 then String.singleton c else digitsPadded 8 3 c.toNat

def pairsOf : List Char → List Nat
  | a :: b :: rest => (a.toNat + 256 * b.toNat) :: pairsOf rest
  | [a] => [a.toNat]
  | [] => []

def DumpKind.row (row : List Char) : DumpKind → String
  | .characters => String.join (row.map fun c => padLeft 4 (dumpedCharacter c))
  | .octets 10 width => String.join (row.map fun c => " " ++ padLeft width (Text.decimal c.toNat))
  | .octets base width => String.join (row.map fun c => " " ++ digitsPadded base width c.toNat)
  | .pairs base width => String.join ((pairsOf row).map fun n => " " ++ digitsPadded base width n)

def dumpRows (kind : DumpKind) (hasPlaces : Bool) : (steps place : Nat) → List Char →
    List (List Char)
  | 0, _, _ => []
  | steps + 1, place, text =>
    let mark := if hasPlaces then digitsPadded 8 7 place else ""
    match text with
    | [] => if hasPlaces then [mark.toList] else []
    | text =>
      (mark ++ kind.row (text.take 16)).toList ::
        dumpRows kind hasPlaces steps (place + min 16 text.length) (text.drop 16)

def sixBits : List Char :=
  "ABCDEFGHIJKLMNOPQRSTUVWXYZabcdefghijklmnopqrstuvwxyz0123456789+/".toList

def encodeSixBits : List Char → List Char
  | a :: b :: c :: rest => group (a.toNat * 65536 + b.toNat * 256 + c.toNat) 4 ++ encodeSixBits rest
  | [a, b] => group (a.toNat * 65536 + b.toNat * 256) 3 ++ ['=']
  | [a] => group (a.toNat * 65536) 2 ++ ['=', '=']
  | [] => []
where
  /-- The first characters of a group of 24 bits. -/
  group (n count : Nat) : List Char :=
    ([n / 262144, n / 4096 % 64, n / 64 % 64, n % 64].map fun i => sixBits[i]?.getD 'A').take count

/-- The text that characters of six bits each stand for; nothing when one of them is none. -/
def decodeSixBits? : List Char → Option (List Char)
  | a :: b :: c :: d :: rest => do
    let value (c : Char) : Option Nat := if c = '=' then some 0 else sixBits.findIdx? (· = c)
    let n := (← value a) * 262144 + (← value b) * 4096 + (← value c) * 64 + (← value d)
    let count := if c = '=' then 1 else if d = '=' then 2 else 3
    let octets := [n / 65536, n / 256 % 256, n % 256].map Char.ofNat
    some (octets.take count ++ (← decodeSixBits? rest))
  | [] => some []
  | _ => none

def foldLines (width : Nat) : (steps : Nat) → List Char → List (List Char)
  | 0, _ => []
  | steps + 1, text =>
    if text.length ≤ width then [text]
    else text.take width :: foldLines width steps (text.drop width)

end MacroScript.Shell
