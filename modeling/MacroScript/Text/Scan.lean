/-! Cutting, joining, trimming and replacing on lists of characters, and reading numerals. Every
function here is structural, so a closed instance evaluates in the kernel. -/

namespace MacroScript.Text

/-- The text before and after the first `sep`, if there is one. -/
def cut? (sep : Char) : List Char → Option (List Char × List Char)
  | [] => none
  | c :: cs => if c = sep then some ([], cs) else (cut? sep cs).map fun (a, b) => (c :: a, b)

/-- The fields between all occurrences of `sep`; one more than there are separators. -/
def fields (sep : Char) : List Char → List (List Char)
  | [] => [[]]
  | c :: cs =>
    if c = sep then [] :: fields sep cs
    else match fields sep cs with
      | [] => [[c]]
      | f :: fs => (c :: f) :: fs

/-- What follows `pattern` when the text starts with it. -/
def after? : (pattern text : List Char) → Option (List Char)
  | [], text => some text
  | _ :: _, [] => none
  | p :: ps, c :: cs => if p = c then after? ps cs else none

def occurs (pattern : List Char) : List Char → Bool
  | [] => pattern.isEmpty
  | c :: cs => pattern.isPrefixOf (c :: cs) || occurs pattern cs

/-- Copies the text after leaving out `skip` characters, with each occurrence of `pattern` met from
left to right replaced; an occurrence is replaced by emitting `replacement` and skipping the rest of
it. -/
def replaceSkipping (pattern replacement : List Char) : (skip : Nat) → List Char → List Char
  | _, [] => []
  | skip + 1, _ :: cs => replaceSkipping pattern replacement skip cs
  | 0, c :: cs =>
    if pattern.isPrefixOf (c :: cs) then
      replacement ++ replaceSkipping pattern replacement (pattern.length - 1) cs
    else c :: replaceSkipping pattern replacement 0 cs

/-- Every occurrence of a non-empty `pattern` replaced, from left to right and without overlap;
text that was inserted is not searched again. -/
def replaceAll (pattern replacement text : List Char) : List Char :=
  replaceSkipping pattern replacement 0 text

def distinct {α : Type} [DecidableEq α] : List α → List α
  | [] => []
  | x :: xs => x :: (distinct xs).filter (· ≠ x)

def joinWith (sep : List Char) : List (List Char) → List Char
  | [] => []
  | [x] => x
  | x :: y :: rest => x ++ sep ++ joinWith sep (y :: rest)

/-- The text starts with `word`, which is in small letters, when ASCII capitals count as small. -/
def startsWithWord (word text : List Char) : Bool :=
  (text.take word.length).map Char.toLower == word

/-! Blanks. A character is blank when it has the Unicode property White_Space; `trim` removes the
blanks at both ends of a text and nothing in between. -/

/-- The 25 code points with the property White_Space. -/
def isBlank (c : Char) : Bool :=
  let n := c.toNat
  (9 ≤ n && n ≤ 13) || n == 0x20 || n == 0x85 || n == 0xA0 || n == 0x1680 ||
    (0x2000 ≤ n && n ≤ 0x200A) || n == 0x2028 || n == 0x2029 || n == 0x202F || n == 0x205F ||
    n == 0x3000

def trimStart (cs : List Char) : List Char := cs.dropWhile isBlank

def dropEndWhile (p : Char → Bool) (cs : List Char) : List Char := (cs.reverse.dropWhile p).reverse

def trimEnd (cs : List Char) : List Char := dropEndWhile isBlank cs

def trimChars (cs : List Char) : List Char := trimEnd (trimStart cs)

def trim (s : String) : String := String.ofList (trimChars s.toList)

@[simp] theorem toList_trim (s : String) : (trim s).toList = trimChars s.toList := by
  simp [trim]

/-! Decimal numerals: reading with a bound, and the digits that are written. -/

def digit? (c : Char) : Option Nat :=
  if '0' ≤ c ∧ c ≤ '9' then some (c.toNat - '0'.toNat) else none

/-- The value of a row of digits read after `acc`; fails on any other character. -/
def digitsFrom? (acc : Nat) : List Char → Option Nat
  | [] => some acc
  | c :: cs => match digit? c with
    | some d => digitsFrom? (acc * 10 + d) cs
    | none => none

def digits? (cs : List Char) : Option Nat :=
  if cs.isEmpty then none else digitsFrom? 0 cs

/-- A numeral below `bound`: one or more digits, with leading zeros allowed and one `+` in front
of them allowed. -/
def numeral? (bound : Nat) (cs : List Char) : Option Nat := do
  let n ← digits? (match cs with | '+' :: rest => rest | _ => cs)
  if n < bound then some n else none

def decimal (n : Nat) : String := String.ofList (Nat.toDigits 10 n)

def hexDigit? (c : Char) : Option Nat :=
  if '0' ≤ c ∧ c ≤ '9' then some (c.toNat - '0'.toNat)
  else if 'a' ≤ c ∧ c ≤ 'f' then some (c.toNat - 'a'.toNat + 10)
  else if 'A' ≤ c ∧ c ≤ 'F' then some (c.toNat - 'A'.toNat + 10)
  else none

/-! Sets of code points as the bounds of their ranges. -/

/-- Whether `n` lies in a range. The bounds are in increasing order, and each one is where the set
is entered or left; `inside` tells whether what lies before the first bound is in the set. -/
def inRanges (n : Nat) : (inside : Bool) → (bounds : List Nat) → Bool
  | inside, [] => inside
  | inside, bound :: bounds => if n < bound then inside else inRanges n (!inside) bounds

end MacroScript.Text
