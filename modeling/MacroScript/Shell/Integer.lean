import MacroScript.Text.Scan

/-! Reading whole numbers at the start of a text, as far as they go, and keeping them within 64
bits. -/

namespace MacroScript.Shell

def isSpace (c : Char) : Bool := c = ' ' || (9 ≤ c.toNat && c.toNat ≤ 13)

/-- What was read of a number: its sign and size, and the text after it, which is the whole text
when there is no number. -/
structure Reading where
  negative : Bool := false
  size : Nat := 0
  rest : List Char
  isMissing : Bool := false

/-- The value of the digits of a base at the start of a text, how many there are, and the text after
them. -/
def leadingDigits (base : Nat) : (value count : Nat) → List Char → Nat × Nat × List Char
  | value, count, [] => (value, count, [])
  | value, count, c :: cs =>
    match (Text.hexDigit? c).filter (· < base) with
    | some d => leadingDigits base (value * base + d) (count + 1) cs
    | none => (value, count, c :: cs)

/-- Reads a number; in any base it may start with `0` for base eight or `0x` for base sixteen. -/
def Reading.ofText (anyBase : Bool) (text : List Char) : Reading :=
  let trimmed := text.dropWhile isSpace
  let (negative, digits) := match trimmed with
    | '-' :: rest => (true, rest)
    | '+' :: rest => (false, rest)
    | rest => (false, rest)
  let decimal (base : Nat) (digits : List Char) : Reading :=
    match leadingDigits base 0 0 digits with
    | (_, 0, _) => { rest := text, isMissing := true }
    | (size, _, rest) => { negative, size, rest }
  if !anyBase then decimal 10 digits
  else match digits with
    | '0' :: x :: rest =>
      if x = 'x' || x = 'X' then
        match leadingDigits 16 0 0 rest with
        | (_, 0, _) => { negative, rest := x :: rest }
        | (size, _, rest) => { negative, size, rest }
      else decimal 8 digits
    | _ => decimal 10 digits

def minInteger : Int := -9223372036854775808

def maxInteger : Int := 9223372036854775807

def wordSize : Nat := 18446744073709551616

def Reading.value (reading : Reading) : Int :=
  if reading.negative then -(reading.size : Int) else reading.size

def Reading.clamped (reading : Reading) : Int := max minInteger (min maxInteger reading.value)

/-- The value that was read as a number of 64 bits without a sign; a greater one counts as the
greatest. -/
def Reading.unsigned (reading : Reading) : Nat :=
  if wordSize ≤ reading.size then wordSize - 1
  else if reading.negative then (wordSize - reading.size) % wordSize
  else reading.size

def wrapped (n : Int) : Int := n.bmod wordSize

/-- A whole number with nothing but blanks around it. -/
def integer? (text : List Char) : Option Int :=
  let reading := Reading.ofText false text
  if reading.isMissing || !reading.rest.all isSpace || reading.value ≠ reading.clamped then none
  else some reading.value

def integerText (n : Int) : String :=
  if n < 0 then "-" ++ Text.decimal n.natAbs else Text.decimal n.natAbs

end MacroScript.Shell
