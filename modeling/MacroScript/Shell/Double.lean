import MacroScript.Shell.Integer

/-! Numbers with a binary point in 64 bits: reading them, and writing them with a number of decimal
places. Reading takes the nearest such number, and writing rounds its exact value; a half goes to
the even neighbour. -/

namespace MacroScript.Shell

/-- A number in 64 bits: a whole number times a power of two, an infinity, or none at all. -/
inductive Double where
  | finite (negative : Bool) (mantissa : Nat) (exponent : Int)
  | infinite (negative : Bool)
  | notANumber (negative : Bool)
  deriving DecidableEq

def roundQuotient (num den : Nat) : Nat :=
  let q := num / den
  let r := num % den
  if den < 2 * r || (2 * r = den && q % 2 = 1) then q + 1 else q

def scaledByTwo (num den : Nat) (exponent : Int) : Nat × Nat :=
  if exponent < 0 then (num, den * Nat.pow 2 exponent.natAbs)
  else (num * Nat.pow 2 exponent.natAbs, den)

def Double.ofFraction (negative : Bool) (num den : Nat) : Double :=
  if num = 0 then .finite negative 0 0
  else
    let guess : Int := (Nat.log2 num : Int) - Nat.log2 den - 52
    let reaches (exponent : Int) : Bool :=
      let (n, d) := scaledByTwo num den (-exponent)
      Nat.pow 2 52 * d ≤ n
    let exponent := max (-1074) (if reaches guess then guess else guess - 1)
    let (n, d) := scaledByTwo num den (-exponent)
    let mantissa := roundQuotient n d
    let (mantissa, exponent) := if mantissa = Nat.pow 2 53 then (Nat.pow 2 52, exponent + 1)
      else (mantissa, exponent)
    if 971 < exponent then .infinite negative else .finite negative mantissa exponent

/-- The number is so far from the others of its kind that reading it says so: it is infinite, or too
small for all its digits. -/
def Double.isExtreme : Double → Bool
  | .finite _ mantissa exponent => mantissa < Nat.pow 2 52 && exponent ≤ -1074
  | _ => true

def pointDigits (base : Nat) (text : List Char) : Nat × Nat × Nat × List Char :=
  let (whole, wholeCount, rest) := leadingDigits base 0 0 text
  match rest with
  | '.' :: after =>
    let (value, count, rest) := leadingDigits base whole wholeCount after
    (value, count, count - wholeCount, rest)
  | _ => (whole, wholeCount, 0, rest)

/-- The exponent after one of two marks, if there is one, and the text after it. -/
def exponentAfter (small large : Char) (text : List Char) : Int × List Char :=
  match text with
  | mark :: rest =>
    if mark = small || mark = large then
      let (negative, digits) := match rest with
        | '-' :: rest => (true, rest)
        | '+' :: rest => (false, rest)
        | rest => (false, rest)
      match leadingDigits 10 0 0 digits with
      | (_, 0, _) => (0, text)
      | (size, _, rest) => (if negative then -(size : Int) else size, rest)
    else (0, text)
  | [] => (0, [])

structure DoubleReading where
  value : Double
  rest : List Char
  outOfRange : Bool := false

def Double.ofDecimal (negative : Bool) (value : Nat) (exponent : Int) : Double :=
  let size : Int := (Text.decimal value).length
  if value = 0 then .finite negative 0 0
  else if 400 < size + exponent then .infinite negative
  else if size + exponent < -400 then .finite negative 0 0
  else if exponent < 0 then .ofFraction negative value (Nat.pow 10 exponent.natAbs)
  else .ofFraction negative (value * Nat.pow 10 exponent.natAbs) 1

/-- Reads a number in base ten, or in base sixteen after `0x`; also the words for infinity and for
no number. -/
def DoubleReading.ofText (text : List Char) : DoubleReading :=
  let trimmed := text.dropWhile isSpace
  let (negative, body) := match trimmed with
    | '-' :: rest => (true, rest)
    | '+' :: rest => (false, rest)
    | rest => (false, rest)
  let checked (value : Double) (digits : Nat) (rest : List Char) : DoubleReading :=
    { value, rest, outOfRange := digits ≠ 0 && value.isExtreme }
  if Text.startsWithWord "infinity".toList body then
    { value := .infinite negative, rest := body.drop 8 }
  else if Text.startsWithWord "inf".toList body then
    { value := .infinite negative, rest := body.drop 3 }
  else if Text.startsWithWord "nan".toList body then
    { value := .notANumber negative, rest := body.drop 3 }
  else
    let hex := Text.startsWithWord "0x".toList body
    let (value, count, places, rest) := pointDigits 16 (body.drop 2)
    if hex && count ≠ 0 then
      let (exponent, rest) := exponentAfter 'p' 'P' rest
      let exponent := max (-5000) (min 5000 (exponent - 4 * places))
      let (num, den) := scaledByTwo value 1 exponent
      checked (.ofFraction negative num den) value rest
    else
      let (value, count, places, rest) := pointDigits 10 body
      if count = 0 then { value := .finite false 0 0, rest := text }
      else
        let (exponent, rest) := exponentAfter 'e' 'E' rest
        checked (.ofDecimal negative value (exponent - places)) value rest

def withPoint (places : Nat) (alternate : Bool) (n : Nat) : String :=
  let digits := Text.decimal n
  let padded := String.ofList (List.replicate (places + 1 - digits.length) '0') ++ digits
  let whole := String.ofList (padded.toList.take (padded.length - places))
  let fraction := String.ofList (padded.toList.drop (padded.length - places))
  if places = 0 then (if alternate then whole ++ "." else whole) else whole ++ "." ++ fraction

def fixedText (alternate : Bool) (places mantissa : Nat) (exponent : Int) : String :=
  let (num, den) := scaledByTwo (mantissa * Nat.pow 10 places) 1 exponent
  withPoint places alternate (roundQuotient num den)

def roundedTo (mantissa : Nat) (exponent : Int) (power : Int) : Nat :=
  let (num, den) := scaledByTwo mantissa 1 exponent
  if power < 0 then roundQuotient num (den * Nat.pow 10 power.natAbs)
  else roundQuotient (num * Nat.pow 10 power.natAbs) den

def firstPlace (mantissa : Nat) (exponent : Int) : Int :=
  let (num, den) := scaledByTwo mantissa 1 exponent
  let guess : Int := ((Text.decimal num).length : Int) - (Text.decimal den).length
  let reaches (place : Int) : Bool :=
    if place < 0 then den ≤ num * Nat.pow 10 place.natAbs else den * Nat.pow 10 place.natAbs ≤ num
  if reaches guess then guess else guess - 1

/-- The digits of a number, as many as asked for, and the place of the first; a zero has its first
digit before the point. -/
def significantDigits (count mantissa : Nat) (exponent : Int) : Nat × Int :=
  if mantissa = 0 then (0, 0)
  else
    let place := firstPlace mantissa exponent
    let digits := roundedTo mantissa exponent (count - 1 - place)
    if Nat.pow 10 count ≤ digits then (digits / 10, place + 1) else (digits, place)

/-- An exponent with its sign and at least two digits. -/
def exponentText (exponent : Int) : String :=
  let digits := Text.decimal exponent.natAbs
  (if exponent < 0 then "-" else "+") ++ (if digits.length < 2 then "0" ++ digits else digits)

def scientificText (alternate : Bool) (places mantissa : Nat) (exponent : Int) : String :=
  let (digits, place) := significantDigits (places + 1) mantissa exponent
  withPoint places alternate digits ++ "e" ++ exponentText place

def trimZeros (text : String) : String :=
  if text.toList.contains '.' then
    match text.toList.reverse.dropWhile (· = '0') with
    | '.' :: rest => String.ofList rest.reverse
    | rest => String.ofList rest.reverse
  else text

/-- A number with a number of digits, written with an exponent when it is large or small. -/
def generalText (alternate : Bool) (precision mantissa : Nat) (exponent : Int) : String :=
  let count := max precision 1
  let (digits, place) := significantDigits count mantissa exponent
  let trim (text : String) : String := if alternate then text else trimZeros text
  if -4 ≤ place ∧ place < count then
    trim (fixedText alternate (count - 1 - place).toNat mantissa exponent)
  else trim (withPoint (count - 1) alternate digits) ++ "e" ++ exponentText place

def hexadecimalText (alternate : Bool) (precision : Option Nat) (mantissa : Nat) (exponent : Int) :
    String :=
  let isNormal := Nat.pow 2 52 ≤ mantissa
  let places := precision.getD 13
  let scaled := if places < 13 then roundQuotient mantissa (Nat.pow 16 (13 - places))
    else mantissa * Nat.pow 16 (places - 13)
  let whole := scaled / Nat.pow 16 places
  let digits := String.ofList (Nat.toDigits 16 (scaled % Nat.pow 16 places))
  let fraction := String.ofList (List.replicate (places - digits.length) '0') ++ digits
  let place : Int := if mantissa = 0 then 0 else if isNormal then exponent + 52 else -1022
  let point := if places = 0 then (if alternate then "." else "") else "." ++ fraction
  let shown := Text.decimal whole ++ point
  let trimmed := trimZeros shown
  let kept := if !precision.isNone then shown
    else if alternate && !trimmed.toList.contains '.' then trimmed ++ "."
    else trimmed
  "0x" ++ kept ++ "p" ++ (if place < 0 then "-" else "+") ++ Text.decimal place.natAbs

end MacroScript.Shell
