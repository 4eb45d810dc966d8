import MacroScript.Json.Value

/-! What a value must satisfy to be taken in whole before it is known what it is for: every string
has a text, every number fits a binary double, and the nesting stays below a bound. Values that are
passed over are free of these. -/

namespace MacroScript.Json

/-- The least number that rounds beyond the largest finite double. -/
def doubleBound : Nat := Nat.pow 2 1024 - Nat.pow 2 970

/-- The nearest number whose binary digits after the first 53 are zero; of two that are equally
near, the one whose last digit is even. -/
def roundToDouble (n : Nat) : Nat :=
  let spare := n.log2 - 52
  let unit := Nat.pow 2 spare
  let (whole, rest) := (n / unit, n % unit)
  if unit < 2 * rest || (unit = 2 * rest && whole % 2 = 1) then (whole + 1) * unit else whole * unit

/-- A number as it is taken in: a whole number of 64 bits, and the power of ten it is scaled by.
Digits that have no room in the whole number are dropped. -/
structure Scaled where
  significand : Nat := 0
  exponent : Int := 0
  full : Bool := false

namespace Scaled

/-- The number with one more digit, if it still has room for it. -/
def push? (number : Scaled) (c : Char) : Option Nat :=
  let next := number.significand * 10 + (c.toNat - '0'.toNat)
  if next < UInt64.size then some next else none

/-- Takes in the digits before the point. Once one has no room, it and all that follow
only scale. -/
def readWhole (number : Scaled) : List Char → Scaled
  | [] => { number with full := false }
  | c :: cs =>
    match number.full, number.push? c with
    | false, some significand => readWhole { number with significand } cs
    | _, _ => readWhole { number with exponent := number.exponent + 1, full := true } cs

/-- Takes in the digits after the point. Once one has no room, it and all that follow
are dropped. -/
def readFraction (number : Scaled) : List Char → Scaled
  | [] => number
  | c :: cs =>
    match number.push? c with
    | some significand =>
      readFraction { number with significand, exponent := number.exponent - 1 } cs
    | none => number

def ofLiteral (literal : List Char) : Scaled :=
  let body := literal.dropWhile (· = '-')
  let whole := body.takeWhile Char.isDigit
  let (fraction, rest) := match body.drop whole.length with
    | '.' :: rest => (rest.takeWhile Char.isDigit, rest.dropWhile Char.isDigit)
    | rest => ([], rest)
  let written := rest.drop 1
  let magnitude : Int := (Text.digitsFrom? 0 (written.filter Char.isDigit)).getD 0
  let number := (readWhole {} whole).readFraction fraction
  { number with
    exponent := number.exponent + if written.head? = some '-' then -magnitude else magnitude }

/-- The largest power of ten that is a finite double. -/
def largestPower : Int := 308

/-- The number stays finite when it is scaled as doubles are: both factors are rounded, and then
their product. -/
def fitsDouble (number : Scaled) : Bool :=
  if number.significand = 0 || number.exponent < 0 then true
  else if largestPower < number.exponent then false
  else
    roundToDouble number.significand *
      roundToDouble (Nat.pow 10 number.exponent.toNat) < doubleBound

end Scaled

namespace Value

mutual

/-- The value can be taken in whole, with less than `room` levels of nesting. -/
def isHoldable (room : Nat) : Value → Bool
  | .null => true
  | .bool _ => true
  | .number literal => (Scaled.ofLiteral literal).fitsDouble
  | .string text => text.isSome
  | .array items => 1 < room && itemsHoldable (room - 1) items
  | .object members => 1 < room && membersHoldable (room - 1) members

def itemsHoldable (room : Nat) : List Value → Bool
  | [] => true
  | item :: items => isHoldable room item && itemsHoldable room items

def membersHoldable (room : Nat) : List (Name × Value) → Bool
  | [] => true
  | (name, value) :: members =>
    name.isSome && isHoldable room value && membersHoldable room members

end

end Value

end MacroScript.Json
