import MacroScript.Shell.Double

/-! Escapes in texts, and formats into which arguments are put. -/

namespace MacroScript.Shell

def octal : (count : Nat) → (value : Nat) → List Char → Nat × List Char
  | count + 1, value, c :: cs =>
    if '0' ≤ c ∧ c ≤ '7' then octal count (value * 8 + (c.toNat - '0'.toNat)) cs
    else (value, c :: cs)
  | _, value, cs => (value, cs)

def simpleEscape? : Char → Option Char
  | 'a' => some '\x07'
  | 'b' => some '\x08'
  | 'e' => some '\x1b'
  | 'f' => some '\x0c'
  | 'n' => some '\n'
  | 'r' => some '\r'
  | 't' => some '\t'
  | 'v' => some '\x0b'
  | '\\' => some '\\'
  | _ => none

/-- What an escape stands for, given the text after the backslash, and the text after it. A
backslash before anything else stands for itself. -/
def readEscape (text : List Char) : Char × List Char :=
  match text with
  | c :: rest =>
    match simpleEscape? c with
    | some e => (e, rest)
    | none =>
      if '0' ≤ c && c ≤ '7' then
        let (value, rest) := octal 3 0 text
        (Char.ofNat (value % 256), rest)
      else ('\\', text)
  | [] => ('\\', [])

/-- A text with its escapes replaced, and whether an escape has cut it off. A zero before octal
digits does not count as one of them. -/
def unescape : (steps : Nat) → List Char → List Char × Bool
  | 0, rest => (rest, false)
  | _ + 1, [] => ([], false)
  | steps + 1, '\\' :: rest =>
    match rest with
    | 'c' :: _ => ([], true)
    | _ =>
      let isOctal (c : Char) : Bool := '0' ≤ c && c ≤ '7'
      let rest := if rest.head? = some '0' && rest.tail.head?.any isOctal then rest.tail else rest
      let (c, rest) := readEscape rest
      let (text, cut) := unescape steps rest
      (c :: text, cut)
  | steps + 1, c :: rest =>
    let (text, cut) := unescape steps rest
    (c :: text, cut)

def unescaped (text : List Char) : List Char × Bool := unescape text.length text

structure Conversion where
  left : Bool := false
  plus : Bool := false
  blank : Bool := false
  alternate : Bool := false
  zeros : Bool := false
  width : Nat := 0
  precision : Option Nat := none
  kind : Char := 's'

namespace Conversion

def pad (conversion : Conversion) (text : String) : String :=
  let blanks := String.ofList (List.replicate (conversion.width - text.length) ' ')
  if conversion.left then text ++ blanks else blanks ++ text

/-- Puts a sign or mark before digits, and fills up to the width; zeros come between the two. -/
def padNumber (conversion : Conversion) (zeros : Bool) (mark digits : String) : String :=
  if zeros && !conversion.left then
    let missing := conversion.width - mark.length - digits.length
    mark ++ String.ofList (List.replicate missing '0') ++ digits
  else conversion.pad (mark ++ digits)

/-- Digits with zeros before them, as many as the precision asks for; with a precision of none a
zero has no digits. -/
def precise (conversion : Conversion) (isZero : Bool) (digits : String) : String :=
  match conversion.precision with
  | some 0 => if isZero then "" else digits
  | some n => String.ofList (List.replicate (n - digits.length) '0') ++ digits
  | none => digits

def sign (conversion : Conversion) (negative : Bool) : String :=
  if negative then "-" else if conversion.plus then "+" else if conversion.blank then " " else ""

def signed (conversion : Conversion) (n : Int) : String :=
  conversion.padNumber (conversion.zeros && conversion.precision.isNone) (conversion.sign (n < 0))
    (conversion.precise (n = 0) (Text.decimal n.natAbs))

def unsigned (conversion : Conversion) (n : Nat) : String :=
  let (mark, digits) := match conversion.kind with
    | 'x' => ("0x", String.ofList (Nat.toDigits 16 n))
    | 'X' => ("0X", String.ofList ((Nat.toDigits 16 n).map Char.toUpper))
    | 'o' => ("", String.ofList (Nat.toDigits 8 n))
    | _ => ("", Text.decimal n)
  let digits := conversion.precise (n = 0) digits
  let digits := if conversion.kind = 'o' && conversion.alternate && !digits.startsWith "0" then
      "0" ++ digits
    else digits
  conversion.padNumber (conversion.zeros && conversion.precision.isNone)
    (if conversion.alternate && n ≠ 0 then mark else "") digits

def floating (conversion : Conversion) (number : Double) : String :=
  let lower := conversion.kind.toLower
  let places := conversion.precision.getD 6
  let text := match number with
    | .finite negative mantissa exponent =>
      let digits :=
        if lower = 'f' then fixedText conversion.alternate places mantissa exponent
        else if lower = 'e' then scientificText conversion.alternate places mantissa exponent
        else if lower = 'g' then generalText conversion.alternate places mantissa exponent
        else hexadecimalText conversion.alternate conversion.precision mantissa exponent
      if lower = 'a' then
        conversion.padNumber conversion.zeros (conversion.sign negative ++ "0x")
          (String.ofList (digits.toList.drop 2))
      else conversion.padNumber conversion.zeros (conversion.sign negative) digits
    | .infinite negative => conversion.pad (conversion.sign negative ++ "inf")
    | .notANumber negative => conversion.pad (conversion.sign negative ++ "nan")
  if conversion.kind = lower then text else text.map Char.toUpper

def text (conversion : Conversion) (argument : String) : String :=
  conversion.pad (match conversion.precision with
    | some n => String.ofList (argument.toList.take n)
    | none => argument)

end Conversion

/-- How the use of a format ended: well, cut off by an escape, or for a reason. -/
inductive FormatEnd where
  | complete
  | cutOff
  | failed (reason : String)

/-- A format with arguments put in, newest character first, the arguments that are left, and what
there is to complain of. -/
structure Filling where
  printed : List Char := []
  arguments : List String
  complaints : List String := []

namespace Filling

def print (filling : Filling) (text : String) : Filling :=
  { filling with printed := text.toList.reverse ++ filling.printed }

def next (filling : Filling) : Option String × Filling :=
  (filling.arguments.head?, { filling with arguments := filling.arguments.tail })

/-- Complains of an argument that is no number, or a number only at its start. -/
def check (filling : Filling) (argument : String) (rest : List Char) (outOfRange : Bool) :
    Filling :=
  let complain (reason : String) : Filling :=
    { filling with complaints := filling.complaints ++ [argument ++ ": " ++ reason] }
  if !rest.isEmpty then
    if rest = argument.toList then complain "expected numeric value"
    else complain "not completely converted"
  else if outOfRange then complain "Numerical result out of range"
  else filling

def quotedNumber? (argument : String) : Option Nat :=
  match argument.toList with
  | '\x27' :: rest => some ((rest.head?.map Char.toNat).getD 0)
  | '\x22' :: rest => some ((rest.head?.map Char.toNat).getD 0)
  | _ => none

def nextInteger (filling : Filling) : Int × Filling :=
  match filling.next with
  | (none, filling) => (0, filling)
  | (some argument, filling) =>
    match quotedNumber? argument with
    | some n => (n, filling)
    | none =>
      let reading := Reading.ofText true argument.toList
      (reading.clamped,
        filling.check argument reading.rest (reading.clamped ≠ reading.value))

def nextNatural (filling : Filling) : Nat × Filling :=
  match filling.next with
  | (none, filling) => (0, filling)
  | (some argument, filling) =>
    match quotedNumber? argument with
    | some n => (n, filling)
    | none =>
      let reading := Reading.ofText true argument.toList
      (reading.unsigned, filling.check argument reading.rest (wordSize ≤ reading.size))

def nextDouble (filling : Filling) : Double × Filling :=
  match filling.next with
  | (none, filling) => (.finite false 0 0, filling)
  | (some argument, filling) =>
    match quotedNumber? argument with
    | some n => (.ofFraction false n 1, filling)
    | none =>
      let reading := DoubleReading.ofText argument.toList
      (reading.value, filling.check argument reading.rest reading.outOfRange)

end Filling

/-- The width or precision at the start of a text, which may be taken from an argument, and the text
after it. -/
def leadingSize (filling : Filling) (text : List Char) : Int × Filling × List Char :=
  match text with
  | '*' :: rest =>
    let (n, filling) := filling.nextInteger
    (n, filling, rest)
  | _ =>
    let (n, _, rest) := leadingDigits 10 0 0 text
    (n, filling, rest)

def readConversion (filling : Filling) (text : List Char) : Conversion × Filling × List Char :=
  let isFlag (c : Char) : Bool := ['#', '-', '+', ' ', '0'].contains c
  let flags := text.takeWhile isFlag
  let (width, filling, rest) := leadingSize filling (text.drop flags.length)
  let (precision, filling, rest) := match rest with
    | '.' :: rest =>
      let (n, filling, rest) := leadingSize filling rest
      (if n < 0 then none else some n.toNat, filling, rest)
    | _ => (none, filling, rest)
  ({ left := flags.contains '-' || width < 0
     plus := flags.contains '+'
     blank := flags.contains ' '
     alternate := flags.contains '#'
     zeros := flags.contains '0'
     width := width.natAbs
     precision }, filling, rest)

/-- Puts the next argument in under a conversion; nothing comes of a kind that is not known. -/
def Filling.convert? (filling : Filling) (conversion : Conversion) : Option (Filling × Bool) :=
  let kind := conversion.kind
  if kind = 's' then
    let (argument, filling) := filling.next
    some (filling.print (conversion.text (argument.getD "")), false)
  else if kind = 'b' then
    let (argument, filling) := filling.next
    let (text, cut) := unescaped (argument.getD "").toList
    some (filling.print (conversion.text (String.ofList text)), cut)
  else if kind = 'c' then
    let (argument, filling) := filling.next
    let c := ((argument.getD "").toList.head?).getD '\x00'
    some (filling.print (conversion.pad (String.singleton c)), false)
  else if kind = 'd' || kind = 'i' then
    let (n, filling) := filling.nextInteger
    some (filling.print (conversion.signed n), false)
  else if ['o', 'u', 'x', 'X'].contains kind then
    let (n, filling) := filling.nextNatural
    some (filling.print (conversion.unsigned n), false)
  else if ['a', 'e', 'f', 'g'].contains kind.toLower then
    let (number, filling) := filling.nextDouble
    some (filling.print (conversion.floating number), false)
  else none

def fillOnce : (steps : Nat) → List Char → Filling → Filling × FormatEnd
  | 0, _, filling => (filling, .complete)
  | _ + 1, [], filling => (filling, .complete)
  | steps + 1, c :: rest, filling =>
    if c = '\\' then
      let (c, rest) := readEscape rest
      fillOnce steps rest (filling.print (String.singleton c))
    else if c ≠ '%' then fillOnce steps rest (filling.print (String.singleton c))
    else if rest.head? = some '%' then fillOnce steps (rest.drop 1) (filling.print "%")
    else
      let (conversion, filling, after) := readConversion filling rest
      match after with
      | [] => (filling, .failed "missing format character")
      | kind :: after =>
        match filling.convert? { conversion with kind } with
        | some (filling, true) => (filling, .cutOff)
        | some (filling, false) => fillOnce steps after filling
        | none =>
          let directive := String.ofList ('%' :: rest.take (rest.length - after.length))
          (filling, .failed (directive ++ ": invalid directive"))

def fillRepeatedly (format : List Char) : (steps : Nat) → Filling → Filling × FormatEnd
  | 0, filling => (filling, .complete)
  | steps + 1, filling =>
    let count := filling.arguments.length
    match fillOnce (format.length + 1) format filling with
    | (filling, .complete) =>
      if filling.arguments.isEmpty || filling.arguments.length = count then (filling, .complete)
      else fillRepeatedly format steps filling
    | result => result

end MacroScript.Shell
