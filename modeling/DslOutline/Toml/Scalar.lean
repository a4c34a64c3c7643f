import DslOutline.Toml.Lexical
import DslOutline.Toml.Value

/-!
# Numbers, truth values and dates of TOML

A scalar without quotes is a run of letters, digits and a few signs; what it is follows from its
shape. Underscores may separate digits, but only one at a time and only between two digits.
-/

namespace DslOutline.Toml

/-- The digits of a run in which single underscores may separate digits; `ok` tells digits. -/
def digitsOf? (ok : Char → Bool) (cs : List Char) : Option (List Char) :=
  let parts := cs.splitOnP (· == '_')
  if parts.all fun part => !part.isEmpty && part.all ok then some parts.flatten else none

/-- The number that digits denote in a base. -/
def numberOf (base : Nat) (digits : List Char) : Nat :=
  digits.foldl (fun n c => base * n + (Charset.hexValue? c).getD 0) 0

/-- Whether a character is a digit in a base up to ten. -/
def isDigitBelow (base : Nat) (c : Char) : Bool :=
  c.isDigit && c.toNat < '0'.toNat + base

/-- The sign of a number, if it has one, and the rest. -/
def splitSign : List Char → Option Bool × List Char
  | '+' :: cs => (some false, cs)
  | '-' :: cs => (some true, cs)
  | cs => (none, cs)

/-- The decimal digits of a number without superfluous zeros in front. -/
def decimalDigits? (cs : List Char) : Option (List Char) := do
  let digits ← digitsOf? Char.isDigit cs
  if digits.head? = some '0' ∧ digits.length ≠ 1 then none else return digits

/-- Whether a whole number fits into 128 bits, with or without a sign. -/
def fitsInteger (n : Int) : Bool :=
  -0x80000000000000000000000000000000 ≤ n && n < 0x100000000000000000000000000000000

/-- The whole number that a scalar denotes. -/
def integerOf? (cs : List Char) : Option Int :=
  match cs with
  | '0' :: 'x' :: cs =>
    (digitsOf? (fun c => (Charset.hexValue? c).isSome) cs).map fun ds => (numberOf 16 ds : Int)
  | '0' :: 'o' :: cs => (digitsOf? (isDigitBelow 8) cs).map fun ds => (numberOf 8 ds : Int)
  | '0' :: 'b' :: cs => (digitsOf? (isDigitBelow 2) cs).map fun ds => (numberOf 2 ds : Int)
  | _ =>
    let (sign, cs) := splitSign cs
    (decimalDigits? cs).map fun ds =>
      let n : Int := numberOf 10 ds
      if sign = some true then -n else n

/-- A decimal number: digits, and the power of ten of the last one. -/
structure Decimal where
  /-- The number that the digits denote. -/
  digits : Nat
  /-- The power of ten. -/
  exponent : Int

/-- The exponent that a text after an `e` denotes. -/
def exponentOf? (cs : List Char) : Option Int :=
  let (sign, cs) := splitSign cs
  (digitsOf? Char.isDigit cs).map fun ds =>
    let n : Int := numberOf 10 ds
    if sign = some true then -n else n

/-- The decimal number that a floating-point number is written as, without its sign; it has a
fraction or an exponent. -/
def decimalOf? (body : List Char) : Option Decimal := do
  let isMark (c : Char) : Bool := c == 'e' || c == 'E'
  let mantissa := body.takeWhile fun c => !isMark c
  let tail := body.dropWhile fun c => !isMark c
  let whole ← decimalDigits? (mantissa.takeWhile (· != '.'))
  let fraction ←
    match mantissa.dropWhile (· != '.') with
    | [] => if tail.isEmpty then none else some []
    | _ :: cs => digitsOf? Char.isDigit cs
  let exponent ← match tail with | [] => some 0 | _ :: cs => exponentOf? cs
  return ⟨numberOf 10 (whole ++ fraction), exponent - fraction.length⟩

/-- The least number that is too large for a floating-point number with 53 bits, after rounding. -/
def floatLimit : Nat := Nat.pow 2 1024 - Nat.pow 2 970

/-- Whether a decimal number is not too large for a floating-point number. The digits are compared
with the limit only if the order of magnitude does not decide it. -/
def Decimal.fitsFloat (d : Decimal) : Bool :=
  let magnitude : Int := (Nat.toDigits 10 d.digits).length + d.exponent
  if d.digits = 0 ∨ magnitude < 308 then true
  else if 310 < magnitude then false
  else if 0 ≤ d.exponent then d.digits * Nat.pow 10 d.exponent.toNat < floatLimit
  else d.digits < floatLimit * Nat.pow 10 (-d.exponent).toNat

/-- Whether a scalar is a floating-point number. -/
def isFloat (cs : List Char) : Bool :=
  let body := (splitSign cs).2
  body == ['i', 'n', 'f'] || body == ['n', 'a', 'n'] || (decimalOf? body).any Decimal.fitsFloat

/-! ## Dates and times -/

/-- Reads a number of exactly `count` digits. -/
def readDigits? (count : Nat) (cs : List Char) : Option (Nat × List Char) :=
  let digits := cs.take count
  if digits.length = count ∧ digits.all Char.isDigit then some (numberOf 10 digits, cs.drop count)
  else none

/-- The number of days of a month. -/
def daysIn (year month : Nat) : Nat :=
  let leap := year % 4 == 0 && (year % 100 != 0 || year % 400 == 0)
  if month = 2 then (if leap then 29 else 28)
  else if [4, 6, 9, 11].contains month then 30
  else 31

/-- Reads a date and gives back the rest. -/
def readDate? (cs : List Char) : Option (List Char) := do
  let (year, cs) ← readDigits? 4 cs
  let cs ← ['-'].isPrefixOf? cs
  let (month, cs) ← readDigits? 2 cs
  let cs ← ['-'].isPrefixOf? cs
  let (day, cs) ← readDigits? 2 cs
  if 1 ≤ month ∧ month ≤ 12 ∧ 1 ≤ day ∧ day ≤ daysIn year month then return cs else none

/-- Reads the seconds of a time, if they are given, and gives back the rest. -/
def readSeconds? (cs : List Char) : Option (List Char) :=
  match cs with
  | ':' :: cs => do
    let (second, cs) ← readDigits? 2 cs
    if 60 < second then none
    else
      match cs with
      | '.' :: cs =>
        let rest := cs.dropWhile Char.isDigit
        if rest.length = cs.length then none else return rest
      | cs => return cs
  | cs => some cs

/-- Reads a time of day and gives back the rest. -/
def readTime? (cs : List Char) : Option (List Char) := do
  let (hour, cs) ← readDigits? 2 cs
  let cs ← [':'].isPrefixOf? cs
  let (minute, cs) ← readDigits? 2 cs
  if 23 < hour ∨ 59 < minute then none else readSeconds? cs

/-- Whether a text is an offset from universal time, or empty. -/
def isZone (cs : List Char) : Bool :=
  match cs with
  | [] => true
  | ['Z'] => true
  | ['z'] => true
  | sign :: cs =>
    (sign == '+' || sign == '-') &&
      match readDigits? 2 cs with
      | some (hour, ':' :: cs) =>
        hour ≤ 23 && (match readDigits? 2 cs with | some (minute, []) => minute ≤ 59 | _ => false)
      | _ => false

/-- Whether a scalar is a date, a time or both. -/
def isDateTime (cs : List Char) : Bool :=
  match readDate? cs with
  | some [] => true
  | some (c :: rest) =>
    (c == 'T' || c == 't' || c == ' ') &&
      (match readTime? rest with | some rest => isZone rest | none => false)
  | none => readTime? cs == some []

/-! ## Scalars -/

/-- Whether a character may stand in a scalar without quotes. -/
def isScalarChar (c : Char) : Bool :=
  c.isAlphanum || c == '+' || c == '-' || c == '.' || c == '_' || c == ':'

/-- The text of a scalar without quotes: a date may be followed by a space and a time. -/
def scalarText (cs : List Char) : List Char :=
  let first := cs.takeWhile isScalarChar
  match cs.drop first.length with
  | ' ' :: rest =>
    if readDate? first == some [] && rest.head?.any Char.isDigit then
      first ++ ' ' :: rest.takeWhile isScalarChar
    else first
  | _ => first

/-- The value of a scalar without quotes. -/
def scalarOf? (cs : List Char) : Option Value :=
  if cs == "true".toList then some (.boolean true)
  else if cs == "false".toList then some (.boolean false)
  else
    match integerOf? cs with
    | some n => if fitsInteger n then some (.integer n) else none
    | none =>
      if isFloat cs then some (.float (String.ofList cs))
      else if isDateTime cs then some (.dateTime (String.ofList cs))
      else none

/-- Reads a scalar without quotes. -/
def readScalar (cs : List Char) : Option (Value × List Char) :=
  let text := scalarText cs
  (scalarOf? text).map fun v => (v, cs.drop text.length)

end DslOutline.Toml
