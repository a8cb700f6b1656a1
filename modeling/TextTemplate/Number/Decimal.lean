import TextTemplate.Number.Integer

/-!
Reading floats in decimal notation.

A float is an optional sign before `inf`, `infinity` or `nan` in any case of letters, or before a
decimal: digits with at most one dot among or around them, at least one digit in all, and an
optional exponent. The result is the double nearest to the decimal. Exponents are read only up to a
bound far beyond the range of doubles: digits past it do not count (`Decimal.readExponentSize?`). This
shows only where about as many zeros stand before or after the dot.
-/

namespace TextTemplate.Number

/-- A decimal: `mantissa` times ten to the power `exponent`. -/
structure Decimal where
  mantissa : Nat
  exponent : Int
deriving DecidableEq, Repr

namespace Decimal

/-- Where the highest digit of the decimal stands: it is below ten to this power. -/
def magnitude (decimal : Decimal) : Int :=
  (Nat.toDigits 10 decimal.mantissa).length + decimal.exponent

/-- The double nearest to the decimal. Exponents beyond the range of doubles are decided without
computing the power of ten. -/
def toFloat (decimal : Decimal) : Float :=
  if decimal.mantissa = 0 ∨ decimal.magnitude < -400 then 0.0
  else if 400 < decimal.magnitude then 1.0 / 0.0
  else
    Float.ofScientific decimal.mantissa (decide (decimal.exponent < 0)) decimal.exponent.natAbs

/-- The size from which on an exponent takes up no further digits. -/
def exponentBound : Nat := 65536

/-- The exponent `n` with one more digit, unless it has reached the bound. -/
def pushDigit (n : Nat) (digit : Char) : Nat :=
  if n < exponentBound then 10 * n + (digit.toNat - '0'.toNat) else n

/-- The size of the exponent that a run of one or more digits writes. -/
def readExponentSize? (cs : List Char) : Option Nat :=
  if !cs.isEmpty && cs.all Char.isDigit then some (cs.foldl pushDigit 0) else none

/-- The exponent that `cs` writes: nothing at all, or the letter `e` and a signed integer. -/
def readExponent? : List Char → Option Int
  | [] => some 0
  | c :: cs =>
    if c = 'e' ∨ c = 'E' then
      let (negative, digits) := splitSign cs
      (readExponentSize? digits).map fun n => if negative then -(n : Int) else n
    else none

/-- The number of digits that a decimal keeps. No double has as many digits, and neither has a
point halfway between two doubles. -/
def precision : Nat := 800

/-- The decimal of digits, the last of which counts ten to the power `exponent`. Nonzero digits
beyond the precision give way to a single one: they tell only that the decimal is larger than what
stands before them. -/
def ofDigits (digits : List Char) (exponent : Int) : Decimal :=
  let significant := digits.dropWhile (· == '0')
  let mantissa := Nat.ofDigitChars 10 (significant.take precision) 0
  let beyond := significant.drop precision
  if beyond.all (· == '0') then ⟨mantissa, exponent + beyond.length⟩
  else ⟨10 * mantissa + 1, exponent + beyond.length - 1⟩

/-- The decimal that `cs` writes, if it writes one. -/
def read? (cs : List Char) : Option Decimal :=
  let whole := cs.takeWhile Char.isDigit
  let rest := cs.dropWhile Char.isDigit
  let (fraction, rest) :=
    match rest with
    | '.' :: rest => (rest.takeWhile Char.isDigit, rest.dropWhile Char.isDigit)
    | _ => ([], rest)
  let digits := whole ++ fraction
  if digits.isEmpty then none
  else (readExponent? rest).map fun exponent => ofDigits digits (exponent - fraction.length)

end Decimal

/-- The float that `cs` writes without a sign, if it writes one. -/
def readUnsignedFloat? (cs : List Char) : Option Float :=
  let lowered := String.ofList (cs.map Char.toLower)
  if lowered = "inf" ∨ lowered = "infinity" then some (1.0 / 0.0)
  else if lowered = "nan" then some (0.0 / 0.0)
  else (Decimal.read? cs).map Decimal.toFloat

/-- The float that `cs` writes, if it writes one. -/
def readFloat? (cs : List Char) : Option Float :=
  let (negative, digits) := splitSign cs
  (readUnsignedFloat? digits).map fun x => if negative then -x else x

end TextTemplate.Number
