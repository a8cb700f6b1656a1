import TextTemplate.Number.Decimal

/-!
The shortest decimal that reads back as a given double.

A finite double is an integer times a power of two. The reals that round to it form an interval,
whose ends belong to it if that integer is even. For one digit, two digits and so on, the two
neighbours of the value on the grid of decimals with that many digits are tested against the
interval in exact integer arithmetic. The first grid with a hit wins; of two hits the nearer one
is taken, and of two equally near ones the larger.
-/

namespace TextTemplate.Number

/-- The magnitude of a finite double: `mantissa` times two to the power `exponent`. -/
structure Binary where
  mantissa : Nat
  exponent : Int
deriving DecidableEq, Repr

namespace Binary

/-- The magnitude that the bits of a finite double encode. -/
def ofBits (bits : UInt64) : Binary :=
  let fraction : Nat := bits.toNat % Nat.pow 2 52
  let biased : Nat := bits.toNat / Nat.pow 2 52 % Nat.pow 2 11
  if biased = 0 then ⟨fraction, -1074⟩ else ⟨Nat.pow 2 52 + fraction, (biased : Int) - 1075⟩

/-- Whether the gap to the next smaller double is half the gap to the next larger one. -/
def isBoundary (x : Binary) : Bool :=
  x.mantissa == Nat.pow 2 52 && decide (-1074 < x.exponent)

/-- `n` times two to the power `x.exponent - 2`, against `m` times ten to the power `p`, both
scaled to integers by one common factor. -/
def scaled (x : Binary) (n : Nat) (m : Nat) (p : Int) : Nat × Nat :=
  let q := x.exponent - 2
  (n * Nat.pow 2 q.toNat * Nat.pow 10 (-p).toNat, m * Nat.pow 10 p.toNat * Nat.pow 2 (-q).toNat)

/-- Whether `m` times ten to the power `p` rounds to `x`. -/
def roundsFrom (x : Binary) (m : Nat) (p : Int) : Bool :=
  let below := if x.isBoundary then 1 else 2
  let (low, value) := x.scaled (4 * x.mantissa - below) m p
  let (high, _) := x.scaled (4 * x.mantissa + 2) m p
  if x.mantissa % 2 = 0 then decide (low ≤ value ∧ value ≤ high)
  else decide (low < value ∧ value < high)

/-- The largest `m` with `m` times ten to the power `p` at most `x`. -/
def floorAt (x : Binary) (p : Int) : Nat :=
  let (value, unit) := x.scaled (4 * x.mantissa) 1 p
  value / unit

/-- Whether `m + 1` is at least as near as `m` to `x`, on the grid of ten to the power `p`. -/
def upperIsNearer (x : Binary) (m : Nat) (p : Int) : Bool :=
  let (value, middle) := x.scaled (8 * x.mantissa) (2 * m + 1) p
  decide (middle ≤ value)

/-- The power of ten at or next below the positive `x`. -/
def decade (x : Binary) : Int :=
  let (value, unit) := x.scaled (4 * x.mantissa) 1 0
  let guess : Int := (Nat.toDigits 10 value).length - (Nat.toDigits 10 unit).length
  if x.floorAt guess = 0 then guess - 1 else guess

/-- The hit, if there is one, on the grid of ten to the power `p`. -/
def hit? (x : Binary) (p : Int) : Option Decimal :=
  let m := x.floorAt p
  match x.roundsFrom m p, x.roundsFrom (m + 1) p with
  | true, true => some ⟨if x.upperIsNearer m p then m + 1 else m, p⟩
  | true, false => some ⟨m, p⟩
  | false, true => some ⟨m + 1, p⟩
  | false, false => none

/-- The first hit on grids that get finer from ten to the power `p` on. -/
def search (x : Binary) : Nat → Int → Decimal
  | 0, p => ⟨x.floorAt p, p⟩
  | fuel + 1, p => (x.hit? p).getD (search x fuel (p - 1))

/-- The shortest decimal that rounds to the positive `x`. Seventeen digits always suffice. -/
def shortest (x : Binary) : Decimal :=
  x.search 17 x.decade

/-- The value of `x` if it is an integer. -/
def toNat? (x : Binary) : Option Nat :=
  let unit := Nat.pow 2 (-x.exponent).toNat
  if x.mantissa % unit = 0 then some (x.mantissa * Nat.pow 2 x.exponent.toNat / unit) else none

end Binary

namespace Decimal

/-- The decimal in positional notation, without an exponent and without zeros at the end of a
fraction. -/
def positional (decimal : Decimal) : List Char :=
  let digits := Nat.toDigits 10 decimal.mantissa
  if 0 ≤ decimal.exponent then digits ++ List.replicate decimal.exponent.toNat '0'
  else
    let places := (-decimal.exponent).toNat
    let padded := List.replicate (places + 1 - digits.length) '0' ++ digits
    let fraction := padded.drop (padded.length - places)
    let kept := (fraction.reverse.dropWhile (· == '0')).reverse
    let whole := padded.take (padded.length - places)
    if kept.isEmpty then whole else whole ++ '.' :: kept

end Decimal

/-- The text of a float. An integer below ten to the sixteenth keeps one zero after the dot; any
other finite value is written positionally with the fewest digits that read back. -/
def floatText (x : Float) : String :=
  if x.isNaN then "NaN"
  else
    let sign := if x.toBits.toNat / Nat.pow 2 63 = 1 then "-" else ""
    if x.isInf then sign ++ "inf"
    else
      let magnitude := Binary.ofBits x.toBits
      match magnitude.toNat? with
      | some n =>
        if n < Nat.pow 10 16 then sign ++ String.ofList (Nat.toDigits 10 n) ++ ".0"
        else sign ++ String.ofList magnitude.shortest.positional
      | none => sign ++ String.ofList magnitude.shortest.positional

end TextTemplate.Number
