/-!
Signed 64-bit integers as decimal text.

`decimal` writes an integer, `read?` reads one. Reading takes an optional sign and one or more
ASCII digits, leading zeros among them, and refuses what does not fit in 64 bits.
-/

namespace TextTemplate.Number

/-- The decimal digits of an integer, after a minus sign if it is negative. -/
def decimalDigits (n : Int) : List Char :=
  if n < 0 then '-' :: Nat.toDigits 10 n.natAbs else Nat.toDigits 10 n.natAbs

/-- An integer in decimal notation. -/
def decimal (n : Int64) : String :=
  String.ofList (decimalDigits n.toInt)

/-- The integer as a 64-bit integer, if it fits. -/
def ofInt? (n : Int) : Option Int64 :=
  if Int64.minValue.toInt ≤ n ∧ n ≤ Int64.maxValue.toInt then some (Int64.ofInt n) else none

/-- The natural number as a 64-bit integer; the largest one stands for all that do not fit. -/
def ofNat (n : Nat) : Int64 :=
  (ofInt? n).getD Int64.maxValue

/-- The magnitude of the smallest integer, which no other integer exceeds. -/
def maxMagnitude : Nat := 9223372036854775808

/-- The number that the digits `cs` write after those of `n`. Reading stops as soon as it exceeds
`limit`. -/
def readUpTo? (limit n : Nat) : List Char → Option Nat
  | [] => some n
  | c :: cs =>
    let next := 10 * n + (c.toNat - '0'.toNat)
    if next ≤ limit then readUpTo? limit next cs else none

theorem le_ofDigitChars (cs : List Char) (n : Nat) : n ≤ Nat.ofDigitChars 10 cs n := by
  induction cs generalizing n with
  | nil => exact Nat.le_of_eq Nat.ofDigitChars_nil.symm
  | cons c cs ih =>
    rw [Nat.ofDigitChars_cons]
    have grows := ih (10 * n + (c.toNat - '0'.toNat))
    omega

/-- Stopping early changes nothing: the number only grows with each digit. -/
theorem readUpTo?_eq {limit n : Nat} (within : n ≤ limit) (cs : List Char) :
    readUpTo? limit n cs =
      if Nat.ofDigitChars 10 cs n ≤ limit then some (Nat.ofDigitChars 10 cs n) else none := by
  induction cs generalizing n with
  | nil => rw [readUpTo?, Nat.ofDigitChars_nil, if_pos within]
  | cons c cs ih =>
    rw [readUpTo?, Nat.ofDigitChars_cons]
    by_cases fits : 10 * n + (c.toNat - '0'.toNat) ≤ limit
    · rw [if_pos fits, ih fits]
    · have grows := le_ofDigitChars cs (10 * n + (c.toNat - '0'.toNat))
      rw [if_neg fits, if_neg (by omega)]

/-- The number that a run of one or more digits stands for, if some integer has that magnitude. -/
def readDigits? (cs : List Char) : Option Nat :=
  if !cs.isEmpty && cs.all Char.isDigit then readUpTo? maxMagnitude 0 cs else none

/-- The sign at the front of `cs`, true for a minus, and what follows it. A plus sign and no sign
mean the same. -/
def splitSign : List Char → Bool × List Char
  | '-' :: cs => (true, cs)
  | '+' :: cs => (false, cs)
  | cs => (false, cs)

/-- The integer that `cs` writes, if it writes one that fits in 64 bits. -/
def read? (cs : List Char) : Option Int64 :=
  let (negative, digits) := splitSign cs
  (readDigits? digits).bind fun n => ofInt? (if negative then -(n : Int) else n)

end TextTemplate.Number
