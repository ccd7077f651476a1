/-! # Shortest decimals

    A finite binary floating-point number is `m · 2^q`. The reals that round to
    it form an interval around it, closed exactly when `m` is even. `shortest`
    finds the decimal with the fewest digits in that interval and, of several,
    the one nearest to the number; of two equally near it takes the even one.

    All arithmetic is on natural numbers, so nothing is rounded on the way.
-/

namespace Hyperfiction.Decimal

/-- A decimal `digits · 10^exponent`. -/
structure Scientific where
  /-- The significant digits, read as one number. -/
  digits : Nat
  /-- The power of ten of the last digit. -/
  exponent : Int
deriving DecidableEq, Repr, Inhabited

/-- A finite positive binary floating-point number and its rounding interval,
    all four quantities in units of `num / den`: the number is `4 · mantissa`
    units and the interval reaches `below` and `above` units to either side. -/
structure Binary where
  mantissa : Nat
  /-- How many units below the number still round to it: 2, or 1 under a power of two. -/
  below : Nat
  num : Nat
  den : Nat

/-- The weight of the hidden bit of a mantissa: two to the power of 52. -/
def hiddenBit : Nat := 4503599627370496

/-- How many exponents there are. -/
def exponents : Nat := 2048

/-- Splits the bits of a finite positive number. Subnormal numbers have the
    lowest exponent and no hidden bit. -/
def Binary.ofBits (bits : Nat) : Binary :=
  let fraction := bits % hiddenBit
  let exponent : Nat := bits / hiddenBit % exponents
  let mantissa := if exponent = 0 then fraction else fraction + hiddenBit
  let power : Int := (max exponent 1 : Nat) - 1077
  { mantissa
    below := if fraction = 0 ∧ exponent > 1 then 1 else 2
    num := 1 <<< power.toNat
    den := 1 <<< (-power).toNat }

/-- Whether `units` units round to the number. -/
def Binary.rounds (b : Binary) (num den : Nat) : Bool :=
  let closed := b.mantissa % 2 == 0
  let low := (4 * b.mantissa - b.below) * b.num * den
  let high := (4 * b.mantissa + 2) * b.num * den
  let x := num * b.den
  if closed then low ≤ x && x ≤ high else low < x && x < high

/-- The distance of `num / den` from the number, in units of `1 / (den · b.den)`. -/
def Binary.distance (b : Binary) (num den : Nat) : Nat :=
  let x := num * b.den
  let v := 4 * b.mantissa * b.num * den
  if x ≤ v then v - x else x - v

/-- `10^e` as a quotient. -/
def powerOfTen (e : Int) : Nat × Nat :=
  (Nat.pow 10 e.toNat, Nat.pow 10 (-e).toNat)

/-- The point of the grid `10^e` that is best for the number: one of its two
    neighbours there, if one of them rounds to the number. -/
def Binary.onGrid (b : Binary) (e : Int) : Option Nat :=
  let (up, down) := powerOfTen e
  let lower := 4 * b.mantissa * b.num * down / (b.den * up)
  let fits (n : Nat) : Bool := b.rounds (n * up) down
  let far (n : Nat) : Nat := b.distance (n * up) down
  match fits lower, fits (lower + 1) with
  | true, true =>
    if far lower < far (lower + 1) then some lower
    else if far (lower + 1) < far lower then some (lower + 1)
    else if lower % 2 = 0 then some lower else some (lower + 1)
  | true, false => some lower
  | false, true => some (lower + 1)
  | false, false => none

/-- The first grid with a fitting point, from coarse to fine. -/
def Binary.search (b : Binary) : Nat → Int → Scientific
  | 0, e => { digits := (b.onGrid e).getD 0, exponent := e }
  | n + 1, e =>
    match b.onGrid e with
    | some (d + 1) => { digits := d + 1, exponent := e }
    | _ => b.search n (e - 1)

/-- How many decimal digits a number has. -/
def digitCount (n : Nat) : Nat :=
  (Nat.toDigits 10 n).length

/-- The power of ten of the number's first digit, at most one too high. -/
def Binary.magnitude (b : Binary) : Int :=
  let whole := 4 * b.mantissa * b.num / b.den
  if whole > 0 then digitCount whole
  else 1 - (digitCount (b.den / (4 * b.mantissa * b.num)) : Int)

/-- The decimal of a finite positive number, given by its bits, with the fewest digits. -/
def shortest (bits : Nat) : Scientific :=
  let b := Binary.ofBits bits
  b.search 20 b.magnitude

end Hyperfiction.Decimal
