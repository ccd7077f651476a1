import Hyperfiction.Decimal.Shortest
import Hyperfiction.Word

/-! # Layout of decimals

    How a shortest decimal is laid out as text: positional inside a range of
    magnitudes, with an exponent outside it. The formats of the library differ
    only in the fields of `Layout`.
-/

namespace Hyperfiction.Decimal

/-- The decisions of a decimal format. The *point* of a number is the place of
    its decimal point, counted from its first digit: 1 for `2.5`, 0 for `0.25`. -/
structure Layout where
  /-- Numbers whose point is from `lowPoint` to `highPoint` are positional. -/
  lowPoint : Int
  highPoint : Int
  /-- Whether an integral positional number ends in `.0`. -/
  keepsFraction : Bool
  /-- Whether a positive exponent carries a plus sign. -/
  signsExponent : Bool

/-- The digits of a natural number. -/
def digitsOf (n : Nat) : List Char :=
  Nat.toDigits 10 n

/-- The text of an integer. -/
def ofInt : Int → List Char
  | .ofNat n => digitsOf n
  | .negSucc n => '-' :: digitsOf (n + 1)

/-- Positional notation of the digits `ds` with the decimal point at `point`. -/
def positional (keepsFraction : Bool) (ds : List Char) (point : Int) : List Char :=
  if point ≤ 0 then '0' :: '.' :: (List.replicate (-point).toNat '0' ++ ds)
  else if (ds.length : Int) ≤ point then
    ds ++ List.replicate (point.toNat - ds.length) '0' ++ (if keepsFraction then ['.', '0'] else [])
  else ds.take point.toNat ++ '.' :: ds.drop point.toNat

/-- Scientific notation of the digits `ds` with the decimal point at `point`. -/
def scientific (signsExponent : Bool) (ds : List Char) (point : Int) : List Char :=
  let fraction := match ds.drop 1 with
    | [] => []
    | rest => '.' :: rest
  let e := point - 1
  ds.take 1 ++ fraction ++ 'e' :: ((if signsExponent && 0 ≤ e then ['+'] else []) ++ ofInt e)

/-- A positive decimal in the given layout. -/
def Layout.write (l : Layout) (d : Scientific) : List Char :=
  let ds := digitsOf d.digits
  let point := (ds.length : Int) + d.exponent
  if l.lowPoint ≤ point ∧ point ≤ l.highPoint then positional l.keepsFraction ds point
  else scientific l.signsExponent ds point

/-- A finite number in the given layout; zero is written `0`, with `.0` if the
    layout keeps fractions, and its sign is kept. -/
def Layout.ofFloat (l : Layout) (x : Float) : List Char :=
  let bits := x.toBits.toNat
  let sign := if Word.half ≤ bits then ['-'] else []
  let size := bits % Word.half
  if size = 0 then sign ++ '0' :: (if l.keepsFraction then ['.', '0'] else [])
  else sign ++ l.write (shortest size)

/-- Every number is written out in full, without an exponent. -/
def plain : Layout :=
  { lowPoint := -400, highPoint := 400, keepsFraction := false, signsExponent := false }

end Hyperfiction.Decimal
