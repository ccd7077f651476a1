import Hyperfiction.Json.Parser

/-! # Numerals

    Whole numbers as readers and authors type them: decimal digits, leading zeros
    and all, with a plus sign before them if they like.
-/

namespace Hyperfiction.Text

/-- The digits of a numeral, without the plus sign. -/
def unsigned : List Char → List Char
  | '+' :: cs => cs
  | cs => cs

/-- The number that a numeral writes. -/
def natural? (cs : List Char) : Option Nat :=
  let digits := unsigned cs
  if !digits.isEmpty && digits.all Json.isDigit then some (Json.ofDigits digits) else none

/-- The number that a numeral writes, if it fits in 64 bits. -/
def word64? (cs : List Char) : Option UInt64 :=
  match natural? cs with
  | some n => if n < UInt64.size then some (UInt64.ofNat n) else none
  | none => none

end Hyperfiction.Text
