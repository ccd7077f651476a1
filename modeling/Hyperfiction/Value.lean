import Hyperfiction.Decimal.Layout
import Hyperfiction.Table

/-! # Values

    The dynamic values that story variables hold, helpers take and give, and
    saved games store. A number is an integer or a floating-point number, and
    the two are different values even when they are equal as numbers.
-/

namespace Hyperfiction

/-- A value of a story variable. -/
inductive Value where
  | null
  | bool (b : Bool)
  /-- An integer, from `-2^63` up to and without `2^64`. -/
  | int (n : Int)
  /-- A finite floating-point number. -/
  | float (x : Float)
  | str (s : String)
  | arr (items : List Value)
  | obj (fields : List (String × Value))
deriving Inhabited

/-- The variables of a story, by name. -/
abbrev StateBag := Fields Value

namespace Value

/-! ## Equality -/

mutual

/-- Whether two values are equal; floating-point numbers are compared as numbers. -/
def same : Value → Value → Bool
  | .null, .null => true
  | .bool a, .bool b => a == b
  | .int a, .int b => a == b
  | .float a, .float b => a == b
  | .str a, .str b => a == b
  | .arr xs, .arr ys => sameItems xs ys
  | .obj xs, .obj ys => sameFields xs ys
  | _, _ => false

/-- Whether two lists of values are equal item by item. -/
def sameItems : List Value → List Value → Bool
  | [], [] => true
  | x :: xs, y :: ys => same x y && sameItems xs ys
  | _, _ => false

/-- Whether two objects have equal fields. -/
def sameFields : List (String × Value) → List (String × Value) → Bool
  | [], [] => true
  | (k, x) :: xs, (l, y) :: ys => k == l && same x y && sameFields xs ys
  | _, _ => false

end

/-! ## Reading -/

/-- Whether a value counts as true in a template's condition: all do but
    `null`, `false`, zero, not-a-number and the empty text. -/
def truthy : Value → Bool
  | .null => false
  | .bool b => b
  | .int n => n ≠ 0
  | .float x => x != 0.0 && !x.isNaN
  | .str s => !s.isEmpty
  | .arr _ => true
  | .obj _ => true

/-- The value as a floating-point number's integer, if it has no fraction and
    is small enough to be one. -/
def wholePart? (x : Float) (limit : Float) : Option Int :=
  if x.floor == x && x.abs < limit then some x.toInt64.toInt else none

/-- A number as it is shown: small whole numbers without a fraction, all others
    in full. -/
def displayFloat (x : Float) : List Char :=
  match wholePart? x 1e15 with
  | some n => Decimal.ofInt n
  | none => Decimal.plain.ofFloat x

end Value

end Hyperfiction
