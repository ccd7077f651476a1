import Hyperfiction.Script.Builtin.Place
import Hyperfiction.Script.Builtin.Plan
import Hyperfiction.Script.Operator

/-! # Built-in functions of numbers and ranges -/

namespace Hyperfiction.Script.Builtin

/-! ## Bits -/

/-- How many bits an integer has. -/
def wordSize : Nat := 64

/-- The bits of an integer, as a natural number. -/
def bitsOf (n : Int) : Nat :=
  (n % UInt64.size).toNat

/-- The integer of some bits. -/
def ofBits (bits : Nat) : Int :=
  Int.bmod bits UInt64.size

/-- The bits that start at an index, at most `count`; no bits start anywhere. -/
def bitSpan? (start count : Int) : Option Span :=
  if count ≤ 0 then some { start := 0, count := 0 }
  else (place? wordSize start).map fun n =>
    { start := n, count := min count.toNat (wordSize - n) }

/-- The lowest of some bits. -/
def lowBits (bits count : Nat) : Nat :=
  bits % (1 <<< count)

/-- Some bits of an integer, as an integer. -/
def getBits (n : Int) (s : Span) : Int :=
  ofBits (lowBits (bitsOf n >>> s.start) s.count)

/-- An integer with other bits in a part of it. -/
def setBits (n : Int) (s : Span) (other : Int) : Int :=
  let bits := bitsOf n
  let stop := s.start + s.count
  ofBits (lowBits bits s.start + lowBits (bitsOf other) s.count <<< s.start +
    (bits >>> stop) <<< stop)

/-- Goes on with a part of the bits, if it starts among them. -/
def withBits (part : Option Span) (next : Span → Plan) : Plan :=
  match part with
  | some s => next s
  | none => .failed "Bit index out of bounds"

/-- The part of the bits that arguments name. -/
def bitArgs? (args : List Datum) : Option (Option Span) :=
  (partArgs? args).map fun (start, count) => bitSpan? start count

/-- Bits to walk over. -/
def bitSeries (n : Int) (s : Span) : Plan :=
  .value (.series "bits" ((List.range s.count).map fun i =>
    .bool ((bitsOf n).testBit (s.start + i))))

/-! ## Integers -/

/-- The digits of the bits of an integer in a base. -/
def digits (base : Nat) (n : Int) : Datum :=
  .str (String.ofList (Nat.toDigits base (bitsOf n)))

/-- The functions of the bits of an integer. -/
def ofBitField (name : String) (n : Int) (args : List Datum) : Option Plan :=
  match name, args with
  | "get_bit", [.int i] =>
    some (withBits (bitSpan? i 1) fun s => .value (.bool ((bitsOf n).testBit s.start)))
  | "set_bit", [.int i, .bool b] =>
    some (withBits (bitSpan? i 1) fun s => .change (.int (setBits n s (if b then 1 else 0))))
  | "get_bits", args => (bitArgs? args).map (withBits · fun s => .value (.int (getBits n s)))
  | "set_bits", [.int start, .int count, .int m] =>
    some (withBits (bitSpan? start count) fun s => .change (.int (setBits n s m)))
  | "set_bits", [d, .int m] =>
    (bitArgs? [d]).map (withBits · fun s => .change (.int (setBits n s m)))
  | "bits", [] => some (bitSeries n { start := 0, count := wordSize })
  | "bits", [.int start] => some (withBits (bitSpan? start wordSize) (bitSeries n))
  | "bits", args => (bitArgs? args).map (withBits · (bitSeries n))
  | _, _ => none

/-- The functions of integers. -/
def ofInteger (name : String) (n : Int) (args : List Datum) : Option Plan :=
  match name, args with
  | "abs", [] => some (.lift (checked "Negation" n.natAbs))
  | "sign", [] => some (.value (.int n.sign))
  | "is_zero", [] => some (.value (.bool (n = 0)))
  | "is_odd", [] => some (.value (.bool (n % 2 = 1)))
  | "is_even", [] => some (.value (.bool (n % 2 = 0)))
  | "to_int", [] => some (.value (.int n))
  | "to_float", [] => some (.value (.float (Float.ofInt n)))
  | "to_hex", [] => some (.value (digits 16 n))
  | "to_octal", [] => some (.value (digits 8 n))
  | "to_binary", [] => some (.value (digits 2 n))
  | _, _ => ofBitField name n args

/-! ## Floating-point numbers -/

/-- The circle constant, and the base of the natural logarithms. -/
def pi : Float := 3.141592653589793
def euler : Float := 2.718281828459045

/-- A number without its fraction. -/
def truncated (x : Float) : Float :=
  if x < 0.0 then x.ceil else x.floor

/-- The sign of a number. -/
def floatSign (x : Float) : Plan :=
  if x == 0.0 then .value (.int 0)
  else if x.isNaN then .failed "Sign of NaN is undefined"
  else .value (.int (if x < 0.0 then -1 else 1))

/-- The integer a number is without its fraction. -/
def floatToInt (x : Float) : Plan :=
  if x > 9223372036854775807.0 ∨ x < -9223372036854775808.0 then .failed "Integer overflow"
  else .value (.int x.toInt64.toInt)

/-- The functions from numbers to numbers. -/
def realFunction? : String → Option (Float → Float)
  | "abs" => some Float.abs
  | "sqrt" => some Float.sqrt
  | "exp" => some Float.exp
  | "ln" => some Float.log
  | "log" => some Float.log10
  | "sin" => some Float.sin
  | "cos" => some Float.cos
  | "tan" => some Float.tan
  | "asin" => some Float.asin
  | "acos" => some Float.acos
  | "atan" => some Float.atan
  | "sinh" => some Float.sinh
  | "cosh" => some Float.cosh
  | "tanh" => some Float.tanh
  | "asinh" => some Float.asinh
  | "acosh" => some Float.acosh
  | "atanh" => some Float.atanh
  | "to_radians" => some fun x => x * (pi / 180.0)
  | "to_degrees" => some fun x => x * (180.0 / pi)
  | "floor" => some Float.floor
  | "ceiling" => some Float.ceil
  | "round" => some Float.round
  | "int" => some truncated
  | "fraction" => some fun x => x - truncated x
  | "to_float" => some id
  | _ => none

/-- The functions of floating-point numbers. -/
def ofReal (name : String) (x : Float) (args : List Datum) : Option Plan :=
  match name, args with
  | "sign", [] => some (floatSign x)
  | "is_zero", [] => some (.value (.bool (x == 0.0)))
  | "is_nan", [] => some (.value (.bool x.isNaN))
  | "is_finite", [] => some (.value (.bool x.isFinite))
  | "is_infinite", [] => some (.value (.bool x.isInf))
  | "to_int", [] => some (floatToInt x)
  | "log", [.float base] => some (.value (.float (x.log / base.log)))
  | "atan", [.float y] => some (.value (.float (x.atan2 y)))
  | "hypot", [.float y] => some (.value (.float (x * x + y * y).sqrt))
  | name, [] => (realFunction? name).map fun f => .value (.float (f x))
  | _, _ => none

/-- The smaller of two numbers or texts, or the greater one. -/
def extreme (greater : Bool) : Datum → Datum → Option Datum
  | .int x, .int y => some (.int (if greater then max x y else min x y))
  | .float x, .float y => some (.float (if decide (x < y) == greater then y else x))
  | .int x, .float y =>
    let x := Float.ofInt x
    some (.float (if decide (x < y) == greater then y else x))
  | .float x, .int y =>
    let y := Float.ofInt y
    some (.float (if decide (x < y) == greater then y else x))
  | .str x, .str y => some (.str (if decide (x < y) == greater then y else x))
  | .char x, .char y => some (.char (if decide (x < y) == greater then y else x))
  | _, _ => none

/-! ## Ranges -/

/-- The functions that make ranges. A step has to lead on. -/
def newRange? : List Datum → Option Plan
  | [.int first, .int last] => some (.value (.range first last false))
  | [.int first, .int last, .int step] =>
    some (if step = 0 then .failed "step value cannot be zero"
      else .value (.steps (.ints first last step)))
  | [.float first, .float last, .float step] =>
    some (if first + step == first then .failed "step value cannot be zero"
      else .value (.steps (.floats first last step)))
  | _ => none

/-- The functions of ranges. -/
def ofRange (name : String) (first last : Int) (closed : Bool) (args : List Datum) : Option Plan :=
  match name, args with
  | "start", [] => some (.value (.int first))
  | "end", [] => some (.value (.int last))
  | "is_inclusive", [] => some (.value (.bool closed))
  | "is_exclusive", [] => some (.value (.bool !closed))
  | "is_empty", [] => some (.value (.bool !(Datum.inRange first last closed first)))
  | "contains", [.int n] => some (.value (.bool (Datum.inRange first last closed n)))
  | _, _ => none

end Hyperfiction.Script.Builtin
