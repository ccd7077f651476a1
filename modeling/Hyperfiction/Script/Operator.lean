import Hyperfiction.Script.Fault

/-! # Operators of scripts

    What the operators make of data. Integers are exact and an overflow is a
    fault; an integer meets a floating-point number as one of those. Equality
    and order are defined between any two data, but data of different types are
    never equal and never in order. An operator that its operands do not have is
    an unknown function.
-/

namespace Hyperfiction.Script

/-! ## Integers -/

/-- An integer, if it fits 64 bits. -/
def checked (what : String) (n : Int) : Except Fault Datum :=
  if Word.isSigned n then .ok (.int n) else .error (.failed (what ++ " overflow"))

/-- A power of an integer. Beyond the 63rd only the powers of -1, 0 and 1 fit. -/
def integerPower (x y : Int) : Except Fault Datum :=
  if y < 0 then .error (.failed "Integer raised to a negative index")
  else if UInt32.size ≤ y then .error (.failed "Exponential overflow")
  else if x.natAbs ≤ 1 then
    .ok (.int (if x = -1 then (if y % 2 = 0 then 1 else -1) else if y = 0 then 1 else x))
  else if 64 ≤ y then .error (.failed "Power overflow")
  else checked "Power" (Int.pow x y.toNat)

/-- An integer shifted to the left, to the right for a negative amount; bits
    shifted out are lost. -/
def shiftLeft (x y : Int) : Int :=
  if 0 ≤ y then
    if 64 ≤ y then 0 else Int.bmod (x <<< y.toNat) UInt64.size
  else if y ≤ -64 then (if x < 0 then -1 else 0)
  else x.shiftRight y.natAbs

/-- An operator of two integers. -/
def BinaryOp.ofInts (op : BinaryOp) (x y : Int) : Except Fault Datum :=
  match op with
  | .add => checked "Addition" (x + y)
  | .sub => checked "Subtraction" (x - y)
  | .mul => checked "Multiplication" (x * y)
  | .div =>
    if y = 0 then .error (.failed "Division by zero") else checked "Division" (Int.tdiv x y)
  | .mod =>
    if y = 0 then .error (.failed "Modulo division by zero")
    else if y = -1 ∧ x = -Word.half then .error (.failed "Modulo overflow")
    else .ok (.int (Int.tmod x y))
  | .pow => integerPower x y
  | .shl => .ok (.int (shiftLeft x y))
  | .shr => .ok (.int (shiftLeft x (-y)))
  | .bitAnd => .ok (.int (Int64.ofInt x &&& Int64.ofInt y).toInt)
  | .bitOr => .ok (.int (Int64.ofInt x ||| Int64.ofInt y).toInt)
  | .bitXor => .ok (.int (Int64.ofInt x ^^^ Int64.ofInt y).toInt)
  | .eq => .ok (.bool (x = y))
  | .ne => .ok (.bool (x ≠ y))
  | .lt => .ok (.bool (x < y))
  | .le => .ok (.bool (x ≤ y))
  | .gt => .ok (.bool (y < x))
  | .ge => .ok (.bool (y ≤ x))
  | .until => .ok (.range x y false)
  | .through => .ok (.range x y true)

/-! ## Floating-point numbers -/

/-- Digits and exponent of the size of a finite number: `digits * 2 ^ exponent`. -/
def binaryParts (x : Float) : Nat × Int :=
  let bits : Nat := x.toBits.toNat % Word.half
  let e : Nat := bits / Decimal.hiddenBit
  let m : Nat := bits % Decimal.hiddenBit
  if e = 0 then (m, -1074) else (m + Decimal.hiddenBit, (e : Int) - 1075)

/-- The remainder of a division toward zero; it is exact and has the sign of `x`. -/
def floatRemainder (x y : Float) : Float :=
  if x.isNaN || y.isNaN || x.isInf || y == 0.0 then 0.0 / 0.0
  else if y.isInf then x
  else
    let (m, e) := binaryParts x
    let (n, f) := binaryParts y
    let low := min e f
    let r := (m <<< (e - low).toNat) % (n <<< (f - low).toNat)
    let size := (Float.ofNat r).scaleB low
    if x < 0.0 then -size else size

/-- `x` multiplied `n` times, by squaring. -/
def powerBySquaring : (fuel : Nat) → (x : Float) → (n : Nat) → (result : Float) → Float
  | 0, _, _, result => result
  | fuel + 1, x, n, result =>
    let result := if n % 2 = 1 then result * x else result
    if n / 2 = 0 then result else powerBySquaring fuel (x * x) (n / 2) result

/-- A power with an integral exponent. -/
def floatPower (x : Float) (n : Int) : Float :=
  let r := powerBySquaring 64 x n.natAbs 1.0
  if n < 0 then 1.0 / r else r

/-- An operator of two floating-point numbers. -/
def BinaryOp.ofFloats (op : BinaryOp) (x y : Float) : Except Fault Datum :=
  match op with
  | .add => .ok (.float (x + y))
  | .sub => .ok (.float (x - y))
  | .mul => .ok (.float (x * y))
  | .div => .ok (.float (x / y))
  | .mod => .ok (.float (floatRemainder x y))
  | .pow => .ok (.float (x.pow y))
  | .eq => .ok (.bool (x == y))
  | .ne => .ok (.bool (x != y))
  | .lt => .ok (.bool (x < y))
  | .le => .ok (.bool (x ≤ y))
  | .gt => .ok (.bool (y < x))
  | .ge => .ok (.bool (y ≤ x))
  | _ => .error (.unknownFunction op.symbol)

/-! ## Texts -/

/-- The text without any occurrence of `part`. -/
def without (part : List Char) : List Char → List Char
  | [] => []
  | c :: cs =>
    if part.isPrefixOf (c :: cs) ∧ part ≠ [] then without part ((c :: cs).drop part.length)
    else c :: without part cs
termination_by cs => cs.length
decreasing_by
  · rename_i h
    have := List.length_pos_iff.2 h.2
    simp only [List.length_drop, List.length_cons]
    omega
  · simp

/-- An operator of two texts. -/
def BinaryOp.ofTexts (op : BinaryOp) (x y : String) : Except Fault Datum :=
  match op with
  | .add => .ok (.str (x ++ y))
  | .sub => .ok (.str (String.ofList (without y.toList x.toList)))
  | .eq => .ok (.bool (x == y))
  | .ne => .ok (.bool (x != y))
  | .lt => .ok (.bool (x < y))
  | .le => .ok (.bool (x ≤ y))
  | .gt => .ok (.bool (y < x))
  | .ge => .ok (.bool (y ≤ x))
  | _ => .error (.unknownFunction op.symbol)

/-- An operator of two characters. -/
def BinaryOp.ofChars (op : BinaryOp) (x y : Char) : Except Fault Datum :=
  match op with
  | .sub => .error (.unknownFunction op.symbol)
  | _ => op.ofTexts (String.ofList [x]) (String.ofList [y])

/-! ## All data -/

/-- An operator of two truth values. -/
def BinaryOp.ofBools (op : BinaryOp) (x y : Bool) : Except Fault Datum :=
  match op with
  | .bitAnd => .ok (.bool (x && y))
  | .bitOr => .ok (.bool (x || y))
  | .bitXor | .ne => .ok (.bool (x != y))
  | .eq => .ok (.bool (x == y))
  | .lt => .ok (.bool (!x && y))
  | .le => .ok (.bool (!x || y))
  | .gt => .ok (.bool (x && !y))
  | .ge => .ok (.bool (x || !y))
  | _ => .error (.unknownFunction op.symbol)

/-- An operator of data that can only be told apart. -/
def BinaryOp.ofSame (op : BinaryOp) (x y : Datum) : Except Fault Datum :=
  match op with
  | .eq => .ok (.bool (x.same y))
  | .ne => .ok (.bool (!x.same y))
  | _ => .error (.unknownFunction op.symbol)

/-- An operator of data of different types. -/
def BinaryOp.ofOthers (op : BinaryOp) : Except Fault Datum :=
  match op with
  | .ne => .ok (.bool true)
  | .eq | .lt | .le | .gt | .ge => .ok (.bool false)
  | _ => .error (.unknownFunction op.symbol)

/-- What an operator makes of its operands. A text takes in whatever is added to
    it; the fields of a map replace those of a map that it is added to. -/
def BinaryOp.apply (op : BinaryOp) : Datum → Datum → Except Fault Datum
  | .int x, .int y => op.ofInts x y
  | .float x, .float y => op.ofFloats x y
  | .int x, .float y => op.ofFloats (Float.ofInt x) y
  | .float x, .int y =>
    if op = .pow then .ok (.float (floatPower x y)) else op.ofFloats x (Float.ofInt y)
  | .bool x, .bool y => op.ofBools x y
  | .char x, .char y => op.ofChars x y
  | .str x, .str y => op.ofTexts x y
  | .str x, .char y => op.ofTexts x (String.ofList [y])
  | .char x, .str y => if op = .sub then op.ofOthers else op.ofTexts (String.ofList [x]) y
  | .str x, y => if op = .add then .ok (.str (x ++ String.ofList y.chars)) else op.ofOthers
  | x, .str y => if op = .add then .ok (.str (String.ofList x.chars ++ y)) else op.ofOthers
  | .arr xs, .arr ys => if op = .add then .ok (.arr (xs ++ ys)) else op.ofSame (.arr xs) (.arr ys)
  | .map xs, .map ys =>
    if op = .add then .ok (.map (Table.merge xs ys)) else op.ofSame (.map xs) (.map ys)
  | .unit, .unit =>
    if op = .eq then .ok (.bool true) else if op = .ne then .ok (.bool false) else op.ofOthers
  | .range a b c, .range a' b' c' => op.ofSame (.range a b c) (.range a' b' c')
  | _, _ => op.ofOthers

/-- What an operator makes of the old value of a place it assigns to: an array
    takes in an item, or the items of another array. -/
def BinaryOp.update (op : BinaryOp) : Datum → Datum → Except Fault Datum
  | .arr xs, .arr ys => if op = .add then .ok (.arr (xs ++ ys)) else op.apply (.arr xs) (.arr ys)
  | .arr xs, y => if op = .add then .ok (.arr (xs ++ [y])) else op.apply (.arr xs) y
  | x, y => op.apply x y

/-- What an operator makes of its operand. -/
def UnaryOp.apply : UnaryOp → Datum → Except Fault Datum
  | .plus, .int n => .ok (.int n)
  | .plus, .float x => .ok (.float x)
  | .minus, .int n => checked "Negation" (-n)
  | .minus, .float x => .ok (.float (-x))
  | .not, .bool b => .ok (.bool (!b))
  | op, _ => .error (.unknownFunction op.symbol)

end Hyperfiction.Script
