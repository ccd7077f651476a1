import Hyperfiction.Script.Syntax
import Hyperfiction.Value

/-! # Data of scripts

    The values that a script computes with. They are those of story variables,
    with an empty value in the place of `null`, and besides them single
    characters, functions, ranges and what can only be walked over. A story
    variable can hold a datum only if none of these but characters is in it.
-/

namespace Hyperfiction.Script

/-- Numbers at equal distances, from `first` up or down to `last`, which does not
    belong to them. -/
inductive Steps where
  | ints (first last step : Int)
  | floats (first last step : Float)

/-- A value of a script. -/
inductive Datum where
  | unit
  | bool (b : Bool)
  /-- An integer of 64 bits. -/
  | int (n : Int)
  | float (x : Float)
  | char (c : Char)
  | str (s : String)
  | arr (items : List Datum)
  | map (fields : List (String × Datum))
  /-- A function of the script, by its name. -/
  | function (name : String)
  /-- A closure, and the cells of the variables it shares with its surroundings. -/
  | closure (params : List String) (captured : List (String × Nat)) (body : Stmt)
  /-- A function whose first arguments are given. -/
  | curried (f : Datum) (args : List Datum)
  /-- The integers from `first` up to `last`, which belongs to them if the range is closed. -/
  | range (first last : Int) (closed : Bool)
  | steps (s : Steps)
  /-- Items that can only be walked over. -/
  | series (kind : String) (items : List Datum)
deriving Inhabited

namespace Datum

/-- The name of the type of a datum. -/
def typeName : Datum → String
  | .unit => "()"
  | .bool _ => "bool"
  | .int _ => "i64"
  | .float _ => "f64"
  | .char _ => "char"
  | .str _ => "string"
  | .arr _ => "array"
  | .map _ => "map"
  | .function _ | .closure .. | .curried .. => "Fn"
  | .range _ _ false => "range"
  | .range _ _ true => "range="
  | .steps _ => "steps"
  | .series kind _ => kind

/-- Whether a datum can be called. -/
def isCallable : Datum → Bool
  | .function _ | .closure .. | .curried .. => true
  | _ => false

/-- Whether an integer belongs to a range. -/
def inRange (first last : Int) (closed : Bool) (n : Int) : Bool :=
  first ≤ n && (n < last || (closed && n == last))

/-! ## Equality -/

mutual

/-- Whether two data are equal: numbers are compared as numbers, a character
    with a text of one character, and data of different types are not equal. -/
def same : Datum → Datum → Bool
  | .unit, .unit => true
  | .bool a, .bool b => a == b
  | .int a, .int b => a == b
  | .int a, .float b => Float.ofInt a == b
  | .float a, .int b => a == Float.ofInt b
  | .float a, .float b => a == b
  | .char a, .char b => a == b
  | .char a, .str b => String.ofList [a] == b
  | .str a, .char b => a == String.ofList [b]
  | .str a, .str b => a == b
  | .arr xs, .arr ys => sameItems xs ys
  | .map xs, .map ys => sameFields xs ys
  | .function f, .function g => f == g
  | .range a b c, .range a' b' c' => a == a' && b == b' && c == c'
  | _, _ => false

/-- Whether two lists of data are equal item by item. -/
def sameItems : List Datum → List Datum → Bool
  | [], [] => true
  | x :: xs, y :: ys => same x y && sameItems xs ys
  | _, _ => false

/-- Whether two maps have equal fields. -/
def sameFields : List (String × Datum) → List (String × Datum) → Bool
  | [], [] => true
  | (k, x) :: xs, (l, y) :: ys => k == l && same x y && sameFields xs ys
  | _, _ => false

end

/-! ## Text -/

/-- How far from one a number may be to be written without an exponent. -/
def plainMost : Float := 1e13
def plainLeast : Float := 1e-13

/-- Every number is written with an exponent. -/
def exponential : Decimal.Layout :=
  { lowPoint := 1, highPoint := 0, keepsFraction := false, signsExponent := false }

/-- Numbers keep a fraction, and have an exponent below `1e-4` and from `1e16` on. -/
def literalLayout : Decimal.Layout :=
  { lowPoint := -3, highPoint := 16, keepsFraction := true, signsExponent := false }

/-- A number that is infinite or none. -/
def oddFloat? (x : Float) : Option (List Char) :=
  if x.isNaN then some ['N', 'a', 'N']
  else if x.isInf then some (if x < 0.0 then ['-', 'i', 'n', 'f'] else ['i', 'n', 'f'])
  else none

/-- A floating-point number as text: it keeps a fraction, zero has no sign. -/
def floatChars (x : Float) : List Char :=
  match oddFloat? x with
  | some cs => cs
  | none =>
    if x == 0.0 then ['0', '.', '0']
    else if x.abs > plainMost || x.abs < plainLeast then exponential.ofFloat x
    else { Decimal.plain with keepsFraction := true }.ofFloat x

/-- A floating-point number as part of a collection. -/
def literalFloatChars (x : Float) : List Char :=
  (oddFloat? x).getD (literalLayout.ofFloat x)

/-- The hexadecimal digits of a number. -/
def hexDigits (n : Nat) : List Char :=
  Nat.toDigits 16 n

/-- A character between the given quotes. -/
def quotedChar (quote c : Char) : List Char :=
  if c = quote ∨ c = '\\' then ['\\', c]
  else if c = '\t' then ['\\', 't']
  else if c = '\n' then ['\\', 'n']
  else if c = '\r' then ['\\', 'r']
  else if c.toNat = 0 then ['\\', '0']
  else if c.toNat < 32 ∨ (127 ≤ c.toNat ∧ c.toNat < 160) then
    '\\' :: 'u' :: '\x7b' :: (hexDigits c.toNat ++ ['\x7d'])
  else [c]

/-- A text between the given quotes. -/
def quoted (quote : Char) (cs : List Char) : List Char :=
  quote :: (cs.flatMap (quotedChar quote) ++ [quote])

/-- The text of a range. -/
def rangeChars (first last : Int) (closed : Bool) : List Char :=
  Decimal.ofInt first ++ (if closed then ['.', '.', '='] else ['.', '.']) ++ Decimal.ofInt last

mutual

/-- A datum as it is written in a collection: texts and characters are quoted. -/
def literalChars : Datum → List Char
  | .unit => ['(', ')']
  | .bool true => ['t', 'r', 'u', 'e']
  | .bool false => ['f', 'a', 'l', 's', 'e']
  | .int n => Decimal.ofInt n
  | .float x => literalFloatChars x
  | .char c => quoted '\'' [c]
  | .str s => quoted '\"' s.toList
  | .arr [] => ['[', ']']
  | .arr (x :: xs) => '[' :: (literalChars x ++ literalItems xs)
  | .map [] => ['#', '\x7b', '\x7d']
  | .map ((k, x) :: fs) =>
    '#' :: '\x7b' :: (quoted '\"' k.toList ++ ':' :: ' ' :: (literalChars x ++ literalFields fs))
  | .function name => 'F' :: 'n' :: '(' :: (name.toList ++ [')'])
  | .closure .. => ['F', 'n']
  | .curried f _ => literalChars f
  | .range a b c => rangeChars a b c
  | .steps _ => ['s', 't', 'e', 'p', 's']
  | .series kind _ => kind.toList

/-- The items that follow the first, and the closing bracket. -/
def literalItems : List Datum → List Char
  | [] => [']']
  | x :: xs => ',' :: ' ' :: (literalChars x ++ literalItems xs)

/-- The fields that follow the first, and the closing brace. -/
def literalFields : List (String × Datum) → List Char
  | [] => ['\x7d']
  | (k, x) :: fs =>
    ',' :: ' ' :: (quoted '\"' k.toList ++ ':' :: ' ' :: (literalChars x ++ literalFields fs))

end

/-- The text of a datum: a text is its own, and the unit value has none. -/
def chars : Datum → List Char
  | .unit => []
  | .float x => floatChars x
  | .char c => [c]
  | .str s => s.toList
  | d => literalChars d

/-! ## Story values -/

mutual

/-- The datum of a story value; an integer beyond 64 signed bits becomes a
    floating-point number. -/
def ofValue : Value → Datum
  | .null => .unit
  | .bool b => .bool b
  | .int n => if Word.isSigned n then .int n else .float (Float.ofInt n)
  | .float x => .float x
  | .str s => .str s
  | .arr vs => .arr (ofItems vs)
  | .obj fs => .map (ofFields fs)

/-- The data of a list of values. -/
def ofItems : List Value → List Datum
  | [] => []
  | v :: vs => ofValue v :: ofItems vs

/-- The fields of an object as data. -/
def ofFields : List (String × Value) → List (String × Datum)
  | [] => []
  | (k, v) :: fs => (k, ofValue v) :: ofFields fs

end

/-- Numbers without a fraction below this size become integers in story variables. -/
def wholeLimit : Float := 9.0e15

/-- The story value of a number: an integer if it is one, nothing if it is none. -/
def ofNumber (x : Float) : Value :=
  match Value.wholePart? x wholeLimit with
  | some n => .int n
  | none => if x.isNaN || x.isInf then .null else .float x

mutual

/-- The story value of a datum, or the name of a type that story values do not have. -/
def toValue? : Datum → Except String Value
  | .unit => .ok .null
  | .bool b => .ok (.bool b)
  | .int n => .ok (.int n)
  | .float x => .ok (ofNumber x)
  | .char c => .ok (.str (String.ofList [c]))
  | .str s => .ok (.str s)
  | .arr xs =>
    match toItems? xs with
    | .ok vs => .ok (.arr vs)
    | .error t => .error t
  | .map fs =>
    match toFields? fs with
    | .ok vs => .ok (.obj vs)
    | .error t => .error t
  | d => .error d.typeName

/-- The values of a list of data. -/
def toItems? : List Datum → Except String (List Value)
  | [] => .ok []
  | x :: xs =>
    match toValue? x with
    | .error t => .error t
    | .ok v =>
      match toItems? xs with
      | .ok vs => .ok (v :: vs)
      | .error t => .error t

/-- The values of the fields of a map. -/
def toFields? : List (String × Datum) → Except String (List (String × Value))
  | [] => .ok []
  | (k, x) :: fs =>
    match toValue? x with
    | .error t => .error t
    | .ok v =>
      match toFields? fs with
      | .ok vs => .ok ((k, v) :: vs)
      | .error t => .error t

end

end Datum

end Hyperfiction.Script
