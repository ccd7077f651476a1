import Hyperfiction.Json.Document
import Hyperfiction.Word

/-! # Reading JSON

    A strict reader: no comments, no trailing commas, no leading zeros, nothing
    after the document but blanks. Integers within 64 bits stay integers, all
    other numbers become floating-point numbers; `-0` is one of those.
-/

namespace Hyperfiction.Json

/-- The blanks of JSON. -/
def isSpace (c : Char) : Bool :=
  c = ' ' || c = '\n' || c = '\t' || c = '\r'

/-- The text without the blanks it starts with. -/
def skipSpace (cs : List Char) : List Char :=
  cs.dropWhile isSpace

/-! ## Strings -/

/-- A piece of a string between quotes. -/
inductive StringPiece where
  | char (c : Char)
  /-- An escape `\uXXXX`. -/
  | unit (n : Nat)

/-- The value of a hexadecimal digit. -/
def hexValue? (c : Char) : Option Nat :=
  if '0' ≤ c ∧ c ≤ '9' then some (c.toNat - 48)
  else if 'a' ≤ c ∧ c ≤ 'f' then some (c.toNat - 87)
  else if 'A' ≤ c ∧ c ≤ 'F' then some (c.toNat - 55)
  else none

/-- The value of four hexadecimal digits. -/
def hexUnit? (a b c d : Char) : Option Nat :=
  match hexValue? a, hexValue? b, hexValue? c, hexValue? d with
  | some a, some b, some c, some d => some (((a * 16 + b) * 16 + c) * 16 + d)
  | _, _, _, _ => none

/-- The character of an escape of one letter. -/
def escaped? : Char → Option Char
  | '\"' => some '\"'
  | '\\' => some '\\'
  | '/' => some '/'
  | 'b' => some (Char.ofNat 8)
  | 'f' => some (Char.ofNat 12)
  | 'n' => some '\n'
  | 'r' => some '\r'
  | 't' => some '\t'
  | _ => none

/-- The pieces of a string after its opening quote, and what follows its
    closing quote. -/
def readPieces : List Char → Option (List StringPiece × List Char)
  | [] => none
  | '\"' :: cs => some ([], cs)
  | '\\' :: 'u' :: a :: b :: c :: d :: cs =>
    match hexUnit? a b c d with
    | none => none
    | some n => (readPieces cs).map fun p => (.unit n :: p.1, p.2)
  | '\\' :: e :: cs =>
    match escaped? e with
    | none => none
    | some c => (readPieces cs).map fun p => (.char c :: p.1, p.2)
  | c :: cs =>
    if c = '\\' ∨ c.toNat < 32 then none
    else (readPieces cs).map fun p => (.char c :: p.1, p.2)

/-- The characters of the pieces; two surrogate units make one character, and
    one alone has none. -/
def joinPieces : List StringPiece → Option (List Char)
  | [] => some []
  | .char c :: ps => (joinPieces ps).map (c :: ·)
  | .unit high :: .unit low :: ps =>
    if 0xD800 ≤ high ∧ high < 0xDC00 then
      if 0xDC00 ≤ low ∧ low < 0xE000 then
        (joinPieces ps).map (Char.ofNat (0x10000 + (high - 0xD800) * 0x400 + (low - 0xDC00)) :: ·)
      else none
    else if 0xDC00 ≤ high ∧ high < 0xE000 then none
    else (joinPieces (.unit low :: ps)).map (Char.ofNat high :: ·)
  | .unit n :: ps =>
    if 0xD800 ≤ n ∧ n < 0xE000 then none else (joinPieces ps).map (Char.ofNat n :: ·)

/-- A string after its opening quote. -/
def readString (cs : List Char) : Option (Option String × List Char) :=
  (readPieces cs).map fun p => ((joinPieces p.1).map String.ofList, p.2)

/-! ## Numbers -/

/-- Whether a character is one of the ten digits. -/
def isDigit (c : Char) : Bool :=
  '0' ≤ c && c ≤ '9'

/-- The value of a digit. -/
def digitValue (c : Char) : Nat :=
  c.toNat - 48

/-- The number that digits write in base ten. -/
def ofDigits (cs : List Char) : Nat :=
  cs.foldl (fun n c => 10 * n + digitValue c) 0

/-- A decimal significand within 64 bits, and how many powers of ten it lost. -/
structure Significand where
  value : Nat
  scale : Int

/-- Takes in digits before the point until the next one would overflow 64 bits;
    that one and all after it only scale. -/
def Significand.whole (s : Significand) : List Char → Significand
  | [] => s
  | c :: cs =>
    let next := 10 * s.value + digitValue c
    if next < UInt64.size then Significand.whole { s with value := next } cs
    else { s with scale := s.scale + (cs.length + 1) }

/-- Takes in digits after the point until the next one would overflow 64 bits;
    that one and all after it are dropped. -/
def Significand.fraction (s : Significand) : List Char → Significand
  | [] => s
  | c :: cs =>
    let next := 10 * s.value + digitValue c
    if next < UInt64.size then Significand.fraction { value := next, scale := s.scale - 1 } cs
    else s

/-- `10^e` as a floating-point number. -/
def floatPower (e : Nat) : Float :=
  Float.ofScientific 1 false e

/-- Divides by `10^308` as often as a very negative exponent asks for. -/
def scaleDown : Nat → Float → Int → Float × Int
  | 0, x, e => (x, e)
  | n + 1, x, e =>
    if -308 ≤ e ∨ x == 0.0 then (x, e) else scaleDown n (x / floatPower 308) (e + 308)

/-- The float of `s.value · 10^e`, found by one multiplication or division by a
    power of ten; `none` if it is too large. -/
def floatOf (negative : Bool) (s : Significand) (exponent : Int) : Option Float :=
  let start := (UInt64.ofNat s.value).toFloat
  let sign (x : Float) : Float := if negative then -x else x
  let (x, e) := scaleDown 4 start exponent
  if x == 0.0 then some (sign x)
  else if e < 0 then some (sign (x / floatPower e.natAbs))
  else if e ≤ 308 then
    let y := x * floatPower e.toNat
    if y.isInf then none else some (sign y)
  else none

/-- Digits before and after the point and the exponent, as they are written. -/
structure NumberText where
  negative : Bool
  whole : List Char
  fraction : Option (List Char)
  exponent : Option Int

/-- The number a text stands for. -/
def NumberText.value? (t : NumberText) : Option Number :=
  let s := Significand.whole { value := 0, scale := 0 } t.whole
  match t.fraction, t.exponent with
  | none, none =>
    if s.scale = 0 then
      if !t.negative then some (.int s.value)
      else if s.value = 0 ∨ Word.half < s.value then
        some (.float (-(UInt64.ofNat s.value).toFloat))
      else some (.int (-(s.value : Int)))
    else (floatOf t.negative s s.scale).map .float
  | fraction, exponent =>
    let s := s.fraction (fraction.getD [])
    (floatOf t.negative s (s.scale + exponent.getD 0)).map .float

/-- The digits a text starts with, at least one, and what follows them. -/
def readDigits (cs : List Char) : Option (List Char × List Char) :=
  match cs.takeWhile isDigit with
  | [] => none
  | ds => some (ds, cs.dropWhile isDigit)

/-- The digits after a decimal point, if there is one. -/
def readFraction : List Char → Option (Option (List Char) × List Char)
  | '.' :: cs => (readDigits cs).map fun p => (some p.1, p.2)
  | cs => some (none, cs)

/-- The exponent after the letter `e`. -/
def readPower : List Char → Option (Option Int × List Char)
  | '-' :: cs => (readDigits cs).map fun p => (some (-(ofDigits p.1 : Int)), p.2)
  | '+' :: cs => (readDigits cs).map fun p => (some (ofDigits p.1 : Int), p.2)
  | cs => (readDigits cs).map fun p => (some (ofDigits p.1 : Int), p.2)

/-- The exponent, if there is one. -/
def readExponent : List Char → Option (Option Int × List Char)
  | 'e' :: cs => readPower cs
  | 'E' :: cs => readPower cs
  | cs => some (none, cs)

/-- The digits before the decimal point: a zero stands alone. -/
def readWhole (cs : List Char) : Option (List Char × List Char) :=
  match readDigits cs with
  | some ('0' :: _ :: _, _) => none
  | r => r

/-- A number after its sign. -/
def readUnsigned (negative : Bool) (cs : List Char) : Option (Option Number × List Char) := do
  let (whole, cs) ← readWhole cs
  let (fraction, cs) ← readFraction cs
  let (exponent, cs) ← readExponent cs
  return (NumberText.value? { negative, whole, fraction, exponent }, cs)

/-- A number. -/
def readNumber : List Char → Option (Option Number × List Char)
  | '-' :: cs => readUnsigned true cs
  | cs => readUnsigned false cs

/-! ## Documents -/

mutual

/-- A document, and what follows it. Each nested call has one unit of `fuel`
    less. -/
def readDocument : (fuel : Nat) → List Char → Option (Document × List Char)
  | 0, _ => none
  | fuel + 1, cs =>
    match skipSpace cs with
    | 'n' :: 'u' :: 'l' :: 'l' :: cs => some (.null, cs)
    | 't' :: 'r' :: 'u' :: 'e' :: cs => some (.bool true, cs)
    | 'f' :: 'a' :: 'l' :: 's' :: 'e' :: cs => some (.bool false, cs)
    | '\"' :: cs => (readString cs).map fun p => (.string p.1, p.2)
    | '[' :: cs =>
      match skipSpace cs with
      | ']' :: cs => some (.array [], cs)
      | _ => (readItems fuel cs).map fun p => (.array p.1, p.2)
    | '\x7b' :: cs =>
      match skipSpace cs with
      | '\x7d' :: cs => some (.object [], cs)
      | _ => (readFields fuel cs).map fun p => (.object p.1, p.2)
    | cs => (readNumber cs).map fun p => (.number p.1, p.2)

/-- The items of an array up to its closing bracket, at least one. -/
def readItems : (fuel : Nat) → List Char → Option (List Document × List Char)
  | 0, _ => none
  | fuel + 1, cs =>
    match readDocument fuel cs with
    | none => none
    | some (d, cs) =>
      match skipSpace cs with
      | ']' :: cs => some ([d], cs)
      | ',' :: cs => (readItems fuel cs).map fun p => (d :: p.1, p.2)
      | _ => none

/-- The fields of an object up to its closing brace, at least one. -/
def readFields : (fuel : Nat) → List Char → Option (List (Option String × Document) × List Char)
  | 0, _ => none
  | fuel + 1, cs =>
    match skipSpace cs with
    | '\"' :: cs =>
      match readString cs with
      | none => none
      | some (key, cs) =>
        match skipSpace cs with
        | ':' :: cs =>
          match readDocument fuel cs with
          | none => none
          | some (d, cs) =>
            match skipSpace cs with
            | '\x7d' :: cs => some ([(key, d)], cs)
            | ',' :: cs => (readFields fuel cs).map fun p => ((key, d) :: p.1, p.2)
            | _ => none
        | _ => none
    | _ => none

end

/-- The document that makes up a whole text. -/
def parseChars (cs : List Char) : Option Document :=
  match readDocument (2 * cs.length + 2) cs with
  | some (d, rest) => if (skipSpace rest).isEmpty then some d else none
  | none => none

/-- The document that makes up a whole text. -/
def parse (s : String) : Option Document :=
  parseChars s.toList

end Hyperfiction.Json
