import Hyperfiction.Json.Parser
import Hyperfiction.Script.Builtin.Place
import Hyperfiction.Script.Builtin.Plan
import Hyperfiction.Script.Operator
import Hyperfiction.Text.Blank
import Hyperfiction.Text.Case

/-! # Built-in functions of texts and characters -/

namespace Hyperfiction.Script.Builtin

/-! ## Numbers in texts -/

/-- The integer that digits write in a base, with a sign or without. -/
def integerOf? (base : Nat) (cs : List Char) : Option Int :=
  let digit? (c : Char) : Option Nat :=
    let n :=
      if Json.isDigit c then c.toNat - 48
      else if 'a' ≤ c ∧ c ≤ 'z' then c.toNat - 87
      else if 'A' ≤ c ∧ c ≤ 'Z' then c.toNat - 55
      else 36
    if n < base then some n else none
  let size? (ds : List Char) : Option Nat :=
    if ds.isEmpty then none
    else ds.foldlM (fun n c => do return base * n + (← digit? c)) 0
  let n? : Option Int := match cs with
    | '-' :: ds => (size? ds).map fun n => -(n : Int)
    | '+' :: ds => (size? ds).map fun n => (n : Int)
    | ds => (size? ds).map fun n => (n : Int)
  match n? with
  | some n => if Word.isSigned n then some n else none
  | none => none

/-- The integer that a text writes. -/
def parseInt (base : Int) (cs : List Char) : Plan :=
  if base < 2 ∨ 36 < base then .failed "Invalid radix"
  else match integerOf? base.toNat (Text.trim cs) with
    | some n => .value (.int n)
    | none => .failed "Error parsing integer number"

/-- The floating-point number that digits write: a point may stand before, among or after
    them, and an exponent behind them. -/
def decimalOf? (cs : List Char) : Option Float :=
  let whole := cs.takeWhile Json.isDigit
  let rest := cs.drop whole.length
  let fraction := if rest.head? = some '.' then rest.tail.takeWhile Json.isDigit else []
  let rest := if rest.head? = some '.' then rest.tail.drop fraction.length else rest
  let power? : Option Int := match rest with
    | [] => some 0
    | 'e' :: ds | 'E' :: ds => integerOf? 10 ds
    | _ => none
  if whole.isEmpty && fraction.isEmpty then none
  else power?.map fun (power : Int) =>
    let scale : Int := power - fraction.length
    Float.ofScientific (Json.ofDigits (whole ++ fraction)) (scale < 0) scale.natAbs

/-- The floating-point number that a text writes, with a sign or without; those that are not
    finite have names. -/
def floatOf? (cs : List Char) : Option Float :=
  let size? (ds : List Char) : Option Float :=
    let name := String.ofList (ds.map Char.toLower)
    if name = "inf" ∨ name = "infinity" then some (1.0 / 0.0)
    else if name = "nan" then some (0.0 / 0.0)
    else decimalOf? ds
  match cs with
  | '-' :: ds => (size? ds).map fun x => -x
  | '+' :: ds => size? ds
  | ds => size? ds

/-- The floating-point number that a text writes. -/
def parseFloat (cs : List Char) : Plan :=
  match floatOf? (Text.trim cs) with
  | some x => .value (.float x)
  | none => .failed "Error parsing floating-point number"

/-! ## Texts -/

/-- The text of some characters. -/
def text (cs : List Char) : Datum :=
  .str (String.ofList cs)

/-- The place of the first occurrence of a text from an index on. -/
def placeFrom? (part : List Char) (start : Int) (cs : List Char) : Option Nat :=
  let n := clampedPlace cs.length start
  if n < cs.length then placeOf? part n (cs.drop n) else none

/-- What splitting a text comes to: between blanks, at an index, or at a separator into all
    parts or some. -/
def splitBy (cs : List Char) : List Datum → Option (List (List Char))
  | [] => some (Text.words cs)
  | [.int i] =>
    let n := clampedPlace cs.length i
    some [cs.take n, cs.drop n]
  | [d] => (chars? d).map fun separator => split separator cs
  | [d, .int count] =>
    (chars? d).map fun separator => splitIn (max count 1).toNat separator cs
  | _ => none

/-- What splitting a text from its end comes to. -/
def splitBack (cs : List Char) : List Datum → Option (List (List Char))
  | [d] => (chars? d).map fun separator => fromEnd split separator cs
  | [d, .int count] =>
    (chars? d).map fun separator => fromEnd (splitIn (max count 1).toNat) separator cs
  | _ => none

/-- A text made as long as wanted; one without characters to add is never long enough. -/
def padded (cs : List Char) (size : Int) (padding : List Char) : Plan :=
  let missing := size.toNat - cs.length
  if padding.isEmpty && 0 < missing then .stop (.fault .exhausted)
  else .change (text (cs ++ repeated padding missing))

/-- The functions of texts that leave them as they are. -/
def readText (name : String) (cs : List Char) (args : List Datum) : Option Plan :=
  match name, args with
  | "len", [] => some (.value (.int cs.length))
  | "bytes", [] => some (.value (.int (String.ofList cs).utf8ByteSize))
  | "is_empty", [] => some (.value (.bool cs.isEmpty))
  | "to_upper", [] => some (.value (text (Text.upper cs)))
  | "to_lower", [] => some (.value (text (Text.lower cs)))
  | "to_chars", [] => some (.value (.arr (cs.map .char)))
  | "chars", [] => some (.value (.series "chars" (cs.map .char)))
  | "chars", args =>
    (tailArgs? cs.length args).map fun (start, count) =>
      .value (.series "chars" ((part cs start count).map .char))
  | "contains", [d] =>
    (chars? d).map fun other => .value (.bool (placeOf? other 0 cs).isSome)
  | "starts_with", [.str t] => some (.value (.bool (t.toList.isPrefixOf cs)))
  | "ends_with", [.str t] => some (.value (.bool (t.toList.isSuffixOf cs)))
  | "index_of", [d] => (chars? d).map fun other => .value (placeDatum (placeOf? other 0 cs))
  | "index_of", [d, .int start] =>
    (chars? d).map fun other => .value (placeDatum (placeFrom? other start cs))
  | "get", [.int i] =>
    some (.value ((place? cs.length i).elim .unit fun n => .char (cs.getD n ' ')))
  | "sub_string", args =>
    (tailArgs? cs.length args).map fun (start, count) => .value (text (part cs start count))
  | "split", args => (splitBy cs args).map fun parts => .value (.arr (parts.map text))
  | "split_rev", args => (splitBack cs args).map fun parts => .value (.arr (parts.map text))
  | "parse_int", [] => some (parseInt 10 cs)
  | "parse_int", [.int base] => some (parseInt base cs)
  | "parse_float", [] => some (parseFloat cs)
  | _, _ => none

/-- The functions that change a text. -/
def changeText (name : String) (cs : List Char) (args : List Datum) : Option Plan :=
  match name, args with
  | "append", [d] => some (.change (text (cs ++ d.chars)))
  | "remove", [d] => (chars? d).map fun other => .change (text (without other cs))
  | "clear", [] => some (.change (text []))
  | "trim", [] => some (.change (text (Text.trim cs)))
  | "make_upper", [] => some (.change (text (Text.upper cs)))
  | "make_lower", [] => some (.change (text (Text.lower cs)))
  | "truncate", [.int size] => some (.change (text (cs.take size.toNat)))
  | "pop", [] =>
    some (.done { value := cs.getLast?.elim .unit .char, changed := some (text cs.dropLast) })
  | "pop", [.int count] =>
    let left := cs.length - count.toNat
    some (.done { value := text (cs.drop left), changed := some (text (cs.take left)) })
  | "set", [.int i, .char c] =>
    some (.change (text ((place? cs.length i).elim cs fun n => cs.set n c)))
  | "crop", args =>
    (tailArgs? cs.length args).map fun (start, count) => .change (text (part cs start count))
  | "replace", [d, e] => do
    let found ← chars? d
    let other ← chars? e
    return .change (text (if cs.isEmpty then [] else replace found other cs))
  | "pad", [.int size, d] => (chars? d).map (padded cs size)
  | _, _ => none

/-! ## Characters -/

/-- The only character of its upper or lower case, if there is only one. -/
def single (c : Char) : List Char → Char
  | [d] => d
  | _ => c

/-- The functions of characters. -/
def ofChar (name : String) (c : Char) (args : List Datum) : Option Plan :=
  match name, args with
  | "to_upper", [] => some (.value (.char (single c (Text.upperChar c))))
  | "to_lower", [] => some (.value (.char (single c (Text.lowerChar c))))
  | "make_upper", [] => some (.change (.char (single c (Text.upperChar c))))
  | "make_lower", [] => some (.change (.char (single c (Text.lowerChar c))))
  | "to_int", [] => some (.value (.int c.toNat))
  | _, _ => none

end Hyperfiction.Script.Builtin
