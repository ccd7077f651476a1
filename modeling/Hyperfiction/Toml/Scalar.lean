import Hyperfiction.Json.Parser
import Hyperfiction.Word

/-! # TOML scalars

    Strings, numbers, booleans and date-times of a TOML document. A number or a
    date is read as one run of the characters that such values are made of, and
    the run is then matched as a whole against each form.

    Values of a configuration have to be shown as JSON: an infinite number or
    not-a-number becomes `null`, and a date-time becomes an object whose only
    field holds its normal text.
-/

namespace Hyperfiction.Toml

open Json (isDigit hexValue? ofDigits)

/-- The blanks within a line. -/
def isSpace (c : Char) : Bool :=
  c = ' ' || c = '\t'

/-- The text without the blanks it starts with. -/
def skipSpace (cs : List Char) : List Char :=
  cs.dropWhile isSpace

/-- Whether a character may stand in a comment or a string: no control
    character but the tab. -/
def isText (c : Char) : Bool :=
  c = '\t' || (32 ≤ c.toNat && c.toNat ≠ 127)

/-- What follows a line end, if the text starts with one. -/
def afterNewline? : List Char → Option (List Char)
  | '\n' :: cs => some cs
  | '\r' :: '\n' :: cs => some cs
  | _ => none

/-! ## Strings -/

/-- The character with the code point that hexadecimal digits write. -/
def codePoint? (cs : List Char) : Option Char := do
  let ds ← cs.mapM hexValue?
  let n := ds.foldl (fun n d => 16 * n + d) 0
  if n < 0xD800 ∨ (0xE000 ≤ n ∧ n < 0x110000) then some (Char.ofNat n) else none

/-- The character of an escape after its backslash, and what follows it. -/
def readEscape : List Char → Option (Char × List Char)
  | 'b' :: cs => some (Char.ofNat 8, cs)
  | 't' :: cs => some ('\t', cs)
  | 'n' :: cs => some ('\n', cs)
  | 'f' :: cs => some (Char.ofNat 12, cs)
  | 'r' :: cs => some ('\r', cs)
  | '\"' :: cs => some ('\"', cs)
  | '\\' :: cs => some ('\\', cs)
  | 'u' :: cs =>
    if cs.length < 4 then none else (codePoint? (cs.take 4)).map fun c => (c, cs.drop 4)
  | 'U' :: cs =>
    if cs.length < 8 then none else (codePoint? (cs.take 8)).map fun c => (c, cs.drop 8)
  | _ => none

/-- A basic string after its quote. -/
def readBasic : (fuel : Nat) → List Char → Option (List Char × List Char)
  | 0, _ => none
  | _, [] => none
  | _, '\"' :: cs => some ([], cs)
  | fuel + 1, '\\' :: cs => do
    let (c, cs) ← readEscape cs
    let (text, cs) ← readBasic fuel cs
    return (c :: text, cs)
  | fuel + 1, c :: cs =>
    if isText c then (readBasic fuel cs).map fun p => (c :: p.1, p.2) else none

/-- A literal string after its quote. -/
def readLiteral : List Char → Option (List Char × List Char)
  | [] => none
  | '\'' :: cs => some ([], cs)
  | c :: cs => if isText c then (readLiteral cs).map fun p => (c :: p.1, p.2) else none

/-- What follows the blanks and line ends a text starts with, if there is a line
    end among them and only blanks before it. -/
def afterLineBreak? (cs : List Char) : Option (List Char) :=
  (afterNewline? (skipSpace cs)).map fun cs =>
    cs.dropWhile fun c => isSpace c || c = '\n' || c = '\r'

/-- How many times a character starts a text, counted up to five. -/
def countQuotes (q : Char) (cs : List Char) : Nat :=
  ((cs.take 5).takeWhile (· = q)).length

/-- A string of several lines after its three quotes, with escapes or without
    them. Three quotes close it; one or two more before them belong to it. -/
def readLong (q : Char) (escapes : Bool) : (fuel : Nat) → List Char → Option (List Char × List Char)
  | 0, _ => none
  | _, [] => none
  | fuel + 1, c :: cs =>
    if c = q then
      let n := countQuotes q (c :: cs)
      if 3 ≤ n then some (List.replicate (n - 3) q, (c :: cs).drop n)
      else (readLong q escapes fuel cs).map fun p => (c :: p.1, p.2)
    else if c = '\\' ∧ escapes then
      match afterLineBreak? cs with
      | some rest => readLong q escapes fuel rest
      | none => do
        let (e, cs) ← readEscape cs
        let (text, cs) ← readLong q escapes fuel cs
        return (e :: text, cs)
    else
      match afterNewline? (c :: cs) with
      | some rest => (readLong q escapes fuel rest).map fun p => ('\n' :: p.1, p.2)
      | none =>
        if isText c then (readLong q escapes fuel cs).map fun p => (c :: p.1, p.2) else none

/-- A string of several lines, without the line end right after its quotes. -/
def readLongString (q : Char) (escapes : Bool) (cs : List Char) : Option (List Char × List Char) :=
  readLong q escapes (cs.length + 1) ((afterNewline? cs).getD cs)

/-- A string that stands as a value. -/
def readString : List Char → Option (List Char × List Char)
  | '\"' :: '\"' :: '\"' :: cs => readLongString '\"' true cs
  | '\'' :: '\'' :: '\'' :: cs => readLongString '\'' false cs
  | '\"' :: cs => readBasic (cs.length + 1) cs
  | '\'' :: cs => readLiteral cs
  | _ => none

/-! ## Numbers -/

/-- Digits with single underscores between them, without the underscores. -/
def plainDigits? (isDigit : Char → Bool) : List Char → Option (List Char)
  | [] => none
  | [c] => if isDigit c then some [c] else none
  | c :: '_' :: cs => if isDigit c then (plainDigits? isDigit cs).map (c :: ·) else none
  | c :: cs => if isDigit c then (plainDigits? isDigit cs).map (c :: ·) else none

/-- Decimal digits without a superfluous zero in front. -/
def wholeDigits? (cs : List Char) : Option (List Char) :=
  match plainDigits? isDigit cs with
  | some ('0' :: _ :: _) => none
  | ds => ds

/-- Whether a text is without its sign negative, and the text after the sign. -/
def splitSign : List Char → Bool × List Char
  | '-' :: cs => (true, cs)
  | '+' :: cs => (false, cs)
  | cs => (false, cs)

/-- An integer, if it is a signed word. -/
def within64? (n : Int) : Option Int :=
  if Word.isSigned n then some n else none

/-- The number that digits of a base write. -/
def inBase? (base : Nat) (cs : List Char) : Option Int := do
  let ds ← plainDigits? (fun c => match hexValue? c with
    | some d => d < base
    | none => false) cs
  within64? (ds.foldl (fun n c => base * n + ((hexValue? c).getD 0 : Nat)) (0 : Nat))

/-- The integer a run writes. -/
def integer? : List Char → Option Int
  | '0' :: 'x' :: cs => inBase? 16 cs
  | '0' :: 'o' :: cs => inBase? 8 cs
  | '0' :: 'b' :: cs => inBase? 2 cs
  | cs =>
    let (negative, digits) := splitSign cs
    match wholeDigits? digits with
    | none => none
    | some ds => within64? (if negative then -(ofDigits ds : Int) else ofDigits ds)

/-- The exponent after the letter `e`. -/
def exponent? (cs : List Char) : Option Int :=
  let (negative, digits) := splitSign cs
  (plainDigits? isDigit digits).map fun ds =>
    if negative then -(ofDigits ds : Int) else ofDigits ds

/-- The nearest floating-point number to `significand · 10^exponent`. -/
def nearestFloat (significand : Nat) (exponent : Int) : Float :=
  Float.ofScientific significand (exponent < 0) exponent.natAbs

/-- The floating-point number a run writes; too large a number is an error. -/
def float? (cs : List Char) : Option Float := do
  let (negative, cs) := splitSign cs
  let sign (x : Float) : Float := if negative then -x else x
  if cs = ['i', 'n', 'f'] then return sign (1.0 / 0.0)
  if cs = ['n', 'a', 'n'] then return 0.0 / 0.0
  let isMark (c : Char) : Bool := c = 'e' || c = 'E'
  let mantissa := cs.takeWhile fun c => !isMark c
  let power := (cs.dropWhile fun c => !isMark c).drop 1
  let whole ← wholeDigits? (mantissa.takeWhile (· ≠ '.'))
  let hasPoint := mantissa.contains '.'
  let hasPower := cs.any isMark
  if !hasPoint && !hasPower then none
  else
    let fraction ←
      if hasPoint then plainDigits? isDigit ((mantissa.dropWhile (· ≠ '.')).drop 1) else some []
    let e ← if hasPower then exponent? power else some 0
    let x := sign (nearestFloat (ofDigits (whole ++ fraction)) (e - fraction.length))
    if x == 1.0 / 0.0 then none else some x

/-! ## Date-times -/

/-- The number of exactly `n` digits, and what follows them. -/
def readFixed (n : Nat) (cs : List Char) : Option (Nat × List Char) :=
  let ds := cs.take n
  if ds.length = n ∧ ds.all isDigit then some (ofDigits ds, cs.drop n) else none

/-- What follows a given character. -/
def readChar (c : Char) : List Char → Option (List Char)
  | d :: cs => if c = d then some cs else none
  | [] => none

/-- How many days a month has. -/
def daysIn (year month : Nat) : Nat :=
  if month = 2 then
    if year % 4 = 0 ∧ (year % 100 ≠ 0 ∨ year % 400 = 0) then 29 else 28
  else if month = 4 ∨ month = 6 ∨ month = 9 ∨ month = 11 then 30
  else 31

/-- The text of a number with zeros in front. -/
def padded (width n : Nat) : List Char :=
  let ds := Decimal.digitsOf n
  List.replicate (width - ds.length) '0' ++ ds

/-- A date in its normal text, and what follows it. -/
def readDate (cs : List Char) : Option (List Char × List Char) := do
  let (year, cs) ← readFixed 4 cs
  let cs ← readChar '-' cs
  let (month, cs) ← readFixed 2 cs
  let cs ← readChar '-' cs
  let (day, cs) ← readFixed 2 cs
  if 1 ≤ month ∧ month ≤ 12 ∧ 1 ≤ day ∧ day ≤ daysIn year month then
    return (padded 4 year ++ '-' :: (padded 2 month ++ '-' :: padded 2 day), cs)
  else none

/-- The fraction of a second: nine digits count, and zeros at the end do not. -/
def fractionText (ds : List Char) : List Char :=
  match ((ds.take 9).reverse.dropWhile (· = '0')).reverse with
  | [] => []
  | ds => '.' :: ds

/-- A time of day in its normal text, and what follows it. -/
def readTime (cs : List Char) : Option (List Char × List Char) := do
  let (hour, cs) ← readFixed 2 cs
  let cs ← readChar ':' cs
  let (minute, cs) ← readFixed 2 cs
  let cs ← readChar ':' cs
  let (second, cs) ← readFixed 2 cs
  if 24 ≤ hour ∨ 60 ≤ minute ∨ 61 ≤ second then none
  else
    let text := padded 2 hour ++ ':' :: (padded 2 minute ++ ':' :: padded 2 second)
    match cs with
    | '.' :: rest =>
      match rest.takeWhile isDigit with
      | [] => none
      | ds => return (text ++ fractionText ds, rest.dropWhile isDigit)
    | _ => return (text, cs)

/-- The offset of a date-time in its normal text; it has to end the run. -/
def offset? : List Char → Option (List Char)
  | [] => some []
  | ['Z'] => some ['Z']
  | ['z'] => some ['Z']
  | sign :: cs => do
    let (hour, cs) ← readFixed 2 cs
    let cs ← readChar ':' cs
    let (minute, cs) ← readFixed 2 cs
    if cs ≠ [] ∨ 24 ≤ hour ∨ 60 ≤ minute then none
    else
      let text := padded 2 hour ++ ':' :: padded 2 minute
      if sign = '+' ∨ (sign = '-' ∧ hour = 0 ∧ minute = 0) then return '+' :: text
      else if sign = '-' then return '-' :: text
      else none

/-- Whether a character separates date and time. -/
def isTimeMark (c : Char) : Bool :=
  c = 'T' || c = 't' || c = ' '

/-- The date-time a run writes, in its normal text. -/
def dateTime? (cs : List Char) : Option (List Char) :=
  match readDate cs with
  | some (date, []) => some date
  | some (date, c :: cs) =>
    if isTimeMark c then do
      let (time, cs) ← readTime cs
      let offset ← offset? cs
      return date ++ 'T' :: (time ++ offset)
    else none
  | none =>
    match readTime cs with
    | some (time, []) => some time
    | _ => none

/-- The field that holds the text of a date-time. -/
def dateTimeKey : String := "$__toml_private_datetime"

/-- A date-time as a value. -/
def ofDateTime (text : List Char) : Value :=
  .obj [(dateTimeKey, .str (String.ofList text))]

/-- A floating-point number as a value. -/
def ofFloat (x : Float) : Value :=
  if x.isFinite then .float x else .null

/-! ## Runs -/

/-- The characters of numbers and dates. -/
def isRunChar (c : Char) : Bool :=
  ('a' ≤ c && c ≤ 'z') || ('A' ≤ c && c ≤ 'Z') || isDigit c ||
    c = '+' || c = '-' || c = '_' || c = '.' || c = ':'

/-- The run a text starts with; a date and a time may have one blank between them. -/
def readRun (cs : List Char) : List Char × List Char :=
  let run := cs.takeWhile isRunChar
  let rest := cs.dropWhile isRunChar
  match readDate run, rest with
  | some (_, []), ' ' :: a :: b :: ':' :: more =>
    if isDigit a && isDigit b then
      (run ++ ' ' :: a :: b :: ':' :: more.takeWhile isRunChar, more.dropWhile isRunChar)
    else (run, rest)
  | _, _ => (run, rest)

/-- The value a run writes. -/
def ofRun? (run : List Char) : Option Value :=
  if run = ['t', 'r', 'u', 'e'] then some (.bool true)
  else if run = ['f', 'a', 'l', 's', 'e'] then some (.bool false)
  else
    match integer? run with
    | some n => some (.int n)
    | none =>
      match float? run with
      | some x => some (ofFloat x)
      | none => (dateTime? run).map ofDateTime

end Hyperfiction.Toml
