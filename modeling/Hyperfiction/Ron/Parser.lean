import Hyperfiction.Json.Parser
import Hyperfiction.Ron.Document

/-! # Reading RON

    Blanks and comments may stand between any two parts of a text; block comments
    nest. Before the document a text may enable extensions, of which only the one
    that leaves out `Some` matters here.
-/

namespace Hyperfiction.Ron

/-! ## Blanks and comments -/

/-- What follows a block comment, `depth` of which are open. -/
def afterComment (depth : Nat) : List Char → Option (List Char)
  | '/' :: '*' :: cs => afterComment (depth + 1) cs
  | '*' :: '/' :: cs =>
    match depth with
    | 0 | 1 => some cs
    | depth + 2 => afterComment (depth + 1) cs
  | _ :: cs => afterComment depth cs
  | [] => none

/-- Whether a character is a blank. -/
def isSpace (c : Char) : Bool :=
  c = ' ' || c = '\n' || c = '\t' || c = '\r'

/-- What follows the blanks and comments at the start; `fuel` bounds the number of
    comments. -/
def skipFrom : Nat → List Char → Option (List Char)
  | 0, cs => some cs
  | fuel + 1, cs =>
    match cs.dropWhile isSpace with
    | '/' :: '/' :: rest => skipFrom fuel (rest.dropWhile (· ≠ '\n'))
    | '/' :: '*' :: rest => (afterComment 1 rest).bind (skipFrom fuel)
    | '/' :: _ => none
    | rest => some rest

/-- What follows the blanks and comments at the start. -/
def skip (cs : List Char) : Option (List Char) :=
  skipFrom (cs.length + 1) cs

/-! ## Names -/

/-- Whether a name may start with a character. -/
def isNameStart (c : Char) : Bool :=
  c.isAlpha || c = '_'

/-- Whether a character may stand in a name. -/
def isNamePart (c : Char) : Bool :=
  c.isAlphanum || c = '_'

/-- Whether a character may stand in a raw name. -/
def isRawNamePart (c : Char) : Bool :=
  isNamePart c || c = '.' || c = '+' || c = '-'

/-- A name, and what follows it. A name that goes on with a character of raw names
    only is none, and neither is the start of a raw string. -/
def readName : List Char → Option (List Char × List Char)
  | 'r' :: '\"' :: _ => none
  | 'r' :: '#' :: cs =>
    match cs.takeWhile isRawNamePart with
    | [] => none
    | name => some (name, cs.drop name.length)
  | c :: cs =>
    if isNameStart c then
      let name := c :: cs.takeWhile isNamePart
      let rest := cs.dropWhile isNamePart
      if rest.head?.any isRawNamePart then none else some (name, rest)
    else none
  | [] => none

/-! ## Strings -/

/-- The number that hexadecimal digits write. -/
def ofHexDigits (cs : List Char) : Nat :=
  cs.foldl (fun n c => 16 * n + (Json.hexValue? c).getD 0) 0

/-- The character with a number, if there is one. -/
def char? (n : Nat) : Option Char :=
  if n.isValidChar then some (Char.ofNat n) else none

/-- An escape after its backslash, and what follows it. -/
def readEscape : List Char → Option (Char × List Char)
  | '\'' :: cs => some ('\'', cs)
  | '\"' :: cs => some ('\"', cs)
  | '\\' :: cs => some ('\\', cs)
  | 'n' :: cs => some ('\n', cs)
  | 'r' :: cs => some ('\r', cs)
  | 't' :: cs => some ('\t', cs)
  | '0' :: cs => some (Char.ofNat 0, cs)
  | 'x' :: a :: b :: cs =>
    match Json.hexValue? a, Json.hexValue? b with
    | some a, some b => some (Char.ofNat (16 * a + b), cs)
    | _, _ => none
  | 'u' :: '\x7b' :: cs =>
    let digits := cs.takeWhile fun c => (Json.hexValue? c).isSome
    match cs.drop digits.length with
    | '\x7d' :: rest =>
      if 1 ≤ digits.length ∧ digits.length ≤ 6 then
        (char? (ofHexDigits digits)).map fun c => (c, rest)
      else none
    | _ => none
  | _ => none

/-- A string after its opening quote, and what follows its closing quote; `fuel`
    bounds its length. -/
def readString : Nat → List Char → Option (List Char × List Char)
  | 0, _ => none
  | _ + 1, [] => none
  | _ + 1, '\"' :: cs => some ([], cs)
  | fuel + 1, '\\' :: cs =>
    match readEscape cs with
    | some (c, rest) => (readString fuel rest).map fun p => (c :: p.1, p.2)
    | none => none
  | fuel + 1, c :: cs => (readString fuel cs).map fun p => (c :: p.1, p.2)

/-- A raw string after its opening quote, and what follows the quote and the `marks`
    number signs that close it. -/
def readRaw (marks : Nat) : List Char → Option (List Char × List Char)
  | [] => none
  | c :: cs =>
    if c = '\"' ∧ (List.replicate marks '#').isPrefixOf cs then some ([], cs.drop marks)
    else (readRaw marks cs).map fun p => (c :: p.1, p.2)

/-- A raw string after its `r`, and what follows it. -/
def readRawString (cs : List Char) : Option (List Char × List Char) :=
  let marks := (cs.takeWhile (· = '#')).length
  match cs.drop marks with
  | '\"' :: rest => readRaw marks rest
  | _ => none

/-- A character after its opening quote, and what follows its closing quote. -/
def readChar : List Char → Option (Char × List Char)
  | '\\' :: cs =>
    match readEscape cs with
    | some (c, '\'' :: rest) => some (c, rest)
    | _ => none
  | c :: '\'' :: rest => some (c, rest)
  | _ => none

/-! ## Numbers -/

/-- The base of the digits at the start, and the digits with what follows. -/
def base : List Char → Nat × List Char
  | '0' :: 'x' :: cs => (16, cs)
  | '0' :: 'o' :: cs => (8, cs)
  | '0' :: 'b' :: cs => (2, cs)
  | cs => (10, cs)

/-- The number that digits of a base write; underscores may stand among them. -/
def ofBase? (base : Nat) (digits : List Char) : Option Nat :=
  match digits with
  | [] => none
  | '_' :: _ => none
  | cs =>
    (cs.filter (· ≠ '_')).foldlM (fun n c =>
      match Json.hexValue? c with
      | some d => if d < base then some (base * n + d) else none
      | none => none) 0

/-- Whether a text is a number with a fraction or an exponent, or a whole one. -/
def isDecimal (cs : List Char) : Bool :=
  let whole := cs.takeWhile Char.isDigit
  let rest := cs.drop whole.length
  let (fraction, rest) :=
    match rest with
    | '.' :: rest => (rest.takeWhile Char.isDigit, rest.dropWhile Char.isDigit)
    | _ => ([], rest)
  let exponentOk :=
    match rest with
    | [] => true
    | c :: rest =>
      let digits := if rest.head? = some '+' ∨ rest.head? = some '-' then rest.drop 1 else rest
      (c = 'e' || c = 'E') && !digits.isEmpty && digits.all Char.isDigit
  !(whole.isEmpty && fraction.isEmpty) && exponentOk

/-- A number, and what follows it. -/
def readNumber (cs : List Char) : Option (Document × List Char) :=
  let isSigned := cs.head? = some '+' ∨ cs.head? = some '-'
  let unsigned := if isSigned then cs.drop 1 else cs
  let (base, digits) := base unsigned
  let isDigit := fun (c : Char) => (Json.hexValue? c).isSome || c = '_'
  let run := digits.takeWhile isDigit
  let rest := digits.drop run.length
  if base = 10 ∧ (unsigned.takeWhile fun c => isDigit c || c = '.' || c = '+' || c = '-').any
      (fun c => c = '.' || c = 'e' || c = 'E') then
    let isPart := fun (c : Char) => c.isDigit || c = 'e' || c = 'E' || c = '.' || c = '+' ||
      c = '-' || c = '_'
    let run := unsigned.takeWhile isPart
    if isDecimal (run.filter (· ≠ '_')) then some (.number, unsigned.drop run.length) else none
  else
    match ofBase? base run with
    | some n => some (if isSigned then .number else .natural n, rest)
    | none => none

/-! ## Documents -/

mutual

/-- A document at the start of a text, and what follows it; `fuel` bounds the
    length of the text and the nesting. -/
def readDocument : (fuel : Nat) → List Char → Option (Document × List Char)
  | 0, _ => none
  | fuel + 1, cs =>
    match readName cs with
    | some (name, rest) =>
      match skip rest with
      | some ('(' :: inside) => readInside fuel (some name) inside
      | _ => some (.word name, rest)
    | none =>
      match cs with
      | '(' :: inside => readInside fuel none inside
      | '[' :: inside => (readItems fuel ']' inside).map fun p => (.list p.1, p.2)
      | '\x7b' :: inside => (readEntries fuel inside).map fun p => (.map p.1, p.2)
      | '\"' :: inside =>
        (readString (inside.length + 1) inside).map fun p => (.string p.1, p.2)
      | 'r' :: inside => (readRawString inside).map fun p => (.string p.1, p.2)
      | '\'' :: inside => (readChar inside).map fun p => (.char p.1, p.2)
      | cs => readNumber cs

/-- A record or a tuple after its opening parenthesis. -/
def readInside : (fuel : Nat) → Option (List Char) → List Char → Option (Document × List Char)
  | 0, _, _ => none
  | fuel + 1, name, cs =>
    let isRecord : Bool :=
      match (skip cs).bind readName with
      | some (_, rest) => (skip rest).bind (·.head?) == some ':'
      | none => false
    if isRecord then (readFields fuel cs).map fun p => (.record name p.1, p.2)
    else (readItems fuel ')' cs).map fun p => (.tuple name p.1, p.2)

/-- The items up to a closing character; a comma may come after the last. -/
def readItems : (fuel : Nat) → Char → List Char → Option (List Document × List Char)
  | 0, _, _ => none
  | fuel + 1, close, cs =>
    match skip cs with
    | none => none
    | some [] => none
    | some (c :: cs) =>
      if c = close then some ([], cs)
      else
        match readDocument fuel (c :: cs) with
        | none => none
        | some (d, rest) =>
          match skip rest with
          | some (',' :: rest) => (readItems fuel close rest).map fun p => (d :: p.1, p.2)
          | some (c :: rest) => if c = close then some ([d], rest) else none
          | _ => none

/-- The fields of a record up to its closing parenthesis. -/
def readFields : (fuel : Nat) → List Char → Option (List (List Char × Document) × List Char)
  | 0, _ => none
  | fuel + 1, cs =>
    match skip cs with
    | some (')' :: rest) => some ([], rest)
    | some cs =>
      match readName cs with
      | none => none
      | some (name, rest) =>
        match skip rest with
        | some (':' :: rest) =>
          match (skip rest).bind (readDocument fuel) with
          | none => none
          | some (d, rest) =>
            match skip rest with
            | some (',' :: rest) => (readFields fuel rest).map fun p => ((name, d) :: p.1, p.2)
            | some (')' :: rest) => some ([(name, d)], rest)
            | _ => none
        | _ => none
    | none => none

/-- The entries of a map up to its closing brace. -/
def readEntries : (fuel : Nat) → List Char → Option (List (Document × Document) × List Char)
  | 0, _ => none
  | fuel + 1, cs =>
    match skip cs with
    | some ('\x7d' :: rest) => some ([], rest)
    | some cs =>
      match readDocument fuel cs with
      | none => none
      | some (key, rest) =>
        match skip rest with
        | some (':' :: rest) =>
          match (skip rest).bind (readDocument fuel) with
          | none => none
          | some (d, rest) =>
            match skip rest with
            | some (',' :: rest) => (readEntries fuel rest).map fun p => ((key, d) :: p.1, p.2)
            | some ('\x7d' :: rest) => some ([(key, d)], rest)
            | _ => none
        | _ => none
    | none => none

end

/-! ## Extensions -/

/-- The extensions there are. -/
def extensions : List String :=
  ["unwrap_newtypes", "implicit_some", "unwrap_variant_newtypes"]

/-- The names up to a closing parenthesis, and what follows it; `fuel` bounds their
    number. -/
def readExtensions : Nat → List Char → Option (List String × List Char)
  | 0, _ => none
  | fuel + 1, cs =>
    match (skip cs).bind readName with
    | none => none
    | some (name, rest) =>
      let name := String.ofList name
      if extensions.contains name then
        match skip rest with
        | some (',' :: rest) =>
          match skip rest with
          | some (')' :: rest) => some ([name], rest)
          | some rest => (readExtensions fuel rest).map fun p => (name :: p.1, p.2)
          | none => none
        | some (')' :: rest) => some ([name], rest)
        | _ => none
      else none

/-- What follows a text at the start, blanks and comments before it aside. -/
def expect (text : List Char) (cs : List Char) : Option (List Char) :=
  (skip cs).bind fun cs => if text.isPrefixOf cs then some (cs.drop text.length) else none

/-- The extensions that a text enables at its start, and what follows; `fuel` bounds
    the number of lists of them. -/
def readHeader : Nat → List Char → Option (List String × List Char)
  | 0, _ => none
  | fuel + 1, cs =>
    match skip cs with
    | none => none
    | some ('#' :: cs) => do
      let rest ← (["!", "[", "enable", "("].map String.toList).foldlM (fun cs t => expect t cs) cs
      let (names, rest) ← readExtensions (rest.length + 1) rest
      let rest ← expect [']'] rest
      let (more, rest) ← readHeader fuel rest
      return (names ++ more, rest)
    | some cs => some ([], cs)

/-- A text as a document, and whether `Some` may be left out in it. -/
structure File where
  document : Document
  bareOptions : Bool

/-- The document that makes up a whole text. -/
def parse (text : String) : Option File := do
  let cs := text.toList
  let (names, rest) ← readHeader (cs.length + 1) cs
  let (document, rest) ← readDocument (4 * rest.length + 4) rest
  let rest ← skip rest
  if rest.isEmpty then
    return { document, bareOptions := names.contains "implicit_some" }
  else none

end Hyperfiction.Ron
