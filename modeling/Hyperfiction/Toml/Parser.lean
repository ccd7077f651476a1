import Hyperfiction.Toml.Scalar
import Hyperfiction.Toml.Tree

/-! # Reading TOML

    A document is read line by line: a header opens a table, a key with a value
    adds to the table that is open.
-/

namespace Hyperfiction.Toml

/-- How many arrays and inline tables may be open at once, and how many parts a key
    may have. -/
def maxDepth : Nat := 79

/-! ## Keys -/

/-- The characters of a key without quotes. -/
def isKeyChar (c : Char) : Bool :=
  ('a' ≤ c && c ≤ 'z') || ('A' ≤ c && c ≤ 'Z') || Json.isDigit c || c = '_' || c = '-'

/-- One part of a key. -/
def readKeyPart : List Char → Option (String × List Char)
  | '\"' :: cs => (readBasic (cs.length + 1) cs).map fun p => (String.ofList p.1, p.2)
  | '\'' :: cs => (readLiteral cs).map fun p => (String.ofList p.1, p.2)
  | cs =>
    match cs.takeWhile isKeyChar with
    | [] => none
    | part => some (String.ofList part, cs.dropWhile isKeyChar)

/-- A key of at most `count` parts, with points between them and blanks around each. -/
def readKey : (count : Nat) → List Char → Option (List String × List Char)
  | 0, _ => none
  | count + 1, cs => do
    let (part, cs) ← readKeyPart (skipSpace cs)
    match skipSpace cs with
    | '.' :: cs =>
      let (parts, cs) ← readKey count cs
      return (part :: parts, cs)
    | cs => return ([part], cs)

/-! ## Values -/

/-- What follows a comment, if the text starts with one; its line end stays. -/
def afterComment? : List Char → Option (List Char)
  | '#' :: cs =>
    let rest := cs.dropWhile isText
    match rest, afterNewline? rest with
    | [], _ => some rest
    | _, some _ => some rest
    | _, none => none
  | cs => some cs

/-- What follows the blanks, comments and line ends a text starts with. -/
def skipLines : (fuel : Nat) → List Char → Option (List Char)
  | 0, _ => none
  | fuel + 1, cs =>
    match afterComment? (skipSpace cs) with
    | none => none
    | some cs =>
      match afterNewline? cs with
      | some cs => skipLines fuel cs
      | none => some cs

mutual

/-- A value; `depth` counts the arrays and inline tables that may still be opened. -/
def readValue : (fuel depth : Nat) → List Char → Option (Value × List Char)
  | 0, _, _ => none
  | _, 0, '[' :: _ => none
  | _, 0, '\x7b' :: _ => none
  | fuel + 1, depth + 1, '[' :: cs =>
    (readItems fuel depth cs).map fun p => (.arr p.1, p.2)
  | fuel + 1, depth + 1, '\x7b' :: cs =>
    match skipSpace cs with
    | '\x7d' :: cs => some (.obj [], cs)
    | _ => (readInline fuel depth [] cs).map fun p => (.obj (Tree.toFields p.1), p.2)
  | _ + 1, _, cs =>
    match cs with
    | '\"' :: _ => (readString cs).map fun p => (.str (String.ofList p.1), p.2)
    | '\'' :: _ => (readString cs).map fun p => (.str (String.ofList p.1), p.2)
    | _ =>
      let (run, rest) := readRun cs
      (ofRun? run).map fun v => (v, rest)

/-- The items of an array and its closing bracket. -/
def readItems : (fuel depth : Nat) → List Char → Option (List Value × List Char)
  | 0, _, _ => none
  | fuel + 1, depth, cs =>
    match skipLines (cs.length + 1) cs with
    | none => none
    | some (']' :: cs) => some ([], cs)
    | some cs =>
      match readValue fuel depth cs with
      | none => none
      | some (v, cs) =>
        match skipLines (cs.length + 1) cs with
        | some (']' :: cs) => some ([v], cs)
        | some (',' :: cs) => (readItems fuel depth cs).map fun p => (v :: p.1, p.2)
        | _ => none

/-- The fields of an inline table and its closing brace, at least one field. -/
def readInline : (fuel depth : Nat) → Fields Tree → List Char → Option (Fields Tree × List Char)
  | 0, _, _, _ => none
  | fuel + 1, depth, read, cs =>
    match readKey maxDepth cs with
    | none => none
    | some (parts, cs) =>
      match parts.getLast?, cs with
      | some key, '=' :: cs =>
        match readValue fuel depth (skipSpace cs) with
        | none => none
        | some (v, cs) =>
          match Tree.setDotted key v parts.dropLast true read with
          | none => none
          | some read =>
            match skipSpace cs with
            | '\x7d' :: cs => some (read, cs)
            | ',' :: cs => readInline fuel depth read cs
            | _ => none
      | _, _ => none

end

/-! ## Documents -/

/-- What follows the end of a line: blanks, a comment, and a line end or the end
    of the text. -/
def endLine? (cs : List Char) : Option (List Char) :=
  match afterComment? (skipSpace cs) with
  | none => none
  | some [] => some []
  | some cs => afterNewline? cs

/-- A document's tables, and the path of the table that is open. -/
structure Reading where
  root : Fields Tree
  path : List String

/-- Opens the table of a header. -/
def Reading.enter (r : Reading) (open? : String → Fields Tree → Option (Fields Tree))
    (parts : List String) : Option Reading := do
  let key ← parts.getLast?
  let root ← Tree.descend (open? key) parts.dropLast r.root
  return { root, path := parts }

/-- Adds a key and its value to the table that is open. -/
def Reading.set (r : Reading) (parts : List String) (v : Value) : Option Reading := do
  let key ← parts.getLast?
  let root ← Tree.descend (Tree.setDotted key v parts.dropLast true) r.path r.root
  return { r with root }

/-- Reads one line that is not blank. -/
def Reading.line (r : Reading) (cs : List Char) : Option (Reading × List Char) :=
  match cs with
  | '[' :: '[' :: cs => do
    let (parts, cs) ← readKey maxDepth cs
    let cs ← readChar ']' cs
    let cs ← readChar ']' cs
    let r ← r.enter Tree.openItem parts
    let cs ← endLine? cs
    return (r, cs)
  | '[' :: cs => do
    let (parts, cs) ← readKey maxDepth cs
    let cs ← readChar ']' cs
    let r ← r.enter Tree.openTable parts
    let cs ← endLine? cs
    return (r, cs)
  | cs => do
    let (parts, cs) ← readKey maxDepth cs
    let cs ← readChar '=' cs
    let (v, cs) ← readValue (2 * cs.length + 2) maxDepth (skipSpace cs)
    let r ← r.set parts v
    let cs ← endLine? cs
    return (r, cs)

/-- Reads lines up to the end of the text. -/
def Reading.lines : (fuel : Nat) → Reading → List Char → Option Reading
  | 0, _, _ => none
  | fuel + 1, r, cs =>
    match skipLines (cs.length + 1) cs with
    | none => none
    | some [] => some r
    | some cs =>
      match r.line cs with
      | none => none
      | some (r, cs) => Reading.lines fuel r cs

/-- The text without the mark that may start a file. -/
def dropMark : List Char → List Char
  | '\uFEFF' :: cs => cs
  | cs => cs

/-- The table a document defines. -/
def parse? (s : String) : Option (Fields Value) :=
  let cs := dropMark s.toList
  (Reading.lines (cs.length + 1) { root := [], path := [] } cs).map fun r => Tree.toFields r.root

end Hyperfiction.Toml
