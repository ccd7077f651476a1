import Hyperfiction.Json.Parser
import Hyperfiction.Text.Blank
import Hyperfiction.Word

/-! # Words of the script language

    The code of templates is written in a small script language. This module
    cuts a script into its words: numbers, texts, names, keywords and symbols,
    without the blanks and comments between them. A text between backticks may
    hold code again, `${...}`, so the cutting remembers which braces are open.

    A script that cannot be cut ends in the word `bad`; whether that is an error
    is seen when the word is reached.
-/

namespace Hyperfiction.Script

/-- A word of a script. -/
inductive Token where
  | int (n : Int)
  | float (x : Float)
  | char (c : Char)
  /-- A whole text, or what follows the last code in one. -/
  | str (s : String)
  /-- The part of a text that stands before the braces of code in it. -/
  | piece (s : String)
  | name (s : String)
  | keyword (s : String)
  | symbol (s : String)
  /-- A word or symbol that the language keeps for itself. -/
  | reserved (s : String)
  /-- What cannot be read. -/
  | bad
deriving Inhabited

namespace Token

/-! ## Tables -/

/-- The words with a meaning of their own. -/
def keywords : List String :=
  ["true", "false", "let", "const", "if", "else", "switch", "do", "while", "until", "loop", "for",
    "in", "fn", "private", "import", "export", "as", "continue", "break", "return", "throw", "try",
    "catch"]

/-- Functions that the language itself provides; their names name nothing else. -/
def callableWords : List String :=
  ["print", "debug", "type_of", "eval", "Fn", "call", "curry", "is_shared", "is_def_fn",
    "is_def_var"]

/-- The words that are kept and mean nothing yet, and the receiver of a method. -/
def keptWords : List String :=
  ["this", "var", "static", "shared", "is", "goto", "match", "case", "public", "protected", "new",
    "use", "with", "module", "package", "super", "thread", "spawn", "go", "await", "async", "sync",
    "yield", "default", "void", "null", "nil"]

/-- The symbols of several characters, longest first. -/
def longSymbols : List String :=
  ["**=", "<<=", ">>=", "..=", "===", "!==", "...", "::<", "+=", "-=", "*=", "/=", "%=", "**",
    "==", "!=", "<=", "<<", ">=", ">>", "&&", "&=", "||", "|=", "^=", "=>", "..", "?.", "??", "?[",
    "::", "#\x7b", "()", "++", "--", "->", "<-", "*)", "(*", ":=", ":;", "#!"]

/-- The symbols that are kept and mean nothing yet. -/
def keptSymbols : List String :=
  ["===", "!==", "...", "::<", "++", "--", "->", "<-", "*)", "(*", ":=", ":;", "#!", "~", "?", "#",
    "@", "$"]

/-- The symbols of one character. -/
def shortSymbols : List Char :=
  "+-*/%=!<>&|^:.,;()[]\x7b\x7d~?#@$".toList

/-! ## Names -/

/-- Whether a name may start with a character. -/
def isLetter (c : Char) : Bool :=
  ('a' ≤ c && c ≤ 'z') || ('A' ≤ c && c ≤ 'Z')

/-- Whether a character may stand in a name. -/
def isNameChar (c : Char) : Bool :=
  isLetter c || Json.isDigit c || c == '_'

/-- The word of a run of name characters. A name has a letter before its first digit. -/
def ofWord (cs : List Char) : Token :=
  let s := String.ofList cs
  if cs = ['_'] then .symbol s
  else if keywords.contains s then .keyword s
  else if callableWords.contains s || keptWords.contains s then .reserved s
  else match cs.dropWhile (· == '_') with
    | c :: _ => if isLetter c then .name s else .bad
    | [] => .bad

/-! ## Numbers -/

/-- The digits a text starts with, without the underscores between them, and
    what follows. -/
def readDigits (isDigit : Char → Bool) (cs : List Char) : List Char × List Char :=
  ((cs.takeWhile fun c => isDigit c || c == '_').filter isDigit,
    cs.dropWhile fun c => isDigit c || c == '_')

/-- The digits after a decimal point, if there is one. A point before a name, a
    second point or an underscore belongs to what follows the number. -/
def readFraction : List Char → Option (List Char) × List Char
  | '.' :: c :: cs =>
    if Json.isDigit c then
      let (ds, rest) := readDigits Json.isDigit (c :: cs)
      (some ds, rest)
    else if isLetter c || c == '_' || c == '.' then (none, '.' :: c :: cs)
    else (some [], c :: cs)
  | cs => (none, cs)

/-- The exponent, if there is one. -/
def readExponent : List Char → Option (Bool × List Char) × List Char
  | e :: c :: cs =>
    if e == 'e' || e == 'E' then
      if Json.isDigit c then
        let (ds, rest) := readDigits Json.isDigit (c :: cs)
        (some (false, ds), rest)
      else if c == '+' || c == '-' then
        let (ds, rest) := readDigits Json.isDigit cs
        (some (c == '-', ds), rest)
      else (none, e :: c :: cs)
    else (none, e :: c :: cs)
  | cs => (none, cs)

/-- The number written by digits in a base: it may use all 64 bits, the topmost
    of which is a sign. -/
def ofBase (base : Nat) (digits : List Char) : Token :=
  let n := digits.foldl (fun n c => base * n + (Json.hexValue? c).getD 0) 0
  if digits.isEmpty || UInt64.size ≤ n then .bad
  else if n < Word.half then .int n
  else .int ((n : Int) - UInt64.size)

/-- The number written by decimal digits: an integer if it fits 64 bits and has
    neither fraction nor exponent. -/
def ofDecimal (whole : List Char) (fraction : Option (List Char))
    (exponent : Option (Bool × List Char)) : Token :=
  let n := Json.ofDigits whole
  match fraction, exponent with
  | none, none => if n < Word.half then .int n else .float (Float.ofScientific n false 0)
  | _, some (_, []) => .bad
  | _, _ =>
    let ds := fraction.getD []
    let power : Int := match exponent with
      | some (true, es) => -(Json.ofDigits es : Int)
      | some (false, es) => Json.ofDigits es
      | none => 0
    let scale := power - ds.length
    .float (Float.ofScientific (Json.ofDigits (whole ++ ds)) (scale < 0) scale.natAbs)

/-- The number a text starts with, and what follows. -/
def readNumber (cs : List Char) : Token × List Char :=
  let based (base : Nat) (isDigit : Char → Bool) (rest : List Char) : Token × List Char :=
    let (ds, rest) := readDigits isDigit rest
    (ofBase base ds, rest)
  let (whole, rest) := readDigits Json.isDigit cs
  let decimal : Token × List Char :=
    let (fraction, rest) := readFraction rest
    let (exponent, rest) := readExponent rest
    (ofDecimal whole fraction exponent, rest)
  if whole = ['0'] then
    match rest with
    | 'x' :: rest | 'X' :: rest => based 16 (fun c => (Json.hexValue? c).isSome) rest
    | 'o' :: rest | 'O' :: rest => based 8 (fun c => '0' ≤ c && c ≤ '7') rest
    | 'b' :: rest | 'B' :: rest => based 2 (fun c => c == '0' || c == '1') rest
    | _ => decimal
  else decimal

/-! ## Texts -/

/-- The character with a code point given by hexadecimal digits. -/
def charOfHex? (digits : List Char) : Option Char := do
  let n ← digits.foldlM (fun n c => do return 16 * n + (← Json.hexValue? c)) 0
  if n < 0xD800 ∨ (0xDFFF < n ∧ n < 0x110000) then some (Char.ofNat n) else none

/-- Puts a character before a text that has been read. -/
def precede (c : Char) (r : Option (List Char × List Char)) : Option (List Char × List Char) :=
  r.map fun p => (c :: p.1, p.2)

/-- A text after its opening quote, on one line: escapes begin with a backslash,
    the quote is written twice, and a backslash at the end of a line joins it to
    the next one without the blanks that begin it (`joining`). -/
def readQuoted (quote : Char) (joining : Bool) : List Char → Option (List Char × List Char)
  | [] => none
  | '\\' :: 'x' :: a :: b :: cs =>
    match charOfHex? [a, b] with
    | some c => precede c (readQuoted quote false cs)
    | none => none
  | '\\' :: 'u' :: a :: b :: c :: d :: cs =>
    match charOfHex? [a, b, c, d] with
    | some c => precede c (readQuoted quote false cs)
    | none => none
  | '\\' :: 'U' :: a :: b :: c :: d :: e :: f :: g :: h :: cs =>
    match charOfHex? [a, b, c, d, e, f, g, h] with
    | some c => precede c (readQuoted quote false cs)
    | none => none
  | '\\' :: '\r' :: '\n' :: cs => readQuoted quote true cs
  | '\\' :: e :: cs =>
    if e = '\\' then precede '\\' (readQuoted quote false cs)
    else if e = 't' then precede '\t' (readQuoted quote false cs)
    else if e = 'n' then precede '\n' (readQuoted quote false cs)
    else if e = 'r' then precede '\r' (readQuoted quote false cs)
    else if e = quote then precede quote (readQuoted quote false cs)
    else if e = '\n' then readQuoted quote true cs
    else none
  | c :: d :: cs =>
    if c = quote then
      if d = quote then precede quote (readQuoted quote false cs) else some ([], d :: cs)
    else if c = '\n' ∨ c = '\\' then none
    else if joining && Text.isBlank c then readQuoted quote true (d :: cs)
    else precede c (readQuoted quote false (d :: cs))
  | [c] => if c = quote then some ([], []) else none

/-- A text between backticks, up to its end or to the code in it; the braces of
    the code remain. -/
def readVerbatim : List Char → Option (List Char × Bool × List Char)
  | [] => none
  | '$' :: '\x7b' :: cs => some ([], true, '\x7b' :: cs)
  | '\r' :: '\n' :: cs => readVerbatim ('\n' :: cs)
  | c :: cs =>
    if c.toNat = 96 then
      match cs with
      | d :: ds =>
        if d.toNat = 96 then (readVerbatim ds).map fun p => (c :: p.1, p.2)
        else some ([], false, d :: ds)
      | [] => some ([], false, [])
    else (readVerbatim cs).map fun p => (c :: p.1, p.2)

/-- The text after an opening backtick: a line break just after it does not count. -/
def afterBacktick : List Char → List Char
  | '\r' :: '\n' :: cs => cs
  | '\r' :: cs => cs
  | '\n' :: cs => cs
  | cs => cs

/-- A character between apostrophes, after the first of them. -/
def readCharacter (cs : List Char) : Token × List Char :=
  if cs.head? = some '\'' then (.bad, cs)
  else match readQuoted '\'' false cs with
    | some ([c], rest) => (.char c, rest)
    | _ => (.bad, [])

/-! ## Blanks and comments -/

/-- What is being skipped. -/
inductive Skipping where
  | blanks
  /-- A comment that ends with its line. -/
  | line
  /-- A comment between marks, `depth` of which are open. -/
  | block (depth : Nat)

/-- What follows the blanks and comments a text starts with. -/
def skip : Skipping → List Char → List Char
  | .blanks, '/' :: '/' :: cs => skip .line cs
  | .blanks, '/' :: '*' :: cs => skip (.block 1) cs
  | .blanks, c :: cs => if Text.isBlank c then skip .blanks cs else c :: cs
  | .line, c :: cs => skip (if c = '\n' ∨ c = '\r' then .blanks else .line) cs
  | .block n, '/' :: '*' :: cs => skip (.block (n + 1)) cs
  | .block n, '*' :: '/' :: cs => skip (if n ≤ 1 then .blanks else .block (n - 1)) cs
  | .block n, _ :: cs => skip (.block n) cs
  | _, [] => []

/-! ## Cutting -/

/-- The place of the cutting: for each text with code that is open, how many
    braces are open in its code; and whether the text itself is being read. -/
structure Place where
  braces : List Nat
  inText : Bool

/-- The symbol a text starts with, and what follows. -/
def readSymbol (cs : List Char) : Token × List Char :=
  match longSymbols.find? fun s => s.toList.isPrefixOf cs with
  | some s =>
    (if keptSymbols.contains s then .reserved s else .symbol s, cs.drop s.length)
  | none =>
    match cs with
    | [] => (.bad, [])
    | c :: cs =>
      let s := String.ofList [c]
      if shortSymbols.contains c then
        (if keptSymbols.contains s then .reserved s else .symbol s, cs)
      else (.bad, cs)

/-- The place after a symbol. -/
def Place.after (p : Place) (s : String) : Place :=
  match p.braces with
  | [] => p
  | n :: rest =>
    if s = "\x7b" ∨ s = "#\x7b" then { p with braces := (n + 1) :: rest }
    else if s = "\x7d" then
      if n ≤ 1 then { braces := rest, inText := true } else { p with braces := (n - 1) :: rest }
    else p

/-- The words of a text being read. -/
def readText (p : Place) (cs : List Char) : Token × Place × List Char :=
  match readVerbatim cs with
  | none => (.bad, p, [])
  | some (text, true, rest) =>
    (.piece (String.ofList text), { braces := 0 :: p.braces, inText := false }, rest)
  | some (text, false, rest) => (.str (String.ofList text), { p with inText := false }, rest)

/-- The next word of a text that does not start with blanks. -/
def readCode (p : Place) (cs : List Char) : Token × Place × List Char :=
  match cs with
  | [] => (.bad, p, [])
  | '\"' :: cs =>
    match readQuoted '\"' false cs with
    | some (text, rest) => (.str (String.ofList text), p, rest)
    | none => (.bad, p, [])
  | '\'' :: cs =>
    let (t, rest) := readCharacter cs
    (t, p, rest)
  | '!' :: 'i' :: 'n' :: cs =>
    if (cs.head?.map isNameChar).getD false then (.symbol "!", p, 'i' :: 'n' :: cs)
    else (.symbol "!in", p, cs)
  | c :: cs =>
    if c.toNat = 96 then readText { p with inText := false } (afterBacktick cs)
    else if Json.isDigit c then
      let (t, rest) := readNumber (c :: cs)
      (t, p, rest)
    else if isNameChar c then
      (ofWord ((c :: cs).takeWhile isNameChar), p, (c :: cs).dropWhile isNameChar)
    else
      let (t, rest) := readSymbol (c :: cs)
      match t with
      | .symbol s => (t, p.after s, rest)
      | _ => (t, p, rest)

/-- The next word, if there is one. -/
def next (p : Place) (cs : List Char) : Option (Token × Place × List Char) :=
  if p.inText then some (readText p cs)
  else match skip .blanks cs with
    | [] => none
    | cs => some (readCode p cs)

/-- The words of a script from a place on. -/
def listFrom (p : Place) (cs : List Char) : List Token :=
  match next p cs with
  | none => []
  | some (.bad, _, _) => [.bad]
  | some (t, p, rest) => if _h : rest.length < cs.length then t :: listFrom p rest else [t]
termination_by cs.length

/-- The words of a script. -/
def list (cs : List Char) : List Token :=
  listFrom { braces := [], inText := false } cs

end Token

end Hyperfiction.Script
