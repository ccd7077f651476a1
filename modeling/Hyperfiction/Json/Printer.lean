import Hyperfiction.Value

/-! # Writing JSON

    Values as JSON text: compact, without any blank, and indented by two blanks
    a level. Objects are written in the order of their keys.
-/

namespace Hyperfiction.Json

/-- Floating-point numbers keep a fraction, are positional from `1e-5` up to
    `1e16`, and carry a signed exponent outside that range. -/
def floatLayout : Decimal.Layout :=
  { lowPoint := -4, highPoint := 16, keepsFraction := true, signsExponent := true }

/-- A hexadecimal digit in lower case. -/
def hexDigit (n : Nat) : Char :=
  if n < 10 then Char.ofNat (n + 48) else Char.ofNat (n + 87)

/-- A character of a string as it is written: the quote, the backslash and the
    control characters are escaped. -/
def writeChar (c : Char) : List Char :=
  if c = '\"' then ['\\', '\"']
  else if c = '\\' then ['\\', '\\']
  else if c.toNat = 8 then ['\\', 'b']
  else if c = '\t' then ['\\', 't']
  else if c = '\n' then ['\\', 'n']
  else if c.toNat = 12 then ['\\', 'f']
  else if c = '\r' then ['\\', 'r']
  else if c.toNat < 32 then
    ['\\', 'u', '0', '0', hexDigit (c.toNat / 16), hexDigit (c.toNat % 16)]
  else [c]

/-- A string between quotes. -/
def writeString (cs : List Char) : List Char :=
  '\"' :: (cs.flatMap writeChar ++ ['\"'])

mutual

/-- A value without any blank. -/
def write : Value → List Char
  | .null => ['n', 'u', 'l', 'l']
  | .bool true => ['t', 'r', 'u', 'e']
  | .bool false => ['f', 'a', 'l', 's', 'e']
  | .int n => Decimal.ofInt n
  | .float x => floatLayout.ofFloat x
  | .str s => writeString s.toList
  | .arr [] => ['[', ']']
  | .arr (v :: vs) => '[' :: (write v ++ writeItems vs)
  | .obj [] => ['\x7b', '\x7d']
  | .obj ((k, v) :: fs) => '\x7b' :: (writeString k.toList ++ ':' :: (write v ++ writeFields fs))

/-- The items that follow the first, and the closing bracket. -/
def writeItems : List Value → List Char
  | [] => [']']
  | v :: vs => ',' :: (write v ++ writeItems vs)

/-- The fields that follow the first, and the closing brace. -/
def writeFields : List (String × Value) → List Char
  | [] => ['\x7d']
  | (k, v) :: fs => ',' :: (writeString k.toList ++ ':' :: (write v ++ writeFields fs))

end

/-- A line break and the blanks of a level. -/
def newLine (level : Nat) : List Char :=
  '\n' :: List.replicate (2 * level) ' '

mutual

/-- A value on several lines, each level indented by two blanks. -/
def writeIndented (level : Nat) : Value → List Char
  | .arr (v :: vs) =>
    '[' :: (newLine (level + 1) ++ writeIndented (level + 1) v ++ indentedItems level vs)
  | .obj ((k, v) :: fs) =>
    '\x7b' :: (newLine (level + 1) ++ writeString k.toList ++ ':' :: ' ' ::
      (writeIndented (level + 1) v ++ indentedFields level fs))
  | v => write v

/-- The items that follow the first, and the closing bracket. -/
def indentedItems (level : Nat) : List Value → List Char
  | [] => newLine level ++ [']']
  | v :: vs =>
    ',' :: (newLine (level + 1) ++ writeIndented (level + 1) v ++ indentedItems level vs)

/-- The fields that follow the first, and the closing brace. -/
def indentedFields (level : Nat) : List (String × Value) → List Char
  | [] => newLine level ++ ['\x7d']
  | (k, v) :: fs =>
    ',' :: (newLine (level + 1) ++ writeString k.toList ++ ':' :: ' ' ::
      (writeIndented (level + 1) v ++ indentedFields level fs))

end

/-- The compact JSON text of a value. -/
def text (v : Value) : String :=
  String.ofList (write v)

/-- The indented JSON text of a value. -/
def indentedText (v : Value) : String :=
  String.ofList (writeIndented 0 v)

end Hyperfiction.Json
