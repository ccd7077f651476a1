import Hyperfiction.Text.Cut

/-! # Lines of markup

    The lines of a markup text, and a cursor on a line that counts columns: a
    tab reaches to the next multiple of four, and may be passed in part.
-/

namespace Hyperfiction.Markdown

/-- Whether a character is a blank within a line. -/
def isSpace (c : Char) : Bool :=
  c = ' ' || c = '\t' || c = '\x0b' || c = '\x0c'

/-- Whether a character is a blank or ends a line. -/
def isSpaceOrEnd (c : Char) : Bool :=
  isSpace c || c = '\n' || c = '\r'

/-- The lines of a text without their ends, each with whether it has an end;
    `line` is the line being read, in reverse. -/
def linesFrom (line : List Char) : List Char → List (List Char × Bool)
  | [] => if line.isEmpty then [] else [(line.reverse, false)]
  | '\r' :: '\n' :: cs => (line.reverse, true) :: linesFrom [] cs
  | c :: cs =>
    if c = '\n' ∨ c = '\r' then (line.reverse, true) :: linesFrom [] cs
    else linesFrom (c :: line) cs

/-- The text without the blanks at its end. -/
def trimSpaceEnd (cs : List Char) : List Char :=
  (cs.reverse.dropWhile isSpaceOrEnd).reverse

/-- The text without the blanks at either end. -/
def trimSpace (cs : List Char) : List Char :=
  trimSpaceEnd (cs.dropWhile isSpaceOrEnd)

/-- The rest of a line from some column on. -/
structure Cursor where
  rest : List Char
  /-- The column of the first character of the rest. -/
  column : Nat := 0
  /-- How many columns of the tab passed last are still to come. -/
  spare : Nat := 0
  /-- Whether the line has an end. -/
  hasEnd : Bool := true

namespace Cursor

/-- How many columns of blanks a text at a column starts with. -/
def blankColumns (column : Nat) : List Char → Nat
  | ' ' :: cs => 1 + blankColumns (column + 1) cs
  | '\t' :: cs => (4 - column % 4) + blankColumns (column + (4 - column % 4)) cs
  | _ => 0

/-- How many columns of blanks come next. -/
def indent (line : Cursor) : Nat :=
  line.spare + blankColumns line.column line.rest

/-- Whether only blanks are left. -/
def isBlank (line : Cursor) : Bool :=
  line.rest.all isSpace

/-- Passes a number of columns of blanks, fewer if there are fewer. -/
def dropFrom (column spare : Nat) : Nat → List Char → List Char × Nat × Nat
  | 0, cs => (cs, column, spare)
  | n + 1, cs =>
    if 0 < spare then dropFrom column (spare - 1) n cs
    else
      match cs with
      | ' ' :: rest => dropFrom (column + 1) 0 n rest
      | '\t' :: rest => dropFrom (column + (4 - column % 4)) (3 - column % 4) n rest
      | _ => (cs, column, 0)

/-- Passes a number of columns of blanks, fewer if there are fewer. -/
def dropColumns (n : Nat) (line : Cursor) : Cursor :=
  let (rest, column, spare) := dropFrom line.column line.spare n line.rest
  { line with rest, column, spare }

/-- What is left after the blanks that come next. -/
def text (line : Cursor) : List Char :=
  line.rest.dropWhile fun c => c = ' ' || c = '\t'

/-- Passes the blanks that come next and then some characters. -/
def dropMarker (width : Nat) (line : Cursor) : Cursor :=
  let column := line.column + blankColumns line.column line.rest + width
  { line with rest := line.text.drop width, column, spare := 0 }

/-- What is left, blanks and line end included. -/
def whole (line : Cursor) : List Char :=
  List.replicate line.spare ' ' ++ line.rest ++ (if line.hasEnd then ['\n'] else [])

end Cursor

/-- The lines of a text. -/
def lines (cs : List Char) : List Cursor :=
  (linesFrom [] cs).map fun p => { rest := p.1, hasEnd := p.2 }

end Hyperfiction.Markdown
