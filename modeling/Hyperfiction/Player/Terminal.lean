import Hyperfiction.Display
import Hyperfiction.Text.Blank

/-! # Terminals

    A terminal shows passages as plain text: without tags, with entities decoded,
    every line set in by two blanks. It remembers the links to passages that stand
    on screen, so that a reader can follow one by its number.
-/

namespace Hyperfiction

/-! ## Plain text -/

/-- The text without its tags. A tag runs from `<` to the next `>` and holds at
    least one character between them. -/
def stripTags : List Char → List Char
  | [] => []
  | '<' :: cs =>
    match cs.takeWhile (· ≠ '>'), _h : cs.dropWhile (· ≠ '>') with
    | _ :: _, _ :: rest => stripTags rest
    | _, _ => '<' :: stripTags cs
  | c :: cs => c :: stripTags cs
termination_by cs => cs.length
decreasing_by
  · have := congrArg List.length _h
    have := (List.dropWhile_suffix (fun x => decide (x ≠ '>')) (l := cs)).length_le
    simp_all only [List.length_cons]
    omega
  · simp
  · simp

/-- The lines of HTML as plain text. -/
def plainLines (html : String) : List (List Char) :=
  Text.lines (Text.trim (Entity.decode (stripTags html.toList)))

/-! ## The terminal -/

/-- A terminal. -/
structure Terminal where
  /-- The links to passages on screen, in order. -/
  links : List Link := []
  /-- All that was printed so far. -/
  printed : String := ""
deriving DecidableEq, Repr, Inhabited

namespace Terminal

/-- Prints a text. -/
def print (text : String) (t : Terminal) : Terminal :=
  { t with printed := t.printed ++ text }

/-- Prints a line. -/
def printLine (line : String) (t : Terminal) : Terminal :=
  t.print (line ++ "\n")

/-- Prints lines. -/
def printLines (lines : List String) (t : Terminal) : Terminal :=
  lines.foldl (fun t line => t.printLine line) t

/-- Prints a part of a frame and adds its links to those on screen. -/
def showPart (part : RenderedPassage) (t : Terminal) : Terminal :=
  let t := t.printLines ((plainLines part.html).map fun line => "  " ++ String.ofList line)
  { t with links := t.links ++ part.passageLinks }

/-- Prints the links on screen with their numbers, which count from one. -/
def printLinks (t : Terminal) : Terminal :=
  t.printLines (t.links.mapIdx fun i link =>
    "  [" ++ toString (i + 1) ++ "] " ++ link.display)

/-- The link with a number. -/
def link? (number : Nat) (t : Terminal) : Option Link :=
  if number = 0 then none else t.links[number - 1]?

instance : Display Terminal where
  showPassage p t := ({ t with links := [] }.printLine ("\n== " ++ p.name ++ " ==")).showPart p
  showHeader := Terminal.showPart
  showFooter := Terminal.showPart
  setTitle title t := t.printLine ("\n*** " ++ title ++ " ***")
  applyConfig c t := if c.darkTheme then t.printLine "(dark theme)" else t

end Terminal

end Hyperfiction
