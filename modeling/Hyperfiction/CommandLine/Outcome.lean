import Hyperfiction.FileTree

/-! # Outcomes of a program

    What a program leaves: its exit code, what it printed to either stream, and the
    files as they are then.
-/

namespace Hyperfiction.CommandLine

/-- What a program leaves. -/
structure Outcome where
  exitCode : UInt8 := 0
  /-- What was printed for the reader. -/
  output : String := ""
  /-- What was printed about failures. -/
  errors : String := ""
  tree : FileTree
deriving Inhabited

/-- Whether the arguments ask how the program is used. -/
def asksForUsage : List String → Bool
  | [] => true
  | first :: _ => first = "--help" || first = "-h"

/-- A text of lines. -/
def textOfLines (lines : List String) : String :=
  String.join (lines.map (· ++ "\n"))

/-- The outcome of a program that could not load its story. -/
def Outcome.unloaded (e : String) (tree : FileTree) : Outcome :=
  { exitCode := 1, errors := textOfLines ["ERROR: Failed to load story: " ++ e], tree }

end Hyperfiction.CommandLine
