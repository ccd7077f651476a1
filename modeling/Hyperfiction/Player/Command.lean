import Hyperfiction.Text.Blank
import Hyperfiction.Text.Case
import Hyperfiction.Text.Numeral

/-! # Commands

    What a reader at a terminal may type: the number of a link, or one of a few
    words. The case of letters and the blanks around a command do not matter.
-/

namespace Hyperfiction

/-- What a reader asks for. -/
inductive Command where
  /-- The link with a number, counted from one. -/
  | follow (number : UInt64)
  | back
  | forward
  | save
  | restore
  | reset
  | history
  | state
  | help
  | quit
  /-- Nothing is known by this word. -/
  | unknown (word : String)
deriving DecidableEq, Repr, Inhabited

namespace Command

/-- The words for commands. -/
def words : List (String × Command) :=
  [("quit", .quit), ("exit", .quit), ("q", .quit), ("help", .help), ("h", .help),
    ("back", .back), ("b", .back), ("forward", .forward), ("f", .forward), ("save", .save),
    ("restore", .restore), ("reset", .reset), ("history", .history), ("state", .state)]

/-- The command of a lower-case word. -/
def ofWord (word : String) : Command :=
  match words.lookup word with
  | some command => command
  | none =>
    match Text.word64? word.toList with
    | some number => .follow number
    | none => .unknown word

/-- The command on a line; a blank line holds none. -/
def ofLine (line : List Char) : Option Command :=
  match Text.trim line with
  | [] => none
  | word => some (ofWord (String.ofList (Text.lower word)))

/-- What is said about the commands. -/
def guide : List String :=
  ["Commands:",
    "  <n>        follow link number n",
    "  back       step back through browser history",
    "  forward    step forward through browser history",
    "  save       save progress",
    "  restore    restore the saved game",
    "  reset      delete the saved game",
    "  history    list visited passages",
    "  state      print story variables",
    "  quit       exit"]

end Command

end Hyperfiction
