import Hyperfiction.Json.Parser
import Hyperfiction.Json.Printer
import Hyperfiction.Passage

/-! # Progress

    How far a reader has come: the variables on entering the passage on screen,
    the passages visited, and the last checkpoint. Progress is written as JSON in
    two forms that differ in the name of the checkpoint's field: saved games, whose
    history may not be empty, and entries of the browser history.
-/

namespace Hyperfiction

/-- How far a reader has come. -/
structure Progress where
  /-- The variables as they were before the last passage was rendered. -/
  state : StateBag
  /-- The ids of the passages visited, in order. -/
  history : List PassageId
  /-- The name of the last checkpoint; empty if there was none. -/
  checkpoint : String
deriving Inhabited

namespace Progress

/-- The passage that was on screen. -/
def last? (p : Progress) : Option PassageId :=
  p.history.getLast?

/-! ## Writing -/

/-- The progress as JSON; `checkpointField` names the field of the checkpoint. -/
def write (checkpointField : String) (p : Progress) : List Char :=
  "\x7b\"state\":".toList ++ Json.write (.obj p.state) ++ ",\"history\":".toList ++
    Json.write (.arr (p.history.map fun id => .int id.toNat)) ++ [','] ++
    Json.writeString checkpointField.toList ++ [':'] ++ Json.writeString p.checkpoint.toList ++
    ['\x7d']

/-- The field of the checkpoint in a saved game. -/
def savedField : String := "currentCheckpoint"

/-- The field of the checkpoint in an entry of the browser history. -/
def entryField : String := "checkpointName"

/-- The text of a saved game. -/
def savedText (p : Progress) : String :=
  String.ofList (p.write savedField)

/-- The text of an entry of the browser history. -/
def entryText (p : Progress) : String :=
  String.ofList (p.write entryField)

/-! ## Reading -/

/-- The progress that a document holds. The record itself is one of the containers
    that may be open at once. -/
def ofDocument? (checkpointField : String) (d : Json.Document) : Option Progress :=
  match Json.Document.record? ["state", "history", checkpointField] d with
  | some [some state, some history, some checkpoint] =>
    match Json.Document.object? (Json.maxDepth - 1) state,
      Json.Document.list? Json.Document.word? history, checkpoint.string? with
    | some state, some history, some checkpoint => some { state, history, checkpoint }
    | _, _, _ => none
  | _ => none

/-- The progress that a text holds. -/
def ofText? (checkpointField text : String) : Option Progress :=
  (Json.parse text).bind (ofDocument? checkpointField)

/-- Why a text is not a saved game. -/
inductive RecordError where
  | malformed
  | emptyHistory
deriving DecidableEq, Repr, Inhabited

/-- The text of an error. -/
def RecordError.message : RecordError → String
  | .malformed => "malformed save record: the text is not a saved game"
  | .emptyHistory => "save record has an empty history"

/-- The progress of a saved game. -/
def ofSavedText (text : String) : Except RecordError Progress :=
  match ofText? savedField text with
  | none => .error .malformed
  | some p => if p.history.isEmpty then .error .emptyHistory else .ok p

/-- The progress of an entry of the browser history. -/
def ofEntryText? (text : String) : Option Progress :=
  ofText? entryField text

end Progress

end Hyperfiction
