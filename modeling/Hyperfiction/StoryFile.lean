import Hyperfiction.Draft
import Hyperfiction.FileTree
import Hyperfiction.Ron.Parser

/-! # Story files

    A story is kept in a file, as RON or as JSON of the same shape: its name, the id
    of its start passage, what is known of its origin, and its passages. The tags
    and the text of a passage may be left out, and so may all that is known of the
    origin.
-/

namespace Hyperfiction

namespace StoryFile

/-- The fields of a story in a file. -/
def storyFields : List String :=
  ["name", "start", "ifid", "creator", "creator_version", "passages"]

/-- The fields of a passage in a file. -/
def passageFields : List String :=
  ["id", "name", "tags", "source"]

/-- The value of a field, or the one it has when it is left out. -/
def orElse {α β : Type} (read : α → Option β) (left : β) : Option α → Option β
  | some a => read a
  | none => some left

/-! ## JSON -/

/-- A text that may be left out or null. -/
def jsonOptional : Option Json.Document → Option (Option String)
  | some .null | none => some none
  | some d => d.string?.map some

/-- A passage in JSON. -/
def jsonPassage? (d : Json.Document) : Option Passage :=
  match d.record? passageFields with
  | some [some id, some name, tags, source] => do
    return Passage.ofParts (← id.word?) (← name.string?)
      (← orElse (Json.Document.list? Json.Document.string?) [] tags)
      (← orElse Json.Document.string? "" source)
  | _ => none

/-- A story in JSON. -/
def jsonDraft? (d : Json.Document) : Option Draft :=
  match d.record? storyFields with
  | some [some name, some start, ifid, creator, version, some passages] => do
    return {
      name := ← name.string?, start := some (← start.word?), ifid := ← jsonOptional ifid
      creator := ← jsonOptional creator, creatorVersion := ← jsonOptional version
      passages := ← passages.list? jsonPassage? }
  | _ => none

/-- The draft that a JSON text holds. -/
def ofJson (text : String) : Except StoryError Draft :=
  match (Json.parse text).bind jsonDraft? with
  | some draft => .ok draft
  | none => .error .malformedJson

/-! ## RON -/

/-- A passage in RON. -/
def ronPassage? (d : Ron.Document) : Option Passage :=
  match d.record? "PassageData" passageFields with
  | some [some id, some name, tags, source] => do
    return Passage.ofParts (← id.word?) (← name.string?)
      (← orElse (Ron.Document.list? Ron.Document.string?) [] tags)
      (← orElse Ron.Document.string? "" source)
  | _ => none

/-- A story in RON. -/
def ronDraft? (file : Ron.File) : Option Draft :=
  let optional := orElse (Ron.Document.optional? file.bareOptions Ron.Document.string?) none
  match file.document.record? "StoryData" storyFields with
  | some [some name, some start, ifid, creator, version, some passages] => do
    return {
      name := ← name.string?, start := some (← start.word?), ifid := ← optional ifid
      creator := ← optional creator, creatorVersion := ← optional version
      passages := ← passages.list? ronPassage? }
  | _ => none

/-- The draft that a RON text holds. -/
def ofRon (text : String) : Except StoryError Draft :=
  match (Ron.parse text).bind ronDraft? with
  | some draft => .ok draft
  | none => .error .malformedRon

/-! ## Files -/

/-- Whether the name of a file ends in `.json`, with something before it. -/
def isJsonPath (path : Path) : Bool :=
  match path.getLast? with
  | some name =>
    let ending := ".json".toList
    ending.length < name.length && ending.isSuffixOf name.toList
  | none => false

/-- The draft in a file: JSON if the file's name says so, else RON. -/
def read (path : Path) (tree : FileTree) : Except StoryError Draft :=
  match tree.read path with
  | .error _ => .error (.unreadable path.text)
  | .ok text => if isJsonPath path then ofJson text else ofRon text

/-- The story in a RON file. -/
def loadRon (path : Path) (tree : FileTree) : Except StoryError Edition :=
  match tree.read path with
  | .error _ => .error (.unreadable path.text)
  | .ok text => ofRon text >>= Draft.build

/-- The story in a file. -/
def load (path : Path) (tree : FileTree) : Except StoryError Edition :=
  read path tree >>= Draft.build

end StoryFile

end Hyperfiction
