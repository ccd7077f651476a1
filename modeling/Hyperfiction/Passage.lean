import Hyperfiction.Text.Blank
import Hyperfiction.Text.Entity

/-! # Passages

    A story is told in passages: named, tagged fragments of text, numbered by
    the document they come from. The text of a passage is kept as it is stored,
    with its special characters written as entities.
-/

namespace Hyperfiction

/-- The number of a passage. -/
abbrev PassageId := UInt32

/-- The tag that makes entering a passage a checkpoint. -/
def checkpointTag : String := "checkpoint"

/-- Names that the engine gives a meaning to. -/
def headerName : String := "HEADER"
def footerName : String := "FOOTER"
def configName : String := "CONFIG"

/-- A fragment of story text. -/
structure Passage where
  id : PassageId
  name : String
  /-- The tags in order, none empty and none twice. -/
  tags : List String
  /-- The text as it is stored, with entities. -/
  source : String
deriving DecidableEq, Repr, Inhabited

namespace Passage

/-- Each tag at its first place only, the empty tag nowhere. -/
def distinctTags (tags : List String) : List String :=
  tags.foldl (fun kept tag => if tag.isEmpty || kept.contains tag then kept else kept ++ [tag]) []

/-- A passage with the given tags, freed of empty and repeated ones. -/
def ofParts (id : PassageId) (name : String) (tags : List String) (source : String) : Passage :=
  { id, name, tags := distinctTags tags, source }

/-- The tags of a blank-separated list. -/
def parseTags (list : String) : List String :=
  distinctTags ((Text.words list.toList).map String.ofList)

/-- Whether the passage carries a tag. -/
def hasTag (p : Passage) (tag : String) : Bool :=
  p.tags.contains tag

/-- Whether entering the passage is a checkpoint. -/
def isCheckpoint (p : Passage) : Bool :=
  p.hasTag checkpointTag

/-- The text of the passage with its entities decoded. -/
def text (p : Passage) : String :=
  Entity.unescape p.source

end Passage

/-- How a passage is asked for. -/
inductive Query where
  | id (id : PassageId)
  | name (name : String)
deriving DecidableEq, Repr, Inhabited

/-- The text of a query, as messages show it. -/
def Query.text : Query → String
  | .id number => toString number.toNat
  | .name title => title

end Hyperfiction
