import Hyperfiction.Helper

/-! # Drafts

    A draft holds what an author gives: the passages, facts about the story, a seed
    for random choices and helpers of the story's own. Building it fills the two
    tables of the index, checks that the start passage exists, reads the
    configuration passage and lays the author's helpers over those of every story.
-/

namespace Hyperfiction

/-- What an author gives of a story. -/
structure Draft where
  name : String
  ifid : Option String := none
  creator : Option String := none
  creatorVersion : Option String := none
  start : Option PassageId := none
  /-- The passages, in the order they are given. -/
  passages : List Passage := []
  /-- The seed of random choices. -/
  seed : UInt64 := 0
  /-- The helpers of the story's own, in the order they are given; of two with one name the
      later counts. -/
  helpers : List (String × Helper Random.Generator) := []
deriving Inhabited

/-- A story as it is built: with the helpers that its templates may call, and the generator
    that they draw from. -/
structure Edition where
  story : Story
  helpers : HelperSet Random.Generator
  generator : Random.Generator

namespace Draft

/-- The configuration of an index: that of its configuration passage, if it has one. -/
def readConfig (ix : PassageIndex) : Except StoryError Config :=
  match ix.byName? configName with
  | none => .ok {}
  | some p =>
    match Config.ofToml p.text with
    | .error e => .error (.config e)
    | .ok c => .ok c

/-- The helpers of every story, and those of the draft over them. -/
def allHelpers (d : Draft) : HelperSet Random.Generator :=
  Table.merge HelperSet.builtins (Table.ofPairs d.helpers)

/-- Checks a draft. -/
def build (d : Draft) : Except StoryError Edition :=
  match d.start with
  | none => .error .noStart
  | some start =>
    match hindex : PassageIndex.empty.insertAll d.passages with
    | .error e => .error e
    | .ok ix =>
      if hstart : (ix.byId? start).isSome then
        match readConfig ix with
        | .error e => .error e
        | .ok config =>
          .ok
            { story :=
                { name := d.name, ifid := d.ifid, creator := d.creator
                  creatorVersion := d.creatorVersion, start, passages := ix, config
                  passages_agree := PassageIndex.agrees_empty.insertAll hindex
                  start_exists := hstart }
              helpers := d.allHelpers
              generator := .ofSeed d.seed }
      else .error (.missingStart start)

end Draft

end Hyperfiction
