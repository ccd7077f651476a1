import Hyperfiction.Passage

/-! # Events

    What an engine tells those who watch it, before and after each operation.
-/

namespace Hyperfiction

/-- What an engine tells. -/
inductive Event where
  | goingTo (query : Query)
  | wentTo (passage : PassageId)
  | showing (query : Query)
  | shown (passage : PassageId)
  | reachingCheckpoint (name : String)
  | reachedCheckpoint (name : String)
  | saving
  | saved
  | restoring
  | restored
  | restoreFailed (reason : String)
  | resetting
  | wasReset
deriving DecidableEq, Repr, Inhabited

/-- The name of an event. -/
def Event.name : Event → String
  | .goingTo _ => "goToPassage:before"
  | .wentTo _ => "goToPassage:after"
  | .showing _ => "showPassage:before"
  | .shown _ => "showPassage:after"
  | .reachingCheckpoint _ => "checkpoint:before"
  | .reachedCheckpoint _ => "checkpoint:after"
  | .saving => "save:before"
  | .saved => "save:after"
  | .restoring => "restore:before"
  | .restored => "restore:after"
  | .restoreFailed _ => "restore:failed"
  | .resetting => "reset:before"
  | .wasReset => "reset:after"

end Hyperfiction
