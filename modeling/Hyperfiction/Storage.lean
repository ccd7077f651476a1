import Hyperfiction.Table

/-! # Storage

    A store keeps one text under each key. Reading never changes a store; writing
    and removing give the store back with what came of it, since a store may refuse.
    Two stores stand here: one in memory, and one that refuses what it is told to
    and passes everything else on.
-/

namespace Hyperfiction

/-- Why a store does not do what is asked of it. -/
inductive StoreError where
  /-- The folder or file behind the store cannot be used. -/
  | io
  | invalidKey (key : String)
  | unavailable (reason : String)
deriving DecidableEq, Repr, Inhabited

/-- The text of an error. -/
def StoreError.message : StoreError → String
  | .io => "IO error: the file cannot be used"
  | .invalidKey key => "invalid store key: " ++ key
  | .unavailable reason => "storage unavailable: " ++ reason

/-- Keeps a text under each key. -/
class Storage (S : Type) where
  /-- The text of a key, if it has one. -/
  get : S → String → Except StoreError (Option String)
  /-- Gives a key its text. -/
  set : S → String → String → Except StoreError Unit × S
  /-- Takes a key and its text away. -/
  remove : S → String → Except StoreError Unit × S

/-! ## Memory -/

/-- A store in memory. -/
structure MemoryStore where
  entries : Fields String := []
deriving DecidableEq, Inhabited

namespace MemoryStore

/-- How many keys have a text. -/
def size (s : MemoryStore) : Nat :=
  s.entries.length

instance : Storage MemoryStore where
  get s key := .ok (Table.get? key s.entries)
  set s key text := (.ok (), { entries := Table.insert key text s.entries })
  remove s key := (.ok (), { entries := Table.erase key s.entries })

end MemoryStore

/-! ## Refusal -/

/-- What can be asked of a store. -/
inductive StoreAction where
  | get
  | set
  | remove
deriving DecidableEq, Repr, Inhabited

/-- The name of an action. -/
def StoreAction.name : StoreAction → String
  | .get => "get"
  | .set => "set"
  | .remove => "remove"

/-- A store that refuses some actions. -/
structure RefusingStore (S : Type) where
  inner : S
  refused : List StoreAction := []

namespace RefusingStore

variable {S : Type}

/-- The error of a refused action. -/
def refusal (action : StoreAction) : StoreError :=
  .unavailable (action.name ++ " refused")

instance [Storage S] : Storage (RefusingStore S) where
  get s key :=
    if s.refused.contains .get then .error (refusal .get) else Storage.get s.inner key
  set s key text :=
    if s.refused.contains .set then (.error (refusal .set), s)
    else
      let (result, inner) := Storage.set s.inner key text
      (result, { s with inner })
  remove s key :=
    if s.refused.contains .remove then (.error (refusal .remove), s)
    else
      let (result, inner) := Storage.remove s.inner key
      (result, { s with inner })

end RefusingStore

end Hyperfiction
