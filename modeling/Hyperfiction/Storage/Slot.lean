import Hyperfiction.Progress
import Hyperfiction.Storage
import Hyperfiction.Text.Case

/-! # Saved games in a store

    Every story has one key, made of its name, under which its saved game is kept.
-/

namespace Hyperfiction

namespace SaveKey

/-- Whether a character of a lower-case name is kept in the key. -/
def isKept (c : Char) : Bool :=
  c.isAlphanum || c = '_' || c = ' '

/-- The text with a hyphen for every run of spaces; `inRun` says whether a space
    came just before. -/
def dashed (inRun : Bool) : List Char → List Char
  | [] => []
  | c :: cs =>
    if c = ' ' then (if inRun then dashed true cs else '-' :: dashed true cs)
    else c :: dashed false cs

/-- What every key ends with. -/
def ending : List Char := ['.', 's', 'a', 'v', 'e']

/-- The key of a story's saved game: its name in lower case with nothing but ASCII
    letters, digits, underscores and spaces left, and a hyphen for every run of
    spaces. -/
def chars (name : List Char) : List Char :=
  dashed false ((Text.lower name).filter isKept) ++ ending

/-- The key of a story's saved game. -/
def ofName (name : String) : String :=
  String.ofList (chars name.toList)

end SaveKey

/-- Why a saved game cannot be kept or had. -/
inductive SlotError where
  | store (e : StoreError)
  | record (e : Progress.RecordError)
  /-- Nothing is kept under the key. -/
  | noSave (key : String)
deriving DecidableEq, Repr, Inhabited

/-- The text of an error. -/
def SlotError.message : SlotError → String
  | .store e => "store error: " ++ e.message
  | .record e => e.message
  | .noSave key => "no save data under '" ++ key ++ "'"

namespace Storage

variable {S : Type} [Storage S]

/-- Whether there is a saved game under a key. -/
def hasSave (store : S) (key : String) : Except SlotError Bool :=
  match get store key with
  | .ok text => .ok text.isSome
  | .error e => .error (.store e)

/-- The progress saved under a key. -/
def load (store : S) (key : String) : Except SlotError Progress :=
  match get store key with
  | .error e => .error (.store e)
  | .ok none => .error (.noSave key)
  | .ok (some text) =>
    match Progress.ofSavedText text with
    | .ok p => .ok p
    | .error e => .error (.record e)

/-- Saves progress under a key. -/
def save (store : S) (key : String) (p : Progress) : Except SlotError Unit × S :=
  match set store key p.savedText with
  | (.ok _, store) => (.ok (), store)
  | (.error e, store) => (.error (.store e), store)

/-- Takes the saved game under a key away. -/
def clear (store : S) (key : String) : Except SlotError Unit × S :=
  match remove store key with
  | (.ok _, store) => (.ok (), store)
  | (.error e, store) => (.error (.store e), store)

end Storage

end Hyperfiction
