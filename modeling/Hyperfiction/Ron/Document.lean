import Hyperfiction.Table

/-! # RON documents

    The structure of a RON text, and reading from it what a record needs. A record is
    written with its fields in any order, each once, and may carry its own name; an
    optional value is written `Some(value)` or `None`.
-/

namespace Hyperfiction.Ron

/-- The structure of a RON text. -/
inductive Document where
  /-- A number without sign, fraction and exponent. -/
  | natural (n : Nat)
  /-- Any other number. -/
  | number
  | string (cs : List Char)
  | char (c : Char)
  /-- A name alone, as `true` or `None`. -/
  | word (name : List Char)
  | list (items : List Document)
  | map (entries : List (Document × Document))
  | tuple (name : Option (List Char)) (items : List Document)
  | record (name : Option (List Char)) (fields : List (List Char × Document))
deriving Inhabited

namespace Document

/-- The text of a string. -/
def string? : Document → Option String
  | .string cs => some (String.ofList cs)
  | _ => none

/-- A number from 0 up to and without `2^32`. -/
def word? : Document → Option UInt32
  | .natural n => if n < UInt32.size then some (UInt32.ofNat n) else none
  | _ => none

/-- The items of a list, each read by `read`. -/
def list? {α : Type} (read : Document → Option α) : Document → Option (List α)
  | .list ds => ds.mapM read
  | _ => none

/-- A value that may be absent; with `bare` it need not be wrapped in `Some`. -/
def optional? {α : Type} (bare : Bool) (read : Document → Option α) (d : Document) :
    Option (Option α) :=
  match d with
  | .word ['N', 'o', 'n', 'e'] => some none
  | .tuple (some ['S', 'o', 'm', 'e']) [d] => (read d).map some
  | d => if bare then (read d).map some else none

/-- The fields of a record of the given name, in the order of `names`; a field that
    is not written has none, and fields of other names are skipped. -/
def record? (name : String) (names : List String) :
    Document → Option (List (Option Document))
  | .record own fields =>
    if own.all (· = name.toList) then
      names.mapM fun name =>
        match fields.filter fun f => f.1 = name.toList with
        | [] => some none
        | [f] => some (some f.2)
        | _ => none
    else none
  | .tuple own [] => if own.all (· = name.toList) then some (names.map fun _ => none) else none
  | _ => none

end Document

end Hyperfiction.Ron
