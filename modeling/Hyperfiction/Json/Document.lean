import Hyperfiction.Value

/-! # JSON documents

    The structure of a JSON text, before a reader decides what it needs of it.
    A reader that skips a part of a text never looks at the numbers and the
    escapes in it, so those two may be without a value: a number too large for
    any float, and a string whose surrogate escapes do not pair up.
-/

namespace Hyperfiction.Json

/-- A number of a JSON text. -/
inductive Number where
  /-- Written without fraction and exponent, and within 64 bits. -/
  | int (n : Int)
  | float (x : Float)
deriving Inhabited

/-- The structure of a JSON text. -/
inductive Document where
  | null
  | bool (b : Bool)
  /-- A number; `none` if it is too large. -/
  | number (n : Option Number)
  /-- A string; `none` if its surrogate escapes do not pair up. -/
  | string (s : Option String)
  | array (items : List Document)
  /-- The fields as they are written, repeated keys included. -/
  | object (fields : List (Option String × Document))
deriving Inhabited

/-- How many containers may be open at once in a part of a text that is read. -/
def maxDepth : Nat := 127

namespace Document

mutual

/-- How many containers are open at once at the deepest place. -/
def depth : Document → Nat
  | .array ds => itemsDepth ds + 1
  | .object fs => fieldsDepth fs + 1
  | _ => 0

/-- The greatest depth of an item. -/
def itemsDepth : List Document → Nat
  | [] => 0
  | d :: ds => max (depth d) (itemsDepth ds)

/-- The greatest depth of a field. -/
def fieldsDepth : List (Option String × Document) → Nat
  | [] => 0
  | (_, d) :: fs => max (depth d) (fieldsDepth fs)

end

mutual

/-- The value a document stands for, if all its numbers and strings have one. -/
def toValue? : Document → Option Value
  | .null => some .null
  | .bool b => some (.bool b)
  | .number n => n.map fun
    | .int n => .int n
    | .float x => .float x
  | .string s => s.map .str
  | .array ds => (toItems? ds).map .arr
  | .object fs => (toFields? [] fs).map .obj

/-- The values of the items. -/
def toItems? : List Document → Option (List Value)
  | [] => some []
  | d :: ds =>
    match toValue? d with
    | none => none
    | some v => (toItems? ds).map (v :: ·)

/-- The values of the fields, laid over those in `read`; of two fields with one
    key the later counts. -/
def toFields? (read : List (String × Value)) : List (Option String × Document) →
    Option (List (String × Value))
  | [] => some read
  | (none, _) :: _ => none
  | (some k, d) :: fs =>
    match toValue? d with
    | none => none
    | some v => toFields? (Table.insert k v read) fs

end

/-! ## Records

    A record is written as an object with its fields in any order, or as an
    array of its fields in their own order. -/

/-- The document of a field, if the field is written; written twice is an error. -/
def field? (name : String) (fs : List (Option String × Document)) : Option (Option Document) :=
  match fs.filter fun p => p.1 == some name with
  | [] => some none
  | [p] => some (some p.2)
  | _ => none

/-- The documents of a record's fields, in the order of their names; a field
    that is not written has none. Fields of other names are skipped. -/
def record? (names : List String) : Document → Option (List (Option Document))
  | .object fs =>
    if fs.all fun p => p.1.isSome then names.mapM fun name => field? name fs else none
  | .array ds =>
    if ds.length ≤ names.length then
      some (ds.map some ++ List.replicate (names.length - ds.length) none)
    else none
  | _ => none

/-- The text of a string. -/
def string? : Document → Option String
  | .string s => s
  | _ => none

/-- An integer from 0 up to and without `2^32`. -/
def word? : Document → Option UInt32
  | .number (some (.int n)) => if 0 ≤ n ∧ n < UInt32.size then some (UInt32.ofNat n.toNat) else none
  | _ => none

/-- The items of an array, each read by `read`. -/
def list? {α : Type} (read : Document → Option α) : Document → Option (List α)
  | .array ds => ds.mapM read
  | _ => none

/-- The fields of an object that may nest `limit` containers, itself included. -/
def object? (limit : Nat) (d : Document) : Option (Fields Value) :=
  match d with
  | .object fs => if d.depth ≤ limit then toFields? [] fs else none
  | _ => none

end Document

end Hyperfiction.Json
