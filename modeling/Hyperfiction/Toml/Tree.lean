import Hyperfiction.Value

/-! # TOML tables

    A TOML document defines each key once, but a table may be spelled in
    several places: by its header, by headers of its sub-tables, and by dotted
    keys. A tree remembers how each table came about, because that decides
    whether a later line may still add to it.
-/

namespace Hyperfiction.Toml

/-- How a table came about. -/
inductive Origin where
  /-- By a header of its own. -/
  | header
  /-- By a header of a table inside it. -/
  | implied
  /-- By a dotted key. -/
  | dotted
deriving DecidableEq, Repr, Inhabited

/-- A part of a document. -/
inductive Tree where
  | value (v : Value)
  | table (origin : Origin) (fields : List (String × Tree))
  /-- The tables with one doubly bracketed header, the latest first. -/
  | tables (items : List (List (String × Tree)))
deriving Inhabited

namespace Tree

mutual

/-- The value of a part. -/
def toValue : Tree → Value
  | .value v => v
  | .table _ fs => .obj (toFields fs)
  | .tables ts => .arr (toItems [] ts)

/-- The values of the fields of a table. -/
def toFields : List (String × Tree) → List (String × Value)
  | [] => []
  | (k, t) :: fs => (k, toValue t) :: toFields fs

/-- The values of the tables of an array, put before those in `later`. -/
def toItems (later : List Value) : List (List (String × Tree)) → List Value
  | [] => later
  | fs :: ts => toItems (.obj (toFields fs) :: later) ts

end

/-- Gives a key below a dotted path its value. `here` tells whether the table
    reached may be added to. -/
def setDotted (key : String) (v : Value) : (path : List String) → (here : Bool) →
    Fields Tree → Option (Fields Tree)
  | [], here, fs =>
    if here && !Table.contains key fs then some (Table.insert key (.value v) fs) else none
  | k :: path, _, fs =>
    match Table.get? k fs with
    | none => (setDotted key v path true []).map fun t => Table.insert k (.table .dotted t) fs
    | some (.table .dotted t) =>
      (setDotted key v path true t).map fun t => Table.insert k (.table .dotted t) fs
    | some (.table .implied t) =>
      (setDotted key v path false t).map fun t => Table.insert k (.table .implied t) fs
    | some (.tables (t :: ts)) =>
      (setDotted key v path false t).map fun t => Table.insert k (.tables (t :: ts)) fs
    | some _ => none

/-- Changes the table at a path of headers, making the tables on the way. -/
def descend (change : Fields Tree → Option (Fields Tree)) : (path : List String) →
    Fields Tree → Option (Fields Tree)
  | [], fs => change fs
  | k :: path, fs =>
    match Table.get? k fs with
    | none => (descend change path []).map fun t => Table.insert k (.table .implied t) fs
    | some (.table origin t) =>
      (descend change path t).map fun t => Table.insert k (.table origin t) fs
    | some (.tables (t :: ts)) =>
      (descend change path t).map fun t => Table.insert k (.tables (t :: ts)) fs
    | some _ => none

/-- Opens the table `key` by its header. -/
def openTable (key : String) (fs : Fields Tree) : Option (Fields Tree) :=
  match Table.get? key fs with
  | none => some (Table.insert key (.table .header []) fs)
  | some (.table .implied t) => some (Table.insert key (.table .header t) fs)
  | some _ => none

/-- Opens the next table of the array `key` by its header. -/
def openItem (key : String) (fs : Fields Tree) : Option (Fields Tree) :=
  match Table.get? key fs with
  | none => some (Table.insert key (.tables [[]]) fs)
  | some (.tables ts) => some (Table.insert key (.tables ([] :: ts)) fs)
  | some _ => none

end Tree

end Hyperfiction.Toml
