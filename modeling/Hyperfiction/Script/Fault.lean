import Hyperfiction.Script.Datum

/-! # Faults of scripts

    Why a script that could be read stops before its end.
-/

namespace Hyperfiction.Script

/-- Why a script stops. -/
inductive Fault where
  /-- No function of this name takes what it was called with; operators count
      as functions named by their symbols. -/
  | unknownFunction (name : String)
  | constantAssigned (name : String)
  /-- The script threw a datum, or a helper that it called failed. -/
  | thrown (d : Datum)
  /-- A value of the wrong type or size stood in an operation. -/
  | failed (detail : String)
  /-- The script took too many steps or called too deep. -/
  | exhausted
deriving Inhabited

namespace Fault

/-- The text of a fault. -/
def message : Fault → String
  | .unknownFunction name => "Function not found: " ++ name
  | .constantAssigned name => "Cannot modify constant: " ++ name
  | .thrown d => "Runtime error: " ++ String.ofList d.chars
  | .failed detail => detail
  | .exhausted => "The script runs too long or calls too deep"

/-- Whether a script can catch the fault. -/
def isCatchable : Fault → Bool
  | .exhausted => false
  | _ => true

/-- The datum that stands for the fault where it is caught. -/
def datum : Fault → Datum
  | .thrown d => d
  | f => .map [("message", .str f.message)]

end Fault

end Hyperfiction.Script
