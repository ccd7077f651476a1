import Hyperfiction.Script.Fault
import Hyperfiction.Script.Run

/-! # Environments

    What a running script has at hand: its variables, the latest first, and the
    cells of those variables that closures share with the code around them. This
    module holds the steps a run is made of: reading and writing variables,
    opening and closing scopes, stopping, and calling helpers.
-/

namespace Hyperfiction.Script

/-- What a variable holds: a datum of its own, or a cell that it shares. -/
inductive Content where
  | own (d : Datum)
  | shared (cell : Nat)
deriving Inhabited

/-- A variable. -/
structure Variable where
  name : String
  constant : Bool := false
  content : Content
deriving Inhabited

/-- A datum that several variables share. -/
structure Cell where
  value : Datum
  constant : Bool
deriving Inhabited

/-- The variables in reach, the latest first, and all cells. -/
structure Environment where
  bindings : List Variable
  cells : List Cell := []
deriving Inhabited

/-- Why the statements of a script are left before their end. -/
inductive Halt where
  | fault (f : Fault)
  | broken (d : Datum)
  | continued
  | returned (d : Datum)
  | exited (d : Datum)
deriving Inhabited

/-- A part of a run. -/
abbrev Exec (α : Type) := ExceptT Halt (StateT Environment Run) α

/-- The name under which a method finds its receiver. -/
def receiverName : String := "this"

namespace Exec

variable {α : Type}

/-- Stops with a fault. -/
def fault (f : Fault) : Exec α :=
  throw (.fault f)

/-- Stops because a value is not what it has to be. -/
def failed (detail : String) : Exec α :=
  fault (.failed detail)

/-- A value, or a fault. -/
def lift : Except Fault α → Exec α
  | .ok a => pure a
  | .error f => fault f

/-! ## Variables -/

/-- The latest variable of a name. -/
def lookup (name : String) : Exec Variable := do
  match (← get).bindings.find? fun v => v.name == name with
  | some v => return v
  | none => failed ("Variable not found: " ++ name)

/-- The datum a variable holds. -/
def read (v : Variable) : Exec Datum := do
  match v.content with
  | .own d => return d
  | .shared cell => return ((← get).cells.getD cell default).value

/-- Whether a variable may not be assigned to. -/
def isConstant (v : Variable) : Exec Bool := do
  match v.content with
  | .own _ => return v.constant
  | .shared cell => return ((← get).cells.getD cell default).constant

/-- Changes the latest variable of a name. -/
def changeFirst (name : String) (f : Variable → Variable) : List Variable → List Variable
  | [] => []
  | v :: vs => if v.name = name then f v :: vs else v :: changeFirst name f vs

/-- Puts a datum into the latest variable of a name. -/
def write (name : String) (d : Datum) : Exec Unit := do
  match (← lookup name).content with
  | .own _ =>
    modify fun e =>
      { e with bindings := changeFirst name (fun v => { v with content := .own d }) e.bindings }
  | .shared cell =>
    modify fun e => { e with cells := e.cells.modify cell fun c => { c with value := d } }

/-- Makes a new variable. -/
def define (name : String) (constant : Bool) (d : Datum) : Exec Unit :=
  modify fun e => { e with bindings := { name, constant, content := .own d } :: e.bindings }

/-- The cell of a variable; one that holds a datum of its own gets a cell. -/
def share (name : String) : Exec (String × Nat) := do
  let v ← lookup name
  match v.content with
  | .shared cell => return (name, cell)
  | .own d =>
    let e ← get
    let cell := e.cells.length
    set
      { bindings := changeFirst name (fun v => { v with content := .shared cell }) e.bindings
        cells := e.cells ++ [{ value := d, constant := v.constant }] : Environment }
    return (name, cell)

/-! ## Scopes -/

/-- Runs a part whose variables are gone after it, however it ends. -/
def within (x : Exec α) : Exec α :=
  ExceptT.mk fun before => do
    let (r, after) ← x.run before
    let extra := after.bindings.length - before.bindings.length
    return (r, { after with bindings := after.bindings.drop extra })

/-- Runs a part that sees only the given variables, however it ends. -/
def withOnly (bindings : List Variable) (x : Exec α) : Exec α :=
  ExceptT.mk fun before => do
    let (r, after) ← x.run { before with bindings }
    return (r, { after with bindings := before.bindings })

/-- Ends at a `return` with its value. -/
def body (x : Exec Datum) : Exec Datum :=
  tryCatch x fun
    | .returned d => return d
    | h => throw h

/-- Ends at a `return` or an exit with its value. -/
def whole (x : Exec Datum) : Exec Datum :=
  tryCatch x fun
    | .returned d | .exited d => return d
    | h => throw h

/-- One round of a loop: its value if the loop is left. -/
def round (x : Exec Datum) : Exec (Option Datum) :=
  tryCatch (do let _ ← x; return none) fun
    | .broken d => return some d
    | .continued => return none
    | h => throw h

/-! ## Helpers -/

/-- Calls a helper. -/
def callHelper (name : String) (args : List Datum) : Exec Datum := do
  match Datum.toItems? args with
  | .error typeName => fault (.thrown (.str ("unsupported value of type " ++ typeName)))
  | .ok values =>
    match ← ((Run.call name values : Run (Except String Value)) : StateT Environment Run _) with
    | .ok v => return Datum.ofValue v
    | .error message => fault (.thrown (.str message))

end Exec

end Hyperfiction.Script
