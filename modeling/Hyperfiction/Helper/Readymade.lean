import Hyperfiction.Helper

/-! # Ready-made helpers

    Helpers that a host can register under a name of its choice without writing
    one: constants, access to one variable, and helpers that always fail.
-/

namespace Hyperfiction.Helper

variable {σ : Type}

/-- The first argument of a call, or `null`. -/
def firstArg (args : List Value) : Value :=
  args.headD .null

/-- Always the same value. -/
def constant (v : Value) : Helper σ := fun _ _ => return v

/-- The list of its arguments. -/
def arguments : Helper σ := fun _ args => return .arr args

/-- The value of a variable, or `null`. -/
def getVariable (key : String) : Helper σ := fun _ _ => do
  return (Table.get? key (← get).state).getD .null

/-- Gives a variable the value of the first argument. -/
def setVariable (key : String) : Helper σ := fun _ args => do
  modify fun w => { w with state := Table.insert key (firstArg args) w.state }
  return .null

/-- Takes a variable away and returns the value it had. -/
def removeVariable (key : String) : Helper σ := fun _ _ => do
  let w ← get
  set { w with state := Table.erase key w.state }
  return (Table.get? key w.state).getD .null

/-- Appends the first argument to the array that a variable holds, and returns
    the array's new length. -/
def pushVariable (key : String) : Helper σ := fun _ args => do
  let w ← get
  match (Table.get? key w.state).getD (.arr []) with
  | .arr items =>
    let items := items ++ [firstArg args]
    set { w with state := Table.insert key (.arr items) w.state }
    return .int items.length
  | _ => throw (.invalidArgument (key ++ " is not an array"))

/-- The name of the passage, the name of the story and the length of the history. -/
def sceneFacts : Helper σ := fun scene _ =>
  return .arr [.str scene.passage.name, .str scene.story.name, .int scene.history.length]

/-- Fails with a text. -/
def failure (v : Value) : Helper σ := fun _ _ => throw (.failed v.display)

/-- Fails because of the number of its arguments. -/
def arityFailure (v : Value) : Helper σ := fun _ args => throw (.arity v.display args.length)

/-- Fails because of its arguments. -/
def argumentFailure (v : Value) : Helper σ := fun _ _ => throw (.invalidArgument v.display)

/-- The ready-made helper of a kind. -/
def ofKind (kind key : String) (v : Value) : Helper σ :=
  match kind with
  | "const" => constant v
  | "args" => arguments
  | "get" => getVariable key
  | "set" => setVariable key
  | "remove" => removeVariable key
  | "push" => pushVariable key
  | "info" => sceneFacts
  | "fail" => failure v
  | "arity" => arityFailure v
  | _ => argumentFailure v

end Hyperfiction.Helper
