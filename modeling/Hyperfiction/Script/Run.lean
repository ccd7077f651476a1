import Hyperfiction.Value

/-! # Runs

    A running script knows nothing of the helpers it calls: it asks, and goes on
    with the answer it gets. `Run` is the tree of what a script does under all
    answers, so that a statement about helpers is an induction on the tree.
-/

namespace Hyperfiction.Script

/-- A computation that asks for helper calls and goes on with their answers: a
    value, or the text of an error. -/
inductive Run (α : Type) where
  | done (a : α)
  | ask (helper : String) (args : List Value) (resume : Except String Value → Run α)

namespace Run

variable {α β : Type}

/-- Goes on with another computation. -/
def bind : Run α → (α → Run β) → Run β
  | .done a, f => f a
  | .ask helper args resume, f => .ask helper args fun answer => (resume answer).bind f

instance : Monad Run where
  pure := .done
  bind := bind

/-- Asks for one helper call. -/
def call (helper : String) (args : List Value) : Run (Except String Value) :=
  .ask helper args .done

end Run

end Hyperfiction.Script
