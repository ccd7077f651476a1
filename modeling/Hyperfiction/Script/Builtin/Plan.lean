import Hyperfiction.Script.Environment

/-! # Plans of built-in functions

    Some built-in functions are given a function and call it: on the items of an
    array, to compare two of them. A built-in function does not know what such a
    call does. It asks for one and goes on with what that comes to; `Plan` is the
    tree of what it does whatever its calls come to. The functions that ask for
    nothing are the leaves.
-/

namespace Hyperfiction.Script

/-- What a call comes to: its value, and what has become of the first argument
    or the receiver if the call can change that. -/
structure Outcome where
  value : Datum
  changed : Option Datum := none

/-- A way to call a function: on a receiver or on none, with some arguments. -/
structure Way where
  receiver : Option Datum := none
  args : List Datum

/-- What a built-in function does. -/
inductive Plan where
  | done (o : Outcome)
  | stop (h : Halt)
  /-- Calls a function in the first of some ways that it can be called in. -/
  | call (f : Datum) (ways : List Way) (resume : Outcome → Plan)
  /-- Calls a function, whose failure is no more than the lack of an answer. -/
  | attempt (f : Datum) (args : List Datum) (resume : Option Datum → Plan)

namespace Plan

/-- A value without any change. -/
def value (d : Datum) : Plan :=
  .done { value := d }

/-- A change of the first argument that has no value of its own. -/
def change (d : Datum) : Plan :=
  .done { value := .unit, changed := some d }

/-- Stops because a value is not what it has to be. -/
def failed (detail : String) : Plan :=
  .stop (.fault (.failed detail))

/-- A value, or a fault. -/
def lift : Except Fault Datum → Plan
  | .ok d => value d
  | .error f => .stop (.fault f)

/-! ## Walking over items -/

/-- Whether a value is the truth. -/
def isTrue : Datum → Bool
  | .bool b => b
  | _ => false

/-- How a function is called on one item of a collection after the other. -/
structure Visit (ι : Type) where
  /-- The ways to call it, given the value of the call before, and the place of the item. -/
  ways : Datum → Nat → ι → List Way
  /-- The item once the receiver of its call has become some datum. -/
  put : ι → Datum → ι
  /-- Which value ends the walk. -/
  enough : Datum → Bool := fun _ => false

/-- An item after its call, whether the call had it as receiver, and its value. -/
structure Visited (ι : Type) where
  item : ι
  received : Bool
  value : Datum

/-- Calls `f` on items from a place on. What is `seen` before them is in reverse, `last` is the
    value of the call before; `resume` gets the items seen, and those that the walk leaves out. -/
def visit {ι : Type} (v : Visit ι) (f : Datum) (resume : List (Visited ι) → List ι → Plan)
    (last : Datum) (seen : List (Visited ι)) : (at_ : Nat) → List ι → Plan
  | _, [] => resume seen.reverse []
  | at_, x :: rest =>
    .call f (v.ways last at_ x) fun o =>
      let x : Visited ι :=
        { item := (o.changed.map (v.put x)).getD x, received := o.changed.isSome, value := o.value }
      if v.enough o.value then resume (x :: seen).reverse rest
      else visit v f resume o.value (x :: seen) (at_ + 1) rest

namespace Visit

/-- The ways to call a function on an item at a place, after some other arguments: as a method
    of the item, with the item as an argument, or with its place too. -/
def itemWays (before : List Datum) (at_ : Nat) (d : Datum) : List Way :=
  [{ receiver := some d, args := before }, { args := before ++ [d] },
    { args := before ++ [d, .int at_] }]

/-- The items of an array, until a value is enough. -/
def items (enough : Datum → Bool := fun _ => false) : Visit Datum where
  ways := fun _ at_ d => itemWays [] at_ d
  put := fun _ d => d
  enough

/-- The items of an array, each with the value of the call before. -/
def folded (place : Nat → Nat) : Visit Datum where
  ways := fun last at_ d => itemWays [last] (place at_) d
  put := fun _ d => d

/-- The items of an array, each only as a receiver. -/
def methods : Visit Datum where
  ways := fun _ at_ d =>
    [{ receiver := some d, args := [] }, { receiver := some d, args := [.int at_] }]
  put := fun _ d => d

/-- Pairs of items. -/
def pairs : Visit (Datum × Datum) where
  ways := fun _ at_ p => [{ args := [p.1, p.2] }, { args := [p.1, p.2, .int at_] }]
  put := fun p _ => p

/-- The keys and values of a map. -/
def fields : Visit (String × Datum) where
  ways := fun _ _ p => [{ receiver := some p.2, args := [.str p.1] }, { args := [.str p.1, p.2] }]
  put := fun p d => (p.1, d)

end Visit

/-- What has become of a collection, if its items were receivers. -/
def after {ι : Type} (seen : List (Visited ι)) (left : List ι) : Option (List ι) :=
  if seen.any Visited.received then some (seen.map Visited.item ++ left) else none

/-- The items whose calls came out true, or the others. -/
def chosen {ι : Type} (wanted : Bool) (seen : List (Visited ι)) : List ι :=
  (seen.filter fun x => isTrue x.value == wanted).map Visited.item

/-- The item whose call ended a walk by its truth, and its place. -/
def found? {ι : Type} (seen : List (Visited ι)) : Option (Nat × ι) :=
  match seen.getLast? with
  | some x => if isTrue x.value then some (seen.length - 1, x.item) else none
  | none => none

/-! ## Comparing items -/

/-- Whether the answer of a comparing function puts its first argument before the
    second: it is less than zero, or true. -/
def putsBefore : Option Datum → Bool
  | some (.int n) => n < 0
  | some d => isTrue d
  | none => false

/-- Puts an item among sorted ones, the last of which come first: it passes those that
    `f` puts it before. -/
def insertBy (f d : Datum) (resume : List Datum → Plan) (passed : List Datum) :
    (sorted : List Datum) → Plan
  | [] => resume (passed.reverse ++ [d])
  | e :: sorted =>
    .attempt f [d, e] fun answer =>
      if putsBefore answer then insertBy f d resume (e :: passed) sorted
      else resume (passed.reverse ++ d :: e :: sorted)

/-- Sorts items by a comparing function, one after the other among those before it, which
    stand in reverse. Items that it does not tell apart keep their order. The calls are
    those of an insertion, as for arrays of up to twenty items; for longer ones there may be
    fewer calls, which come to the same order if there is one. -/
def sortBy (f : Datum) (resume : List Datum → Plan) (sorted : List Datum) : List Datum → Plan
  | [] => resume sorted.reverse
  | d :: ds => insertBy f d (fun sorted => sortBy f resume sorted ds) [] sorted

/-- Leaves out every item that `f` finds equal to the one kept before it; those kept are
    in reverse. -/
def dedupBy (f : Datum) (resume : List Datum → Plan) (kept : List Datum) : List Datum → Plan
  | [] => resume kept.reverse
  | d :: ds =>
    match kept with
    | [] => dedupBy f resume [d] ds
    | e :: _ =>
      .attempt f [e, d] fun answer =>
        dedupBy f resume (if (answer.map isTrue).getD false then kept else d :: kept) ds

end Plan

end Hyperfiction.Script
