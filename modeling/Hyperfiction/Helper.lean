import Hyperfiction.Evaluator
import Hyperfiction.Random

/-! # Helpers

    Helpers are the named functions that template code may call. A helper sees
    the story, the passage being expanded and the visit history; it may change
    the story's variables, and it answers with a value or fails. Every story has
    three of them: `either`, `visited` and `has_visited`.
-/

namespace Hyperfiction

/-- A named function of templates. -/
abbrev Helper (σ : Type) :=
  Scene → List Value → ExceptT HelperError (StateM (World σ)) Value

/-- Helpers by name. -/
abbrev HelperSet (σ : Type) := Fields (Helper σ)

namespace Helper

variable {σ : Type}

/-- What a call comes to in a world, and the world after it. -/
def outcome (h : Helper σ) (scene : Scene) (args : List Value) (w : World σ) :
    Except HelperError Value × World σ :=
  (h scene args).run w

/-! ## Visits -/

/-- The passage that a call asks about: the one being expanded, or the one that
    the only argument names or numbers; a name that no passage has asks about none. -/
def visitTarget (scene : Scene) : List Value → Except HelperError (Option PassageId)
  | [] => .ok (some scene.passage.id)
  | [.int n] =>
    if 0 ≤ n ∧ n < UInt32.size then .ok (some (UInt32.ofNat n.toNat))
    else .error (.invalidArgument ("not a passage id: " ++ Json.text (.int n)))
  | [.float x] => .error (.invalidArgument ("not a passage id: " ++ Json.text (.float x)))
  | [.str name] => .ok ((scene.story.passageNamed? name).map (·.id))
  | [other] =>
    .error (.invalidArgument ("expected passage id or name, got " ++ Json.text other))
  | args => .error (.arity "0 or 1" args.length)

/-- How often a passage has been visited. -/
def visitCount (history : List PassageId) : Option PassageId → Nat
  | none => 0
  | some id => history.count id

/-- How often the passage asked about has been visited. -/
def visited : Helper σ := fun scene args => do
  match visitTarget scene args with
  | .error e => throw e
  | .ok target => return .int (visitCount scene.history target)

/-- Whether the passage asked about has been visited. -/
def hasVisited : Helper σ := fun scene args => do
  match visitTarget scene args with
  | .error e => throw e
  | .ok none => return .bool false
  | .ok (some id) => return .bool (scene.history.contains id)

theorem outcome_visited (scene : Scene) (args : List Value) (w : World σ) :
    visited.outcome scene args w
      = ((visitTarget scene args).map fun target => .int (visitCount scene.history target), w) := by
  unfold outcome visited
  cases visitTarget scene args <;> rfl

theorem outcome_hasVisited (scene : Scene) (args : List Value) (w : World σ) :
    hasVisited.outcome scene args w
      = ((visitTarget scene args).map fun target =>
          .bool (decide (1 ≤ visitCount scene.history target)), w) := by
  have hcontains : ∀ id, scene.history.contains id = decide (1 ≤ scene.history.count id) := by
    intro id
    rw [Bool.eq_iff_iff, List.contains_iff_mem, decide_eq_true_iff]
    exact List.count_pos_iff.symm
  unfold outcome hasVisited
  rcases visitTarget scene args with e | _ | id
  · rfl
  · rfl
  · show (Except.ok (Value.bool (scene.history.contains id)), w) = _
    rw [hcontains]
    rfl

/-! ## Choice -/

/-- What a call chooses among: the items of its only argument if that is an
    array with items, else its arguments. -/
def choices : List Value → List Value
  | [.arr (v :: vs)] => v :: vs
  | args => args

/-- One of its arguments, or of the items of its only argument. -/
def either : Helper Random.Generator := fun _ args => do
  if args.isEmpty then throw (.arity "at least 1" 0)
  else
    let options := choices args
    let w ← get
    let (i, memory) := w.memory.choose options.length
    set { w with memory }
    return options.getD i .null

end Helper

namespace HelperSet

/-- The helpers of every story. -/
def builtins : HelperSet Random.Generator :=
  Table.ofPairs [("either", Helper.either), ("visited", Helper.visited),
    ("has_visited", Helper.hasVisited)]

end HelperSet

end Hyperfiction
