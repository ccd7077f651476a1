import Hyperfiction.Story
import Hyperfiction.Template.Segment
import Hyperfiction.Value.Display

/-! # Evaluators

    A template leaves its code to an evaluator, which may read and change the
    story's variables and may remember things of its own between two calls,
    such as how far a random sequence has been used up. An evaluator is a value
    here, so that everything above it can be said for all evaluators.
-/

namespace Hyperfiction

/-! ## Errors -/

/-- Why a helper fails. -/
inductive HelperError where
  /-- Called with too few or too many arguments. -/
  | arity (expected : String) (got : Nat)
  | invalidArgument (detail : String)
  | failed (detail : String)
deriving DecidableEq, Repr, Inhabited

/-- The text of an error. -/
def HelperError.message : HelperError → String
  | .arity expected got => "expected " ++ expected ++ " argument(s), got " ++ toString got
  | .invalidArgument detail => "invalid argument: " ++ detail
  | .failed detail => detail

/-- Why a template cannot be expanded. -/
inductive TemplateError where
  /-- Its text is not a template. -/
  | parse (e : Template.ParseError)
  /-- Its code does not parse or does not run. -/
  | expression (code detail : String)
  | unknownIdentifier (name : String)
  | unknownHelper (name : String)
  /-- A helper that the code called failed. -/
  | helper (name : String) (e : HelperError)
  /-- Something was assigned to that takes no assignment. -/
  | invalidAssignment (name : String)
deriving DecidableEq, Repr, Inhabited

/-- The text of an error. -/
def TemplateError.message : TemplateError → String
  | .parse e => "template parse error: " ++ e.message
  | .expression code detail => "error in `" ++ code ++ "`: " ++ detail
  | .unknownIdentifier name => "unknown identifier: " ++ name
  | .unknownHelper name => "unknown helper: " ++ name
  | .helper name e => "helper `" ++ name ++ "` failed: " ++ e.message
  | .invalidAssignment name => "invalid assignment: " ++ name

/-! ## Scenes and worlds -/

/-- What a template is expanded in, apart from the variables. -/
structure Scene where
  /-- The passage whose template it is. -/
  passage : Passage
  story : Story
  /-- The ids of the passages visited, in order. -/
  history : List PassageId
  /-- The name of the last checkpoint; empty if there was none. -/
  checkpoint : String

/-- What an expansion may change. -/
structure World (σ : Type) where
  /-- The story's variables. -/
  state : StateBag
  /-- What the evaluator remembers between calls. -/
  memory : σ

/-- A computation that may change the world and may fail; what it changed
    before it failed stays changed. -/
abbrev Action (σ α : Type) := ExceptT TemplateError (StateM (World σ)) α

/-- Runs the code of templates. -/
structure Evaluator (σ : Type) where
  /-- The value of an expression. -/
  evaluate : Scene → String → Action σ Value
  /-- Runs a statement for what it does. -/
  execute : Scene → String → Action σ Unit

/-- What a computation comes to in a world, and the world after it. -/
def Action.outcome {σ α : Type} (a : Action σ α) (w : World σ) : Except TemplateError α × World σ :=
  a.run w

/-- An evaluator whose outcome depends on the code and the scene with its
    variables only, whatever it remembers. -/
def Evaluator.IsDetermined {σ : Type} (ev : Evaluator σ) : Prop :=
  ∀ scene code state m m',
    ((ev.evaluate scene code).outcome ⟨state, m⟩).1 =
      ((ev.evaluate scene code).outcome ⟨state, m'⟩).1 ∧
    ((ev.evaluate scene code).outcome ⟨state, m⟩).2.state =
      ((ev.evaluate scene code).outcome ⟨state, m'⟩).2.state ∧
    ((ev.execute scene code).outcome ⟨state, m⟩).1 =
      ((ev.execute scene code).outcome ⟨state, m'⟩).1 ∧
    ((ev.execute scene code).outcome ⟨state, m⟩).2.state =
      ((ev.execute scene code).outcome ⟨state, m'⟩).2.state

/-! ## Expansion -/

namespace Template

mutual

/-- The text of a segment. -/
def expandSegment {σ : Type} (ev : Evaluator σ) (scene : Scene) : Segment → Action σ (List Char)
  | .literal text => pure text.toList
  | .interpolation code escaped => do
    let v ← ev.evaluate scene code
    return if escaped then Entity.encode v.displayChars else v.displayChars
  | .statement code => do
    ev.execute scene code
    return []
  | .conditional branches otherwise => do
    match ← expandBranches ev scene branches with
    | some text => return text
    | none => expandSegments ev scene otherwise

/-- The text of segments in order. -/
def expandSegments {σ : Type} (ev : Evaluator σ) (scene : Scene) :
    List Segment → Action σ (List Char)
  | [] => pure []
  | s :: rest => do
    let text ← expandSegment ev scene s
    let more ← expandSegments ev scene rest
    return text ++ more

/-- The text of the first branch whose condition holds, if there is one. -/
def expandBranches {σ : Type} (ev : Evaluator σ) (scene : Scene) :
    List (String × List Segment) → Action σ (Option (List Char))
  | [] => pure none
  | (condition, body) :: rest => do
    let v ← ev.evaluate scene condition
    if v.truthy then
      let text ← expandSegments ev scene body
      return some text
    else expandBranches ev scene rest

end

/-- Expands a template to its text. -/
def expand {σ : Type} (ev : Evaluator σ) (scene : Scene) (t : Template) : Action σ String := do
  let text ← expandSegments ev scene t
  return String.ofList text

end Template

/-- Expands a template text: an error if it is not a template. -/
def Evaluator.expandText {σ : Type} (ev : Evaluator σ) (scene : Scene) (text : String) :
    Action σ String :=
  match Template.parse text with
  | .error e => throw (.parse e)
  | .ok t => t.expand ev scene

end Hyperfiction
