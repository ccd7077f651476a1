import Hyperfiction.Helper
import Hyperfiction.Script.Interpreter
import Hyperfiction.Script.Parser

/-! # The script evaluator

    Runs the code of templates as scripts. A script finds two variables: the
    constant `passage` and the map `story`, whose field `state` holds the story's
    variables. The helpers it calls work on a copy of the variables as they were
    at the start. When the script ends well, `story.state` becomes the story's
    variables, and what the helpers changed in their copy is laid over it key by
    key. When it does not, the variables stay as they were; a failure of a helper
    counts even if the script caught it.
-/

namespace Hyperfiction.Script

variable {σ : Type}

/-! ## What a script finds -/

/-- The names of the two variables, and of the field that holds the story's variables. -/
def passageName : String := "passage"
def storyName : String := "story"
def stateName : String := "state"

/-- A text, or the unit value if there is none. -/
def optionalText : Option String → Datum
  | some s => .str s
  | none => .unit

/-- A passage id as an integer. -/
def idDatum (id : PassageId) : Datum :=
  .int id.toNat

/-- What a script sees of a passage. -/
def passageDatum (p : Passage) : Datum :=
  .map (Table.ofPairs
    [("id", idDatum p.id), ("name", .str p.name), ("tags", .arr (p.tags.map .str)),
      ("source", .str p.source)])

/-- The story's variables as a map. -/
def stateDatum (state : StateBag) : Datum :=
  .map (Datum.ofFields state)

/-- What a script sees of the story. -/
def storyDatum (scene : Scene) (state : StateBag) : Datum :=
  .map (Table.ofPairs
    [("name", .str scene.story.name), ("ifid", optionalText scene.story.ifid),
      ("creator", optionalText scene.story.creator), ("start", idDatum scene.story.start),
      (stateName, stateDatum state), ("history", .arr (scene.history.map idDatum)),
      ("checkpoint", .str scene.checkpoint), ("config", Datum.ofValue scene.story.config.toValue)])

/-- The variables a script starts with. -/
def bindings (scene : Scene) (state : StateBag) : List Variable :=
  [{ name := storyName, content := .own (storyDatum scene state) },
    { name := passageName, constant := true, content := .own (passageDatum scene.passage) }]

/-! ## Helper calls -/

/-- What the helper calls of a run have come to. -/
structure Calls (σ : Type) where
  /-- The copy of the story's variables that helpers see. -/
  state : StateBag
  memory : σ
  /-- The last call that failed: its helper, and why. -/
  failure : Option (String × HelperError)

/-- Answers the calls of a run by calling helpers. -/
def Run.answer {α : Type} (helpers : HelperSet σ) (scene : Scene) : Run α → Calls σ → α × Calls σ
  | .done a, calls => (a, calls)
  | .ask name args resume, calls =>
    match Table.get? name helpers with
    | none => (resume (.error "no such helper")).answer helpers scene calls
    | some h =>
      match h.outcome scene args ⟨calls.state, calls.memory⟩ with
      | (.ok v, w) =>
        (resume (.ok v)).answer helpers scene { calls with state := w.state, memory := w.memory }
      | (.error e, w) =>
        (resume (.error e.message)).answer helpers scene
          { state := w.state, memory := w.memory, failure := some (name, e) }

/-- Whether two variables that may be absent hold the same. -/
def sameVariable : Option Value → Option Value → Bool
  | some v, some w => v.same w
  | none, none => true
  | _, _ => false

/-- Lays what helpers changed in their copy, from `before` to `after`, over the
    variables that a script leaves. -/
def layWrites (before after state : StateBag) : StateBag :=
  let written := after.foldl
    (fun s p =>
      if sameVariable (Table.get? p.1 before) (some p.2) then s else Table.insert p.1 p.2 s)
    state
  before.foldl (fun s p => if Table.contains p.1 after then s else Table.erase p.1 s) written

/-! ## Outcomes -/

/-- The error of a code that cannot be run to its end. -/
def expressionError (code detail : String) : TemplateError :=
  .expression (String.ofList (Text.trim code.toList)) detail

/-- The error of a code that is no script. -/
def syntaxError (code : String) : SyntaxError → TemplateError
  | .undefined name => .unknownIdentifier name
  | .constant name => .invalidAssignment name
  | .malformed detail => expressionError code ("Syntax error: " ++ detail)

/-- The error of a script that stops with a fault. -/
def faultError (code : String) : Fault → TemplateError
  | .unknownFunction name => .unknownHelper name
  | .constantAssigned name => .invalidAssignment name
  | f => expressionError code f.message

/-- The error of a script that is left before its end. -/
def haltError (code : String) : Halt → TemplateError
  | .fault f => faultError code f
  | _ => expressionError code "The script is left where it cannot be left"

/-- The detail of an error about a value that no story variable can hold. -/
def unsupported (typeName : String) : String :=
  "unsupported value of type " ++ typeName

/-- The datum that a variable holds at the end of a run. -/
def finalDatum? (e : Environment) (name : String) : Option Datum :=
  (e.bindings.find? fun v => v.name == name).map fun v =>
    match v.content with
    | .own d => d
    | .shared cell => (e.cells.getD cell default).value

/-- The story's variables that a script leaves. -/
def writtenState (code : String) (e : Environment) : Except TemplateError StateBag :=
  match finalDatum? e storyName with
  | some (.map fields) =>
    match Table.get? stateName fields with
    | none => .error (.invalidAssignment storyName)
    | some (.map state) =>
      match Datum.toFields? state with
      | .ok bag => .ok bag
      | .error typeName => .error (expressionError code (unsupported typeName))
    | some _ => .error (.invalidAssignment (storyName ++ "." ++ stateName))
  | _ => .error (.invalidAssignment storyName)

/-- Runs a code as the script that `source` is, and takes over what it leaves. -/
def runCode (helpers : HelperSet σ) (scene : Scene) (code source : String) : Action σ Datum := do
  match Program.parse [passageName, storyName] source with
  | .error e => throw (syntaxError code e)
  | .ok program =>
    let w ← get
    let run := program.run (Table.keys helpers) (bindings scene w.state)
    let ((result, final), calls) :=
      run.answer helpers scene { state := w.state, memory := w.memory, failure := none }
    set { w with memory := calls.memory }
    match calls.failure with
    | some (name, e) => throw (.helper name e)
    | none =>
      match result with
      | .error h => throw (haltError code h)
      | .ok d =>
        match writtenState code final with
        | .error e => throw e
        | .ok state =>
          set { memory := calls.memory, state := layWrites w.state calls.state state : World σ }
          return d

/-- The evaluator that runs code as scripts with the given helpers. An
    expression is a script between brackets. -/
def evaluator (helpers : HelperSet σ) : Evaluator σ where
  evaluate scene code := do
    let d ← runCode helpers scene code ("(" ++ code ++ ")")
    match d.toValue? with
    | .ok v => return v
    | .error typeName => throw (expressionError code (unsupported typeName))
  execute scene code := do
    let _ ← runCode helpers scene code code
    return ()

end Hyperfiction.Script
