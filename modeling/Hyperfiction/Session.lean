import Hyperfiction.Engine
import Hyperfiction.Screen

/-! # Sessions

    What a reader, a host page and a browser do with an engine, one step after the
    other.
-/

namespace Hyperfiction

/-- A step of a session. -/
inductive Step where
  | play
  | goTo (query : Query) (addToHistory : Bool)
  | follow (target : String)
  /-- Follows the link with a number, counted from zero, of the passage on screen. -/
  | click (n : Nat)
  | showPassage (query : Query)
  | checkpoint (name : String)
  | save
  | restore
  | reset
  /-- Goes back in the browser. -/
  | back
  /-- Goes forward in the browser. -/
  | forward
  /-- An entry that the browser reports. -/
  | pop (entry : Option Progress)
  /-- Writes a variable from outside. -/
  | setVariable (name : String) (value : Value)
  /-- Writes all variables from outside. -/
  | write (state : StateBag)
deriving Inhabited

/-- What comes of a step. -/
inductive StepResult where
  | done
  | failed (e : EngineError)
  | rendered (p : RenderedPassage)
  /-- There is no entry in that direction. -/
  | edge
  /-- There is no link with that number. -/
  | noLink
deriving DecidableEq, Repr, Inhabited

/-- The result of an operation. -/
def StepResult.of : Except EngineError Unit → StepResult
  | .ok _ => .done
  | .error e => .failed e

namespace Engine

variable {σ S H : Type} [Storage S] [BrowserHistory H] [Travel H]

/-- Goes to the entry that the browser went to, if it could go. -/
def travel (moved : Option (Option Progress × H)) (e : Engine σ S H Screen) :
    StepResult × Engine σ S H Screen :=
  match moved with
  | none => (.edge, e)
  | some (entry, browser) =>
    let (result, e) := { e with browser }.handlePop entry
    (.of result, e)

/-- Takes a step. -/
def step (s : Step) (e : Engine σ S H Screen) : StepResult × Engine σ S H Screen :=
  match s with
  | .play => let (result, e) := e.play; (.of result, e)
  | .goTo query addToHistory =>
    let (result, e) := e.goToPassage query addToHistory; (.of result, e)
  | .follow target => let (result, e) := e.followLink target; (.of result, e)
  | .click n =>
    match e.display.link? n with
    | none => (.noLink, e)
    | some link => let (result, e) := e.followLink link.target; (.of result, e)
  | .showPassage query =>
    match e.showPassage query with
    | (.ok p, e) => (.rendered p, e)
    | (.error err, e) => (.failed err, e)
  | .checkpoint name => (.done, e.checkpoint name)
  | .save => let (result, e) := e.save; (.of result, e)
  | .restore => let (result, e) := e.restore; (.of result, e)
  | .reset => let (result, e) := e.reset; (.of result, e)
  | .back => e.travel (Travel.back? e.browser)
  | .forward => e.travel (Travel.forward? e.browser)
  | .pop entry => let (result, e) := e.handlePop entry; (.of result, e)
  | .setVariable name value => (.done, { e with state := Table.insert name value e.state })
  | .write state => (.done, { e with state })

/-- The engine after steps in order. -/
def run (steps : List Step) (e : Engine σ S H Screen) : Engine σ S H Screen :=
  steps.foldl (fun e s => (e.step s).2) e

end Engine

end Hyperfiction
