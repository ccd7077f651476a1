import Hyperfiction.Display
import Hyperfiction.Event
import Hyperfiction.History
import Hyperfiction.Storage.Slot

/-! # The engine

    The engine knows where the reader is and how they got there, and carries that
    through saved games and the browser history. A navigation renders everything it
    is about to show before it changes anything: first the passage, then the header
    and the footer; then the history takes the entry; and only then do the reader's
    place, the variables and the display change.

    An entry of the history, and a saved game, hold the variables as they were
    before the passage was rendered, so that showing it again comes to the same.
-/

namespace Hyperfiction

/-! ## Errors -/

/-- Why an operation of the engine fails. -/
inductive EngineError where
  | passageNotFound (query : Query)
  | template (e : TemplateError)
  /-- A saved game could not be restored, for the reason given. -/
  | restoreFailed (reason : String)
  | persistence (e : SlotError)
  | history (e : HistoryError)
  /-- An entry of the history has no passages. -/
  | emptyHistory
deriving DecidableEq, Repr, Inhabited

/-- The text of an error. -/
def EngineError.message : EngineError → String
  | .passageNotFound query => "no passage found with ID or name \"" ++ query.text ++ "\""
  | .template e => "template error: " ++ e.message
  | .restoreFailed reason => "restore failed: " ++ reason
  | .persistence e => "persistence error: " ++ e.message
  | .history e => "browser history error: " ++ e.message
  | .emptyHistory => "history entry carries an empty passage history"

/-! ## State -/

/-- Where the reader is and how they got there. -/
structure Place where
  /-- The ids of the passages visited; the last one is on screen. -/
  history : List PassageId := []
  /-- The name of the last checkpoint; empty if there was none. -/
  checkpoint : String := ""
  /-- Whether a checkpoint was reached and not left yet; a new session counts as one. -/
  atCheckpoint : Bool := true
  /-- The variables as they were before the passage on screen was rendered. -/
  entryState : StateBag := []
deriving Inhabited

/-- The passage on screen. -/
def Place.current? (p : Place) : Option PassageId :=
  p.history.getLast?

/-- Whether an engine has shown anything yet. -/
inductive Phase where
  | idle
  /-- The passage with this id is on screen. -/
  | displaying (passage : PassageId)
deriving DecidableEq, Repr, Inhabited

/-- An engine: a story being read, over a store, a browser history and a display. -/
structure Engine (σ S H D : Type) where
  story : Story
  renderer : Renderer σ
  place : Place := {}
  /-- The story's variables. -/
  state : StateBag := []
  /-- What the evaluator remembers. -/
  memory : σ
  store : S
  browser : H
  display : D
  /-- The events told so far, in order. -/
  trace : List Event := []

/-- What a navigation shows. -/
structure Frame where
  passage : RenderedPassage
  header : Option RenderedPassage
  footer : Option RenderedPassage
deriving DecidableEq, Repr, Inhabited

/-- Shows a frame: the passage, then the header, then the footer. -/
def Frame.showOn {D : Type} [Display D] (frame : Frame) (display : D) : D :=
  let display := Display.showPassage frame.passage display
  let display := match frame.header with
    | some header => Display.showHeader header display
    | none => display
  match frame.footer with
  | some footer => Display.showFooter footer display
  | none => display

/-- Whether a navigation decides how it is recorded, or shows an entry again, which
    never makes a new one. -/
inductive Recording where
  | decide
  | replaceOnly
deriving DecidableEq, Repr, Inhabited

namespace Engine

variable {σ S H D : Type}

/-- The key of the story's saved game. -/
def saveKey (e : Engine σ S H D) : String :=
  SaveKey.ofName e.story.name

/-- Whether anything has been shown yet, and what is on screen. -/
def phase (e : Engine σ S H D) : Phase :=
  match e.place.current? with
  | some id => .displaying id
  | none => .idle

/-- The passage on screen. -/
def currentPassage? (e : Engine σ S H D) : Option Passage :=
  e.place.current?.bind e.story.passage?

/-- The passage visited before the one on screen. -/
def previousPassage? (e : Engine σ S H D) : Option PassageId :=
  e.place.history.dropLast.getLast?

/-- Tells an event. -/
def notify (event : Event) (e : Engine σ S H D) : Engine σ S H D :=
  { e with trace := e.trace ++ [event] }

/-! ## Observers -/

section

variable {O : Type} (hear : Event → O → O)

/-- Observers are told an event, one after the other; `hear` is what they make of it. They
    cannot touch the engine. -/
def tellAll (observers : List O) (event : Event) : List O :=
  observers.map (hear event)

/-- What has become of observers that came when `joined` events had been told. -/
def observersAfter (observers : List O) (joined : Nat) (e : Engine σ S H D) : List O :=
  (e.trace.drop joined).foldl (tellAll hear) observers

/-- An event is told to all observers that are there. -/
theorem observersAfter_notify {joined : Nat} {e : Engine σ S H D} (h : joined ≤ e.trace.length)
    (observers : List O) (event : Event) :
    (e.notify event).observersAfter hear observers joined
      = tellAll hear (e.observersAfter hear observers joined) event := by
  unfold observersAfter notify
  rw [List.drop_append_of_le_length h, List.foldl_append]
  rfl

end

/-! ## Rendering -/

/-- Renders a passage that may be missing from the story. -/
def renderOptional (r : Renderer σ) (story : Story) (history : List PassageId)
    (checkpoint : String) : Option Passage → Action σ (Option RenderedPassage)
  | none => pure none
  | some passage => do
    let rendered ← r.render { passage, story, history, checkpoint }
    return some rendered

/-- Renders a passage and the story's header and footer, in this order. -/
def renderFrame (r : Renderer σ) (story : Story) (passage : Passage) (history : List PassageId)
    (checkpoint : String) : Action σ Frame := do
  let main ← r.render { passage, story, history, checkpoint }
  let header ← renderOptional r story history checkpoint story.header?
  let footer ← renderOptional r story history checkpoint story.footer?
  return { passage := main, header, footer }

/-! ## Navigation -/

/-- Marks the reader's place as a checkpoint. -/
def checkpoint [Display D] (name : String) (e : Engine σ S H D) : Engine σ S H D :=
  let e := e.notify (.reachingCheckpoint name)
  let e :=
    { e with
      display := Display.setTitle (e.story.name ++ ": " ++ name) e.display
      place := { e.place with checkpoint := name, atCheckpoint := true } }
  e.notify (.reachedCheckpoint name)

/-- The progress that going to a passage records. -/
def progressTo (passage : Passage) (addToHistory : Bool) (e : Engine σ S H D) : Progress :=
  { state := e.state
    history := if addToHistory then e.place.history ++ [passage.id] else e.place.history
    checkpoint := if passage.isCheckpoint then passage.name else e.place.checkpoint }

/-- How going to a passage is recorded. -/
def actionTo (passage : Passage) (recording : Recording) (e : Engine σ S H D) : HistoryAction :=
  match recording with
  | .decide => .entering passage.tags e.place.atCheckpoint
  | .replaceOnly => .replace

/-- Takes the reader to a passage that has been rendered and recorded. -/
def arrive [Display D] (passage : Passage) (progress : Progress) (frame : Frame) (after : StateBag)
    (e : Engine σ S H D) : Engine σ S H D :=
  let e := { e with place := { e.place with history := progress.history } }
  let e := if passage.isCheckpoint then e.checkpoint passage.name else e
  let e :=
    { e with
      place := { e.place with atCheckpoint := false, entryState := e.state }
      state := after
      display := frame.showOn e.display }
  e.notify (.wentTo passage.id)

/-- Goes to the passage that a query asks for. -/
def goTo [BrowserHistory H] [Display D] (query : Query) (addToHistory : Bool)
    (recording : Recording) (e : Engine σ S H D) : Except EngineError Unit × Engine σ S H D :=
  let e := e.notify (.goingTo query)
  match e.story.resolve query with
  | none => (.error (.passageNotFound query), e)
  | some passage =>
    let progress := e.progressTo passage addToHistory
    match (renderFrame e.renderer e.story passage progress.history progress.checkpoint).outcome
        ⟨e.state, e.memory⟩ with
    | (.error err, w) => (.error (.template err), { e with memory := w.memory })
    | (.ok frame, w) =>
      match BrowserHistory.record e.browser (e.actionTo passage recording) progress with
      | (.error err, browser) => (.error (.history err), { e with memory := w.memory, browser })
      | (.ok _, browser) =>
        (.ok (), { e with memory := w.memory, browser }.arrive passage progress frame w.state)

/-- Goes to a passage. -/
def goToPassage [BrowserHistory H] [Display D] (query : Query) (addToHistory : Bool)
    (e : Engine σ S H D) : Except EngineError Unit × Engine σ S H D :=
  e.goTo query addToHistory .decide

/-- Follows a link to a passage. -/
def followLink [BrowserHistory H] [Display D] (target : String) (e : Engine σ S H D) :
    Except EngineError Unit × Engine σ S H D :=
  e.goToPassage (.name target) true

/-- Renders a passage without going to it. What its template does to the variables
    stays done. -/
def showPassage (query : Query) (e : Engine σ S H D) :
    Except EngineError RenderedPassage × Engine σ S H D :=
  let e := e.notify (.showing query)
  match e.story.resolve query with
  | none => (.error (.passageNotFound query), e)
  | some passage =>
    match (e.renderer.render
        { passage, story := e.story, history := e.place.history
          checkpoint := e.place.checkpoint }).outcome ⟨e.state, e.memory⟩ with
    | (.error err, w) => (.error (.template err), { e with memory := w.memory })
    | (.ok rendered, w) =>
      (.ok rendered,
        { e with memory := w.memory, state := w.state }.notify (.shown rendered.passage))

/-! ## Saved games -/

/-- The progress of the reader. -/
def progress (e : Engine σ S H D) : Progress :=
  { state := e.place.entryState, history := e.place.history, checkpoint := e.place.checkpoint }

/-- Saves the reader's progress. -/
def save [Storage S] (e : Engine σ S H D) : Except EngineError Unit × Engine σ S H D :=
  let e := e.notify .saving
  match Storage.save e.store e.saveKey e.progress with
  | (.error err, store) => (.error (.persistence err), { e with store })
  | (.ok _, store) => (.ok (), { e with store }.notify .saved)

/-- Takes the saved game away. -/
def reset [Storage S] (e : Engine σ S H D) : Except EngineError Unit × Engine σ S H D :=
  let e := e.notify .resetting
  match Storage.clear e.store e.saveKey with
  | (.error err, store) => (.error (.persistence err), { e with store })
  | (.ok _, store) => (.ok (), { e with store }.notify .wasReset)

/-- Takes over a progress; what is on screen stays. -/
def adopt (p : Progress) (e : Engine σ S H D) : Engine σ S H D :=
  { e with
    state := p.state
    place := { e.place with history := p.history, checkpoint := p.checkpoint } }

/-- Puts the reader's place and the variables back as they were in `before`. -/
def rollBack (before e : Engine σ S H D) : Engine σ S H D :=
  { e with place := before.place, state := before.state }

/-- Restores the saved game; the reason if that fails. -/
def tryRestore [Storage S] [BrowserHistory H] [Display D] (e : Engine σ S H D) :
    Except String Unit × Engine σ S H D :=
  match Storage.load e.store e.saveKey with
  | .error err => (.error err.message, e)
  | .ok p =>
    match p.last? with
    | none => (.error "save record has an empty history", e)
    | some last =>
      match (e.adopt p).goToPassage (.id last) false with
      | (.ok _, after) => (.ok (), after)
      | (.error err, after) => (.error err.message, e.rollBack after)

/-- Restores the saved game and shows its last passage. -/
def restore [Storage S] [BrowserHistory H] [Display D] (e : Engine σ S H D) :
    Except EngineError Unit × Engine σ S H D :=
  match (e.notify .restoring).tryRestore with
  | (.ok _, e) => (.ok (), e.notify .restored)
  | (.error reason, e) => (.error (.restoreFailed reason), e.notify (.restoreFailed reason))

/-! ## Sessions -/

/-- Goes to the start passage. -/
def goToStart [BrowserHistory H] [Display D] (e : Engine σ S H D) :
    Except EngineError Unit × Engine σ S H D :=
  e.goToPassage (.id e.story.start) true

/-- Starts the session at the beginning. The start counts as a checkpoint. -/
def begin [BrowserHistory H] [Display D] (e : Engine σ S H D) :
    Except EngineError Unit × Engine σ S H D :=
  match e.goToStart with
  | (.error err, e) => (.error err, e)
  | (.ok _, e) => (.ok (), { e with place := { e.place with atCheckpoint := true } })

/-- Starts the session: with the saved game, if there is one that can be restored,
    else at the beginning. -/
def play [Storage S] [BrowserHistory H] [Display D] (e : Engine σ S H D) :
    Except EngineError Unit × Engine σ S H D :=
  let e := { e with display := Display.applyConfig e.story.config e.display }
  match Storage.hasSave e.store e.saveKey with
  | .ok true =>
    match e.restore with
    | (.ok _, e) => (.ok (), e)
    | (.error _, e) => e.begin
  | _ => e.begin

/-- Follows the reader who went back or forward in the browser to an entry. A blank
    entry starts the story over if nothing has been visited, and does nothing else. -/
def handlePop [BrowserHistory H] [Display D] (entry : Option Progress) (e : Engine σ S H D) :
    Except EngineError Unit × Engine σ S H D :=
  match entry with
  | some p =>
    match p.last? with
    | none => (.error .emptyHistory, e)
    | some last =>
      match (e.adopt p).goTo (.id last) false .replaceOnly with
      | (.ok _, after) => (.ok (), after)
      | (.error err, after) => (.error err, e.rollBack after)
  | none =>
    if e.place.history.isEmpty then
      { e with
        state := []
        place := { e.place with history := [], checkpoint := "" } }.goToStart
    else (.ok (), e)

end Engine

end Hyperfiction
