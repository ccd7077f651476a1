import Mathlib
import Hyperfiction.Proofs.Frame
import Hyperfiction.Screen

/-! # Navigation

    A navigation has five points of failure, and seven pieces of state change
    together when it gets past all of them. `CannotGo` lists the points of failure
    and `Commits` says what has changed after a success; `goTo` fails exactly when
    `CannotGo` holds, leaves everything but the evaluator's memory and the trace
    alone when it does, and commits otherwise.
-/

namespace Hyperfiction

variable {σ S H D : Type}

namespace Engine

/-! ## Section 1: Failure and success -/

/-- The scene in which a navigation renders the passage it goes to: the history and the
    checkpoint are already those that it will record. -/
def sceneOf (e : Engine σ S H D) (passage : Passage) (addToHistory : Bool) : Scene where
  passage := passage
  story := e.story
  history := if addToHistory then e.place.history ++ [passage.id] else e.place.history
  checkpoint := if checkpointTag ∈ passage.tags then passage.name else e.place.checkpoint

/-- The entry that a navigation records: the variables before the rendering, and the
    history and the checkpoint after it. -/
def entryOf (e : Engine σ S H D) (passage : Passage) (addToHistory : Bool) : Progress where
  state := e.state
  history := (e.sceneOf passage addToHistory).history
  checkpoint := (e.sceneOf passage addToHistory).checkpoint

/-- The points at which a navigation fails. -/
inductive CannotGo [BrowserHistory H] (e : Engine σ S H D) (query : Query) (addToHistory : Bool)
    (recording : Recording) : EngineError → Prop where
  /-- The story has no such passage. -/
  | unresolved : e.story.resolve query = none →
      CannotGo e query addToHistory recording (.passageNotFound query)
  /-- The passage, the header or the footer fails. -/
  | unrendered {passage : Passage} {err : TemplateError} :
      e.story.resolve query = some passage →
      FrameFails e.renderer (e.sceneOf passage addToHistory) ⟨e.state, e.memory⟩ err →
      CannotGo e query addToHistory recording (.template err)
  /-- All three are rendered, and the history refuses the entry. -/
  | refused {passage : Passage} {frame : Frame} {w : World σ} {err : HistoryError} :
      e.story.resolve query = some passage →
      RendersFrame e.renderer (e.sceneOf passage addToHistory) ⟨e.state, e.memory⟩ frame w →
      (BrowserHistory.record e.browser (e.actionTo passage recording)
        (e.entryOf passage addToHistory)).1 = .error err →
      CannotGo e query addToHistory recording (.history err)

/-- The display with the title of a checkpoint, if the passage is one. -/
def titled [Display D] (e : Engine σ S H D) (passage : Passage) : D :=
  if checkpointTag ∈ passage.tags then
    Display.setTitle (e.story.name ++ ": " ++ passage.name) e.display
  else e.display

/-- The events of arriving at a passage. -/
def arrivalEvents (passage : Passage) : List Event :=
  (if checkpointTag ∈ passage.tags then
    [.reachingCheckpoint passage.name, .reachedCheckpoint passage.name] else []) ++
  [.wentTo passage.id]

/-- Everything that a successful navigation does: `after` is `e` once it has gone to
    `passage`, recorded by `action`, and shows `frame`. -/
structure Commits [BrowserHistory H] [Display D] (e : Engine σ S H D) (query : Query)
    (addToHistory : Bool) (action : HistoryAction) (passage : Passage) (frame : Frame)
    (after : Engine σ S H D) : Prop where
  resolved : e.story.resolve query = some passage
  history : after.place.history =
    if addToHistory then e.place.history ++ [passage.id] else e.place.history
  checkpoint : after.place.checkpoint =
    if checkpointTag ∈ passage.tags then passage.name else e.place.checkpoint
  left : after.place.atCheckpoint = false
  entered : after.place.entryState = e.state
  /-- The three renderings lead from the old variables to the new ones. -/
  rendered : RendersFrame e.renderer
    { passage, story := e.story, history := after.place.history
      checkpoint := after.place.checkpoint } ⟨e.state, e.memory⟩ frame ⟨after.state, after.memory⟩
  /-- The history after it is the one before it after one call, which it accepted. -/
  recorded : BrowserHistory.record e.browser action
    { state := e.state, history := after.place.history, checkpoint := after.place.checkpoint }
      = (.ok (), after.browser)
  shown : after.display = frame.showOn (e.titled passage)
  told : after.trace = e.trace ++ .goingTo query :: arrivalEvents passage
  same_story : after.story = e.story
  same_renderer : after.renderer = e.renderer
  same_store : after.store = e.store

/-! ## Section 2: The program's own words -/

theorem isCheckpoint_iff {p : Passage} : p.isCheckpoint = true ↔ checkpointTag ∈ p.tags := by
  unfold Passage.isCheckpoint Passage.hasTag
  exact List.contains_iff_mem

theorem progressTo_eq (e : Engine σ S H D) (passage : Passage) (addToHistory : Bool) :
    e.progressTo passage addToHistory = e.entryOf passage addToHistory := by
  unfold progressTo entryOf sceneOf
  simp only [isCheckpoint_iff]

/-- A navigation that decides how it is recorded makes a new entry when it leaves a
    checkpoint or enters one. -/
theorem actionTo_decide (e : Engine σ S H D) (passage : Passage) :
    e.actionTo passage .decide =
      if e.place.atCheckpoint = true ∨ checkpointTag ∈ passage.tags then .push else .replace := by
  unfold actionTo HistoryAction.entering
  simp

/-- The engine after a navigation has recorded `p` and shows `frame`. -/
def arrivedAt [Display D] (e : Engine σ S H D) (query : Query) (passage : Passage) (p : Progress)
    (frame : Frame) (w : World σ) (browser : H) : Engine σ S H D :=
  { e with
    place :=
      { history := p.history, checkpoint := p.checkpoint, atCheckpoint := false
        entryState := e.state }
    state := w.state
    memory := w.memory
    browser := browser
    display := frame.showOn (e.titled passage)
    trace := e.trace ++ .goingTo query :: arrivalEvents passage }

/-- Arriving after the first event has been told, a frame rendered and its entry recorded. -/
theorem arrive_eq [Display D] (e : Engine σ S H D) (query : Query) (passage : Passage)
    (addToHistory : Bool) (frame : Frame) (w : World σ) (browser : H) :
    { e.notify (.goingTo query) with memory := w.memory, browser }.arrive passage
        (e.entryOf passage addToHistory) frame w.state
      = e.arrivedAt query passage (e.entryOf passage addToHistory) frame w browser := by
  unfold arrive arrivedAt checkpoint titled arrivalEvents entryOf sceneOf
  -- the tag decides over the name, the title and two events, and over nothing else
  by_cases h : checkpointTag ∈ passage.tags
  · simp [isCheckpoint_iff.2 h, h, notify]
  · have hc : passage.isCheckpoint = false := by
      rw [← Bool.not_eq_true, isCheckpoint_iff]
      exact h
    simp [hc, h, notify]

/-! ## Section 3: When a navigation fails -/

section

variable [BrowserHistory H]

/-- Every navigation fails at one of the points of failure or gets past all of them. -/
theorem canGo_or_cannotGo (e : Engine σ S H D) (query : Query) (addToHistory : Bool)
    (recording : Recording) :
    (∃ err, e.CannotGo query addToHistory recording err) ∨
      ∃ passage frame w browser, e.story.resolve query = some passage ∧
        RendersFrame e.renderer (e.sceneOf passage addToHistory) ⟨e.state, e.memory⟩ frame w ∧
        BrowserHistory.record e.browser (e.actionTo passage recording)
          (e.entryOf passage addToHistory) = (.ok (), browser) := by
  cases hq : e.story.resolve query with
  | none => exact .inl ⟨_, .unresolved hq⟩
  | some passage =>
    rcases hf : (frameOf e.renderer (e.sceneOf passage addToHistory)).outcome ⟨e.state, e.memory⟩
      with ⟨terr | frame, w⟩
    · exact .inl ⟨_, .unrendered hq (frameOf_fails.1 ⟨w, hf⟩)⟩
    have hframe := frameOf_eq_ok.1 hf
    rcases hr : BrowserHistory.record e.browser (e.actionTo passage recording)
      (e.entryOf passage addToHistory) with ⟨herr | _, browser⟩
    · exact .inl ⟨_, .refused hq hframe (by rw [hr])⟩
    · exact .inr ⟨passage, frame, w, browser, rfl, hframe, hr⟩

variable [Display D]

theorem goTo_unresolved {e : Engine σ S H D} {query : Query} {addToHistory : Bool}
    {recording : Recording} (h : e.story.resolve query = none) :
    e.goTo query addToHistory recording
      = (.error (.passageNotFound query), e.notify (.goingTo query)) := by
  unfold goTo
  simp only [notify, h]

/-- A navigation to a passage that exists, with the rendering and the recording named. -/
theorem goTo_resolved {e : Engine σ S H D} {query : Query} {addToHistory : Bool}
    {recording : Recording} {passage : Passage} (h : e.story.resolve query = some passage) :
    e.goTo query addToHistory recording =
      match (frameOf e.renderer (e.sceneOf passage addToHistory)).outcome ⟨e.state, e.memory⟩ with
      | (.error err, w) =>
        (.error (.template err), { e.notify (.goingTo query) with memory := w.memory })
      | (.ok frame, w) =>
        match BrowserHistory.record e.browser (e.actionTo passage recording)
            (e.entryOf passage addToHistory) with
        | (.error err, browser) =>
          (.error (.history err), { e.notify (.goingTo query) with memory := w.memory, browser })
        | (.ok _, browser) =>
          (.ok (), { e.notify (.goingTo query) with memory := w.memory, browser }.arrive passage
            (e.entryOf passage addToHistory) frame w.state) := by
  have hp : (e.notify (.goingTo query)).progressTo passage addToHistory
      = e.entryOf passage addToHistory := progressTo_eq e passage addToHistory
  -- telling the first event changes nothing that the rest of the navigation reads
  unfold goTo
  simp only [notify, h] at hp ⊢
  rw [hp]
  rfl

theorem goTo_unrendered {e : Engine σ S H D} {query : Query} {addToHistory : Bool}
    (recording : Recording) {passage : Passage} {err : TemplateError}
    (hq : e.story.resolve query = some passage)
    (hf : FrameFails e.renderer (e.sceneOf passage addToHistory) ⟨e.state, e.memory⟩ err) :
    ∃ m, e.goTo query addToHistory recording
      = (.error (.template err), { e.notify (.goingTo query) with memory := m }) := by
  obtain ⟨w, hw⟩ := frameOf_fails.2 hf
  refine ⟨w.memory, ?_⟩
  rw [goTo_resolved hq, hw]

/-- A rendered navigation is as its history decides. -/
theorem goTo_rendered {e : Engine σ S H D} {query : Query} {addToHistory : Bool}
    {recording : Recording} {passage : Passage} {frame : Frame} {w : World σ}
    (hq : e.story.resolve query = some passage)
    (hf : RendersFrame e.renderer (e.sceneOf passage addToHistory) ⟨e.state, e.memory⟩ frame w) :
    e.goTo query addToHistory recording =
      match BrowserHistory.record e.browser (e.actionTo passage recording)
          (e.entryOf passage addToHistory) with
      | (.error err, browser) =>
        (.error (.history err), { e.notify (.goingTo query) with memory := w.memory, browser })
      | (.ok _, browser) =>
        (.ok (), { e.notify (.goingTo query) with memory := w.memory, browser }.arrive passage
          (e.entryOf passage addToHistory) frame w.state) := by
  rw [goTo_resolved hq, frameOf_eq_ok.2 hf]

theorem goTo_refused {e : Engine σ S H D} {query : Query} {addToHistory : Bool}
    {recording : Recording} {passage : Passage} {frame : Frame} {w : World σ} {err : HistoryError}
    (hq : e.story.resolve query = some passage)
    (hf : RendersFrame e.renderer (e.sceneOf passage addToHistory) ⟨e.state, e.memory⟩ frame w)
    (hr : (BrowserHistory.record e.browser (e.actionTo passage recording)
      (e.entryOf passage addToHistory)).1 = .error err) :
    e.goTo query addToHistory recording
      = (.error (.history err),
          { e.notify (.goingTo query) with
            memory := w.memory
            browser := (BrowserHistory.record e.browser (e.actionTo passage recording)
              (e.entryOf passage addToHistory)).2 }) := by
  rw [goTo_rendered hq hf]
  rcases h : BrowserHistory.record e.browser (e.actionTo passage recording)
    (e.entryOf passage addToHistory) with ⟨r, browser⟩
  rw [h] at hr
  obtain rfl : r = .error err := hr
  rfl

/-- A navigation that is rendered and recorded succeeds. -/
theorem goTo_recorded {e : Engine σ S H D} {query : Query} {addToHistory : Bool}
    {recording : Recording} {passage : Passage} {frame : Frame} {w : World σ} {browser : H}
    (hq : e.story.resolve query = some passage)
    (hf : RendersFrame e.renderer (e.sceneOf passage addToHistory) ⟨e.state, e.memory⟩ frame w)
    (hr : BrowserHistory.record e.browser (e.actionTo passage recording)
      (e.entryOf passage addToHistory) = (.ok (), browser)) :
    e.goTo query addToHistory recording
      = (.ok (), e.arrivedAt query passage (e.entryOf passage addToHistory) frame w browser) := by
  rw [goTo_rendered hq hf, hr]
  dsimp only
  rw [arrive_eq]

/-- What it comes to when it succeeds is everything that a success changes. -/
theorem commits_arrivedAt {e : Engine σ S H D} {query : Query} {addToHistory : Bool}
    {action : HistoryAction} {passage : Passage} {frame : Frame} {w : World σ} {browser : H}
    (hq : e.story.resolve query = some passage)
    (hf : RendersFrame e.renderer (e.sceneOf passage addToHistory) ⟨e.state, e.memory⟩ frame w)
    (hr : BrowserHistory.record e.browser action (e.entryOf passage addToHistory)
      = (.ok (), browser)) :
    e.Commits query addToHistory action passage frame
      (e.arrivedAt query passage (e.entryOf passage addToHistory) frame w browser) where
  resolved := hq
  history := rfl
  checkpoint := rfl
  left := rfl
  entered := rfl
  rendered := hf
  recorded := hr
  shown := rfl
  told := rfl
  same_story := rfl
  same_renderer := rfl
  same_store := rfl

/-! ## Section 4: All or nothing -/

/-- A point of failure is where the navigation fails. -/
theorem CannotGo.goTo_eq {e : Engine σ S H D} {query : Query} {addToHistory : Bool}
    {recording : Recording} {err : EngineError} (h : e.CannotGo query addToHistory recording err) :
    (e.goTo query addToHistory recording).1 = .error err := by
  cases h with
  | unresolved hq => rw [goTo_unresolved hq]
  | unrendered hq hf =>
    obtain ⟨m, h⟩ := goTo_unrendered recording hq hf
    rw [h]
  | refused hq hf hr => rw [goTo_refused hq hf hr]

/-- A navigation fails exactly at its points of failure, with the error of that point. -/
theorem goTo_fails_iff {e : Engine σ S H D} {query : Query} {addToHistory : Bool}
    {recording : Recording} {err : EngineError} :
    (e.goTo query addToHistory recording).1 = .error err ↔
      e.CannotGo query addToHistory recording err := by
  constructor
  · intro h
    -- some point of failure holds, since past all of them the navigation succeeds; and it is
    -- the one with this error, since each gives its own
    rcases e.canGo_or_cannotGo query addToHistory recording with
      ⟨err', hc⟩ | ⟨passage, frame, w, browser, hq, hf, hr⟩
    · have := hc.goTo_eq
      rw [h] at this
      obtain rfl := Except.error.inj this
      exact hc
    · rw [goTo_recorded hq hf hr] at h
      cases h
  · exact CannotGo.goTo_eq

/-- A navigation that fails leaves all but the evaluator's memory and the trace alone. -/
theorem goTo_error_eq [KeepsOnRefusal H] {e : Engine σ S H D} {query : Query}
    {addToHistory : Bool} {recording : Recording} {err : EngineError}
    (h : (e.goTo query addToHistory recording).1 = .error err) :
    ∃ m, (e.goTo query addToHistory recording).2
      = { e with memory := m, trace := e.trace ++ [.goingTo query] } := by
  cases goTo_fails_iff.1 h with
  | unresolved hq =>
    rw [goTo_unresolved hq]
    exact ⟨e.memory, rfl⟩
  | unrendered hq hf =>
    obtain ⟨m, h⟩ := goTo_unrendered recording hq hf
    rw [h]
    exact ⟨m, rfl⟩
  | @refused passage frame w herr hq hf hr =>
    rw [goTo_refused hq hf hr]
    -- a refusing history is the only thing that could have been touched
    rw [KeepsOnRefusal.keeps _ _ _ _ hr]
    exact ⟨w.memory, rfl⟩

/-- A navigation that succeeds commits everything, in one piece. -/
theorem goTo_ok_commits {e : Engine σ S H D} {query : Query} {addToHistory : Bool}
    {recording : Recording} {after : Engine σ S H D}
    (h : e.goTo query addToHistory recording = (.ok (), after)) :
    ∃ passage frame,
      e.Commits query addToHistory (e.actionTo passage recording) passage frame after := by
  rcases e.canGo_or_cannotGo query addToHistory recording with
    ⟨err, hc⟩ | ⟨passage, frame, w, browser, hq, hf, hr⟩
  · have := hc.goTo_eq
    rw [h] at this
    cases this
  · rw [goTo_recorded hq hf hr] at h
    obtain ⟨-, rfl⟩ := Prod.mk.inj h
    exact ⟨passage, frame, commits_arrivedAt hq hf hr⟩

/-- **Navigation is all or nothing.** It fails exactly at its points of failure, and then
    place, variables, store, history and display are what they were and the trace has one
    event more. Otherwise everything has been committed: the one call that the history got
    makes a new entry when a checkpoint is left or entered, and replaces one if not. The
    history may be any type, also one that lists its calls. -/
theorem goToPassage_all_or_nothing [KeepsOnRefusal H] (e : Engine σ S H D) (query : Query)
    (addToHistory : Bool) :
    (∀ err, (e.goToPassage query addToHistory).1 = .error err ↔
      e.CannotGo query addToHistory .decide err) ∧
    (∀ err after, e.goToPassage query addToHistory = (.error err, after) →
      after.place = e.place ∧ after.state = e.state ∧ after.store = e.store ∧
      after.browser = e.browser ∧ after.display = e.display ∧
      after.trace = e.trace ++ [.goingTo query]) ∧
    (∀ after, e.goToPassage query addToHistory = (.ok (), after) →
      ∃ passage frame, e.Commits query addToHistory
        (if e.place.atCheckpoint = true ∨ checkpointTag ∈ passage.tags then .push else .replace)
        passage frame after) := by
  refine ⟨fun err => goTo_fails_iff, ?_, ?_⟩
  · intro err after h
    have herr : (e.goTo query addToHistory .decide).1 = .error err := congrArg Prod.fst h
    obtain ⟨m, hm⟩ := goTo_error_eq herr
    have hafter : (e.goTo query addToHistory .decide).2 = after := congrArg Prod.snd h
    rw [← hafter, hm]
    exact ⟨rfl, rfl, rfl, rfl, rfl, rfl⟩
  · intro after h
    obtain ⟨passage, frame, hc⟩ := goTo_ok_commits h
    rw [actionTo_decide] at hc
    exact ⟨passage, frame, hc⟩

end

end Engine

/-! ## Section 5: A story with a lamp -/

/-- An evaluator of few words: an expression is the name of a variable, and a statement
    switches the variable of that name on. -/
def Evaluator.switches : Evaluator σ where
  evaluate _ code := do
    match Table.get? code (← get).state with
    | some v => return v
    | none => throw (.unknownIdentifier code)
  execute _ code := modify fun w => { w with state := Table.insert code (.bool true) w.state }

/-- A story whose cellar lights the lamp, and whose header asks for gold once it is lit. -/
def lampStory : Story where
  name := "Lamp"
  ifid := none
  creator := none
  creatorVersion := none
  start := 1
  passages :=
    .ofList
      [{ id := 1, name := "Door", tags := [], source := "It is dark." },
        { id := 2, name := "Cellar", tags := [checkpointTag]
          source := "&lt;% lamp %&gt;There are steps." },
        { id := 3, name := headerName, tags := []
          source := "&lt;% if lamp %&gt;&lt;%= gold %&gt;&lt;% end %&gt;" }]
  config := {}
  passages_agree := PassageIndex.agrees_ofList _
  start_exists := by decide

/-- A reader of that story, with the lamp still dark. -/
def lampReader : Engine Unit MemoryStore MemoryHistory Screen where
  story := lampStory
  renderer := { evaluator := .switches, markup := .plain }
  state := [("lamp", .bool false)]
  memory := ()
  store := {}
  browser := .fresh
  display := {}

/-- The cellar has lit the lamp when the header fails, and nothing of it is left. -/
theorem goToPassage_all_or_nothing_cellar :
    (lampReader.goToPassage (.name "Cellar") true).1
        = .error (.template (.unknownIdentifier "gold")) ∧
      lampReader.CannotGo (.name "Cellar") true .decide (.template (.unknownIdentifier "gold")) ∧
      (lampReader.goToPassage (.name "Cellar") true).2.state = lampReader.state ∧
      (lampReader.goToPassage (.name "Door") true).1 = .ok () ∧
      (lampReader.goToPassage (.name "Door") true).2.place.history = [1] := by
  have hcellar := Engine.goToPassage_all_or_nothing lampReader (.name "Cellar") true
  have hdoor := Engine.goToPassage_all_or_nothing lampReader (.name "Door") true
  have hfails : (lampReader.goToPassage (.name "Cellar") true).1
      = .error (.template (.unknownIdentifier "gold")) := by cbv
  have hgoes : (lampReader.goToPassage (.name "Door") true).1 = .ok () := by cbv
  obtain ⟨passage, frame, hc⟩ := hdoor.2.2 _ (Prod.ext hgoes rfl)
  refine ⟨hfails, (hcellar.1 _).1 hfails, (hcellar.2.1 _ _ (Prod.ext hfails rfl)).2.1, hgoes, ?_⟩
  obtain rfl : passage = { id := 1, name := "Door", tags := [], source := "It is dark." } :=
    (Option.some.inj hc.resolved).symm
  exact hc.history

end Hyperfiction
