import Hyperfiction.Proofs.Movement
import Hyperfiction.Session

/-! # Events

    Operations nest: play restores, restoring navigates, and a navigation reaches a
    checkpoint. What is told of it follows from the operation and from what comes of it.
    Every operation opens with an event of its own, tells what happens inside it, and
    closes with another one only if it succeeds; a restore says also that it failed. The
    events of a session are those of its steps, one step after the other.
-/

namespace Hyperfiction

variable {σ S H D : Type}

/-! ## Section 1: What is told -/

/-- An event before, and others after a success. -/
def bracketed {ε α : Type} (before : Event) (after : List Event) (result : Except ε α) :
    List Event :=
  match result with
  | .ok _ => before :: after
  | .error _ => [before]

/-- The reason that a restore fails for, which is the only way it fails. -/
def EngineError.reason : EngineError → String
  | .restoreFailed reason => reason
  | err => err.message

/-- The last passage of a saved game that can be loaded. -/
def Storage.lastSaved? [Storage S] (store : S) (key : String) : Option PassageId :=
  match Storage.load store key with
  | .ok p => p.last?
  | .error _ => none

theorem Storage.lastSaved?_of_loads [Storage S] {store : S} {key : String} {p : Progress}
    {last : PassageId} (hload : Storage.load store key = .ok p) (hlast : p.last? = some last) :
    Storage.lastSaved? store key = some last := by
  unfold Storage.lastSaved?
  rw [hload]
  exact hlast

theorem Storage.lastSaved?_of_not [Storage S] {store : S} {key : String}
    (h : ∀ p, Storage.load store key = .ok p → p.last? = none) :
    Storage.lastSaved? store key = none := by
  unfold Storage.lastSaved?
  cases hload : Storage.load store key with
  | error err => rfl
  | ok p => exact h p hload

namespace Engine

/-- The events of a navigation that comes to `result`. -/
def navigationEvents {ε : Type} (story : Story) (query : Query) (result : Except ε Unit) :
    List Event :=
  bracketed (.goingTo query) ((story.resolve query).elim [] arrivalEvents) result

/-- The events of showing a passage. -/
def showingEvents {ε α : Type} (story : Story) (query : Query) (result : Except ε α) :
    List Event :=
  bracketed (.showing query) ((story.resolve query).elim [] fun p => [.shown p.id]) result

/-- How a restore closes. -/
def restoreEnd : Except EngineError Unit → List Event
  | .ok _ => [.restored]
  | .error err => [.restoreFailed err.reason]

section

variable [Storage S] [BrowserHistory H] [Display D]

/-- The events of a restore: inside it is the navigation to the last passage of the saved
    game, if one can be loaded. -/
def restoreEvents (e : Engine σ S H D) : List Event :=
  .restoring ::
    ((Storage.lastSaved? e.store e.saveKey).elim []
      (fun last => navigationEvents e.story (.id last) e.restore.1)) ++
    restoreEnd e.restore.1

/-- Whether play comes to restore a saved game, and succeeds in it. -/
def resumes (e : Engine σ S H D) : Bool :=
  match Storage.hasSave e.store e.saveKey with
  | .ok true => e.configured.restore.1.isOk
  | _ => false

/-- The events of play: those of a restore if something is kept, and those of the navigation
    to the start if nothing was restored. -/
def playEvents (e : Engine σ S H D) : List Event :=
  (match Storage.hasSave e.store e.saveKey with
    | .ok true => e.configured.restoreEvents
    | _ => []) ++
  (if e.resumes then [] else navigationEvents e.story (.id e.story.start) e.play.1)

omit [Storage S] in
/-- The events of following the browser to an entry. -/
def popEvents (entry : Option Progress) (e : Engine σ S H D) : List Event :=
  match entry with
  | some p => p.last?.elim [] fun last => navigationEvents e.story (.id last) (e.handlePop entry).1
  | none =>
    if e.place.history.isEmpty then
      navigationEvents e.story (.id e.story.start) (e.handlePop entry).1
    else []

end

/-! ## Section 2: Operations -/

section

variable [BrowserHistory H] [Display D]

/-- A navigation tells where it goes, and after a success that it has arrived. -/
theorem goTo_trace (e : Engine σ S H D) (query : Query) (addToHistory : Bool)
    (recording : Recording) :
    (e.goTo query addToHistory recording).2.trace
      = e.trace ++ navigationEvents e.story query (e.goTo query addToHistory recording).1 := by
  cases hq : e.story.resolve query with
  | none =>
    rw [goTo_unresolved hq]
    rfl
  | some passage =>
    have harrival : navigationEvents e.story query (.ok () : Except EngineError Unit)
        = .goingTo query :: arrivalEvents passage := by
      unfold navigationEvents bracketed
      rw [hq]
      rfl
    rw [goTo_resolved hq]
    rcases (frameOf e.renderer (e.sceneOf passage addToHistory)).outcome ⟨e.state, e.memory⟩
      with ⟨err | frame, w⟩
    · rfl
    · dsimp only
      rcases BrowserHistory.record e.browser (e.actionTo passage recording)
        (e.entryOf passage addToHistory) with ⟨err | _, browser⟩
      · rfl
      · dsimp only
        rw [arrive_eq, harrival]
        rfl

/-- The events of a checkpoint stand inside those of the navigation that reaches it. -/
example : navigationEvents lampStory (.name "Cellar") (.ok () : Except EngineError Unit)
    = [.goingTo (.name "Cellar"), .reachingCheckpoint "Cellar", .reachedCheckpoint "Cellar",
      .wentTo 2] := by decide

/-- Beginning tells of the navigation to the start. -/
theorem begin_trace (e : Engine σ S H D) :
    e.begin.2.trace = e.trace ++ navigationEvents e.story (.id e.story.start) e.begin.1 := by
  have hgo := e.goTo_trace (.id e.story.start) true .decide
  unfold begin goToStart goToPassage
  rcases hg : e.goTo (.id e.story.start) true .decide with ⟨err | _, after⟩ <;> rw [hg] at hgo
  · exact hgo
  · exact hgo

/-- Following the browser tells of the navigation that shows the entry again, or of the one to
    the start. -/
theorem handlePop_trace (entry : Option Progress) (e : Engine σ S H D) :
    (e.handlePop entry).2.trace = e.trace ++ e.popEvents entry := by
  unfold popEvents
  cases entry with
  | some p =>
    cases hp : p.last? with
    | none =>
      rw [handlePop_empty e hp]
      dsimp only
      rw [hp]
      exact (List.append_nil _).symm
    | some last =>
      have hgo := (e.adopt p).goTo_trace (.id last) false .replaceOnly
      rw [handlePop_entry e hp]
      dsimp only
      rw [hp]
      -- rolling back takes back no event
      rcases hg : (e.adopt p).goTo (.id last) false .replaceOnly with ⟨err | _, after⟩ <;>
        rw [hg] at hgo
      · exact hgo
      · exact hgo
  | none =>
    dsimp only
    rw [handlePop_blank]
    by_cases hempty : e.place.history.isEmpty = true
    · rw [if_pos hempty, if_pos hempty]
      exact e.cleared.goTo_trace (.id e.story.start) true .decide
    · rw [if_neg hempty, if_neg hempty]
      exact (List.append_nil _).symm

omit [BrowserHistory H] [Display D] in
/-- Showing a passage tells which one, and after a success that it was shown. -/
theorem showPassage_trace (query : Query) (e : Engine σ S H D) :
    (e.showPassage query).2.trace
      = e.trace ++ showingEvents e.story query (e.showPassage query).1 := by
  cases hq : e.story.resolve query with
  | none =>
    rw [showPassage_unresolved hq]
    rfl
  | some passage =>
    rw [showPassage_resolved hq]
    rcases hout : (e.renderer.render (e.asideScene passage)).outcome ⟨e.state, e.memory⟩
      with ⟨err | rendered, w⟩
    · rfl
    · have hshown := Renderer.passage_of_render hout
      unfold showingEvents bracketed
      rw [hq]
      unfold notify
      dsimp only [Option.elim]
      rw [hshown, List.append_assoc]
      rfl

omit [BrowserHistory H] in
theorem checkpoint_trace (name : String) (e : Engine σ S H D) :
    (e.checkpoint name).trace
      = e.trace ++ [.reachingCheckpoint name, .reachedCheckpoint name] := by
  unfold checkpoint notify
  dsimp only
  rw [List.append_assoc]
  rfl

variable [Storage S]

omit [Storage S] [BrowserHistory H] [Display D] in
theorem afterCall_trace (before after : Event) (call : Except SlotError Unit × S)
    (e : Engine σ S H D) :
    (e.afterCall before after call).2.trace
      = e.trace ++ bracketed before [after] (e.afterCall before after call).1 := by
  rcases call with ⟨err | _, store⟩
  · rfl
  · exact List.append_assoc _ _ _

omit [BrowserHistory H] [Display D] in
theorem save_trace (e : Engine σ S H D) :
    e.save.2.trace = e.trace ++ bracketed .saving [.saved] e.save.1 := by
  rw [save_eq_afterCall]
  exact afterCall_trace _ _ _ e

omit [BrowserHistory H] [Display D] in
theorem reset_trace (e : Engine σ S H D) :
    e.reset.2.trace = e.trace ++ bracketed .resetting [.wasReset] e.reset.1 := by
  rw [reset_eq_afterCall]
  exact afterCall_trace _ _ _ e

/-- A restore tells of the navigation inside it, if a saved game is loaded, and then how it
    came out. -/
theorem restore_trace (e : Engine σ S H D) : e.restore.2.trace = e.trace ++ e.restoreEvents := by
  unfold restoreEvents
  rcases e.loads_or_not with ⟨p, last, hload, hlast⟩ | hnone
  · have hgo := ((e.notify .restoring).adopt p).goTo_trace (.id last) false .decide
    rw [restore_loaded hload hlast, Storage.lastSaved?_of_loads hload hlast]
    rcases hg : ((e.notify .restoring).adopt p).goTo (.id last) false .decide
      with ⟨err | _, after⟩ <;> rw [hg] at hgo
    · have hgo' : after.trace = e.trace ++ [.restoring] ++ [.goingTo (.id last)] := hgo
      unfold notify rollBack navigationEvents bracketed
      dsimp only [Option.elim]
      rw [hgo', List.append_assoc, List.append_assoc]
      rfl
    · have hgo' : after.trace
          = e.trace ++ [.restoring] ++ navigationEvents e.story (.id last) (.ok ()) := hgo
      unfold notify
      dsimp only [Option.elim]
      rw [hgo', List.append_assoc, List.append_assoc]
      rfl
  · obtain ⟨reason, hrestore⟩ := restore_unloaded hnone
    rw [hrestore, Storage.lastSaved?_of_not hnone]
    unfold notify
    dsimp only [Option.elim]
    rw [List.append_assoc]
    rfl

/-- Play tells of a restore if something is kept, and of beginning unless that succeeds. -/
theorem play_trace (e : Engine σ S H D) : e.play.2.trace = e.trace ++ e.playEvents := by
  have hbegin := e.configured.begin_trace
  have hrestore := e.configured.restore_trace
  unfold playEvents resumes
  rw [play_eq]
  rcases Storage.hasSave e.store e.saveKey with err | _ | _
  · exact hbegin
  · exact hbegin
  · unfold startFrom
    dsimp only
    have hkept := e.configured.restore_arrivesOrKeeps
    rcases hr : e.configured.restore with ⟨err | _, after⟩ <;> rw [hr] at hrestore hkept
    · -- the restore that failed has told its events before play goes to the start
      have hstory : after.story = e.story := by
        cases hkept with
        | keeps hunmoved => exact hunmoved.story
      have hstart := after.begin_trace
      rw [hstory, hrestore] at hstart
      show after.begin.2.trace = e.trace ++ (e.configured.restoreEvents
        ++ navigationEvents e.story (.id e.story.start) after.begin.1)
      rw [hstart, List.append_assoc]
      rfl
    · show after.trace = e.trace ++ (e.configured.restoreEvents ++ [])
      rw [List.append_nil]
      exact hrestore

end

/-! ## Section 3: Sessions -/

section

variable [Storage S] [BrowserHistory H] [Travel H]

/-- The events of following the browser to where it has gone. -/
def travelEvents (moved : Option (Option Progress × H)) (e : Engine σ S H Screen) : List Event :=
  moved.elim [] fun move => { e with browser := move.2 }.popEvents move.1

/-- The events of a step. -/
def stepEvents (s : Step) (e : Engine σ S H Screen) : List Event :=
  match s with
  | .play => e.playEvents
  | .goTo query addToHistory =>
    navigationEvents e.story query (e.goToPassage query addToHistory).1
  | .follow target => navigationEvents e.story (.name target) (e.followLink target).1
  | .click n =>
    (e.display.link? n).elim [] fun link =>
      navigationEvents e.story (.name link.target) (e.followLink link.target).1
  | .showPassage query => showingEvents e.story query (e.showPassage query).1
  | .checkpoint name => [.reachingCheckpoint name, .reachedCheckpoint name]
  | .save => bracketed .saving [.saved] e.save.1
  | .restore => e.restoreEvents
  | .reset => bracketed .resetting [.wasReset] e.reset.1
  | .back => e.travelEvents (Travel.back? e.browser)
  | .forward => e.travelEvents (Travel.forward? e.browser)
  | .pop entry => e.popEvents entry
  | .setVariable _ _ | .write _ => []

/-- The events of steps in order. -/
def runEvents : List Step → Engine σ S H Screen → List Event
  | [], _ => []
  | s :: steps, e => e.stepEvents s ++ runEvents steps (e.step s).2

omit [Storage S] [Travel H] in
theorem travel_trace (moved : Option (Option Progress × H)) (e : Engine σ S H Screen) :
    (e.travel moved).2.trace = e.trace ++ e.travelEvents moved := by
  cases moved with
  | none => exact (List.append_nil _).symm
  | some move => exact { e with browser := move.2 }.handlePop_trace move.1

/-- A step tells its events. -/
theorem step_trace (s : Step) (e : Engine σ S H Screen) :
    (e.step s).2.trace = e.trace ++ e.stepEvents s := by
  cases s with
  | play => exact e.play_trace
  | goTo query addToHistory => exact e.goTo_trace query addToHistory .decide
  | follow target => exact e.goTo_trace (.name target) true .decide
  | click n =>
    unfold step stepEvents
    dsimp only
    cases e.display.link? n with
    | none => exact (List.append_nil _).symm
    | some link => exact e.goTo_trace (.name link.target) true .decide
  | showPassage query =>
    have hshow := e.showPassage_trace query
    unfold step stepEvents
    dsimp only
    rcases hs : e.showPassage query with ⟨err | p, after⟩ <;> rw [hs] at hshow
    · exact hshow
    · exact hshow
  | checkpoint name => exact e.checkpoint_trace name
  | save => exact e.save_trace
  | restore => exact e.restore_trace
  | reset => exact e.reset_trace
  | back => exact e.travel_trace _
  | forward => exact e.travel_trace _
  | pop entry => exact e.handlePop_trace entry
  | setVariable name value => exact (List.append_nil _).symm
  | write state => exact (List.append_nil _).symm

/-- The steps of a run tell their events one step after the other. -/
theorem run_trace (steps : List Step) (e : Engine σ S H Screen) :
    (e.run steps).trace = e.trace ++ e.runEvents steps := by
  induction steps generalizing e with
  | nil => exact (List.append_nil _).symm
  | cons s steps ih =>
    have hrun : e.run (s :: steps) = (e.step s).2.run steps := rfl
    rw [hrun, ih, e.step_trace s, List.append_assoc]
    rfl

end

/-! ## Section 4: Observers -/

section

variable {O : Type} (hear : Event → O → O)

/-- Telling all observers event after event, each of them hears all events. -/
theorem foldl_tellAll (events : List Event) (observers : List O) :
    events.foldl (tellAll hear) observers
      = observers.map fun o => events.foldl (fun o event => hear event o) o := by
  induction events generalizing observers with
  | nil => exact (List.map_id _).symm
  | cons event events ih =>
    rw [List.foldl_cons, ih]
    unfold tellAll
    rw [List.map_map]
    rfl

variable [Storage S] [BrowserHistory H] [Travel H]

/-- **What is told follows from the operations and from what comes of them.** A run adds to
    the trace the events of its steps, one step after the other; and of the observers that
    were there when it began each one is told these events, in this order. -/
theorem observers_are_told (observers : List O) (first : Engine σ S H Screen)
    (before steps : List Step) :
    (first.run (before ++ steps)).trace
        = (first.run before).trace ++ (first.run before).runEvents steps ∧
      (first.run (before ++ steps)).observersAfter hear observers (first.run before).trace.length
        = observers.map fun o =>
            ((first.run before).runEvents steps).foldl (fun o event => hear event o) o := by
  have hrun : first.run (before ++ steps) = (first.run before).run steps := List.foldl_append
  have htrace := (first.run before).run_trace steps
  refine ⟨by rw [hrun, htrace], ?_⟩
  unfold observersAfter
  rw [hrun, htrace, List.drop_left, foldl_tellAll]

end

end Engine

end Hyperfiction
