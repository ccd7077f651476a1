import Hyperfiction.Proofs.Resume

/-! # Restoring

    Restoring takes the saved game over before it is known whether its last passage can
    be shown: the variables, the history and the checkpoint of the reader are replaced,
    and then a navigation is tried that can fail in ways of its own. `CanRestore` lists
    everything that has to go well, from the text in the store to the entry in the
    history. A restore succeeds exactly then; otherwise what was taken over is put back,
    and only the evaluator's memory and the trace show that it was tried.
-/

namespace Hyperfiction

variable {σ S H D : Type}

/-! ## Section 1: What is loaded -/

/-- A text is a saved game exactly when it is read as a progress with a passage visited. -/
theorem Progress.ofSavedText_eq_ok_iff {text : String} {p : Progress} :
    ofSavedText text = .ok p ↔ ofText? savedField text = some p ∧ p.history ≠ [] := by
  unfold ofSavedText
  cases ofText? savedField text with
  | none => simp
  | some q =>
    dsimp only
    rw [Option.some.injEq]
    by_cases hempty : q.history = []
    · rw [if_pos (List.isEmpty_iff.2 hempty)]
      constructor
      · intro h
        cases h
      · rintro ⟨rfl, hne⟩
        exact absurd hempty hne
    · rw [if_neg fun h => hempty (List.isEmpty_iff.1 h), Except.ok.injEq]
      constructor
      · rintro rfl
        exact ⟨rfl, hempty⟩
      · exact And.left

/-- A progress is loaded exactly when the store has a text under the key that is a saved
    game with this progress. -/
theorem Storage.load_eq_ok_iff [Storage S] {store : S} {key : String} {p : Progress} :
    load store key = .ok p ↔
      ∃ text, get store key = .ok (some text) ∧ Progress.ofSavedText text = .ok p := by
  unfold load
  rcases get store key with err | _ | text
  · simp
  · simp
  · dsimp only
    cases hread : Progress.ofSavedText text with
    | error err => simp [hread]
    | ok q => simp [hread]

namespace Engine

/-! ## Section 2: What a restore needs -/

/-- The scene in which the last passage of a saved game is shown again. -/
def sceneOfSaved (e : Engine σ S H D) (p : Progress) (passage : Passage) : Scene where
  passage := passage
  story := e.story
  history := p.history
  checkpoint := if checkpointTag ∈ passage.tags then passage.name else p.checkpoint

/-- Everything that has to go well for the saved game `p` to be restored: its last passage
    is `passage`, and `frame` is shown, in the world `w`, with `browser` as the history. -/
structure CanRestore [Storage S] [BrowserHistory H] (e : Engine σ S H D) (p : Progress)
    (passage : Passage) (frame : Frame) (w : World σ) (browser : H) : Prop where
  /-- The store has a text under the story's key, and it is a saved game. -/
  kept : ∃ text, Storage.get e.store e.saveKey = .ok (some text) ∧
    Progress.ofText? Progress.savedField text = some p
  visited : p.history ≠ []
  /-- The story has the last passage. -/
  found : p.history.getLast?.bind e.story.passage? = some passage
  /-- Passage, header and footer are rendered from the variables of the saved game. -/
  rendered : RendersFrame e.renderer (e.sceneOfSaved p passage) ⟨p.state, e.memory⟩ frame w
  /-- The history takes the entry. -/
  accepted : BrowserHistory.record e.browser
      (if e.place.atCheckpoint = true ∨ checkpointTag ∈ passage.tags then .push else .replace)
      { p with checkpoint := (e.sceneOfSaved p passage).checkpoint }
    = (.ok (), browser)

variable [Storage S] [BrowserHistory H] [Display D]

/-- Where everything goes well, the saved game is restored. -/
theorem CanRestore.restore_eq {e : Engine σ S H D} {p : Progress} {passage : Passage}
    {frame : Frame} {w : World σ} {browser : H} (h : e.CanRestore p passage frame w browser) :
    e.restore = (.ok (), (((e.notify .restoring).adopt p).arrivedAt (.id passage.id) passage
      { p with checkpoint := (e.sceneOfSaved p passage).checkpoint } frame w browser).notify
        .restored) := by
  obtain ⟨text, hget, hread⟩ := h.kept
  have hsaved := Progress.ofSavedText_eq_ok_iff.2 ⟨hread, h.visited⟩
  have hload := Storage.load_eq_ok_iff.2 ⟨text, hget, hsaved⟩
  obtain ⟨last, hlast, hfound⟩ := Option.bind_eq_some_iff.1 h.found
  obtain rfl := Story.id_of_passage? hfound
  -- after the first event the engine that has taken `p` over is ready to go
  have haccepted : BrowserHistory.record e.browser
      (((e.notify .restoring).adopt p).actionTo passage .decide)
      (((e.notify .restoring).adopt p).entryOf passage false) = (.ok (), browser) := by
    rw [actionTo_decide]
    exact h.accepted
  have hgo : ((e.notify .restoring).adopt p).goTo (.id passage.id) false .decide = _ :=
    goTo_recorded hfound h.rendered haccepted
  rw [restore_loaded hload hlast, hgo]
  rfl

/-- A restore that succeeds had everything it needs. -/
theorem canRestore_of_restore {e : Engine σ S H D} (h : e.restore.1 = .ok ()) :
    ∃ p passage frame w browser, e.CanRestore p passage frame w browser := by
  rcases e.loads_or_not with ⟨p, last, hload, hlast⟩ | hnone
  · obtain ⟨text, hget, hsaved⟩ := Storage.load_eq_ok_iff.1 hload
    obtain ⟨hread, hvisited⟩ := Progress.ofSavedText_eq_ok_iff.1 hsaved
    rw [restore_loaded hload hlast] at h
    rcases ((e.notify .restoring).adopt p).canGo_or_cannotGo (.id last) false .decide with
      ⟨err, hc⟩ | ⟨passage, frame, w, browser, hfound, hrendered, haccepted⟩
    · -- a navigation that cannot go makes the restore fail
      rcases hg : ((e.notify .restoring).adopt p).goTo (.id last) false .decide with
        ⟨err' | _, there⟩
      · rw [hg] at h
        cases h
      · have hfails := hc.goTo_eq
        rw [hg] at hfails
        cases hfails
    · rw [actionTo_decide] at haccepted
      have hpassage : p.history.getLast?.bind e.story.passage? = some passage :=
        Option.bind_eq_some_iff.2 ⟨last, hlast, hfound⟩
      exact ⟨p, passage, frame, w, browser, ⟨text, hget, hread⟩, hvisited, hpassage, hrendered,
        haccepted⟩
  · obtain ⟨reason, hrestore⟩ := restore_unloaded hnone
    rw [hrestore] at h
    cases h

/-! ## Section 3: All or nothing -/

variable [KeepsOnRefusal H]

/-- A restore that fails has changed what the evaluator remembers and the trace, at most,
    and the reason is the last thing it tells. -/
theorem restore_error_eq {e after : Engine σ S H D} {err : EngineError}
    (h : e.restore = (.error err, after)) :
    ∃ reason m told, err = .restoreFailed reason ∧
      after = { e with
        memory := m, trace := e.trace ++ .restoring :: told ++ [.restoreFailed reason] } := by
  rcases e.loads_or_not with ⟨p, last, hload, hlast⟩ | hnone
  · rw [restore_loaded hload hlast] at h
    rcases hg : ((e.notify .restoring).adopt p).goTo (.id last) false .decide with
      ⟨err' | _, there⟩
    · -- the navigation left what was taken over, and that has been put back
      obtain ⟨m, hm⟩ := goTo_error_eq (congrArg Prod.fst hg)
      rw [hg] at hm h
      obtain rfl : there = _ := hm
      obtain ⟨herr, rfl⟩ := Prod.mk.inj h
      refine ⟨err'.message, m, [.goingTo (.id last)], (Except.error.inj herr).symm, ?_⟩
      simp [rollBack, notify, adopt]
    · rw [hg] at h
      cases (Prod.mk.inj h).1
  · obtain ⟨reason, hrestore⟩ := restore_unloaded hnone
    rw [hrestore] at h
    obtain ⟨herr, rfl⟩ := Prod.mk.inj h
    refine ⟨reason, e.memory, [], (Except.error.inj herr).symm, ?_⟩
    simp [notify]

/-- **Restoring is all or nothing.** It succeeds exactly when everything it needs goes
    well, and then the history and the variables on entry are those of the saved game, the
    checkpoint is the saved one or that of the passage, and the checkpoint is left. When it
    fails, place, variables, store, history and display are what they were before, and the
    last event tells the reason that is the error. -/
theorem restore_all_or_nothing (e : Engine σ S H D) :
    (e.restore.1 = .ok () ↔
      ∃ p passage frame w browser, e.CanRestore p passage frame w browser) ∧
    (∀ after, e.restore = (.ok (), after) →
      ∃ p passage frame w browser, e.CanRestore p passage frame w browser ∧
        after.place.history = p.history ∧ after.place.entryState = p.state ∧
        after.place.atCheckpoint = false ∧
        after.place.checkpoint = (e.sceneOfSaved p passage).checkpoint ∧
        after.state = w.state ∧ after.store = e.store ∧ after.browser = browser ∧
        after.display = frame.showOn (e.titled passage)) ∧
    (∀ err after, e.restore = (.error err, after) →
      after.place = e.place ∧ after.state = e.state ∧ after.store = e.store ∧
      after.browser = e.browser ∧ after.display = e.display ∧
      ∃ reason told, err = .restoreFailed reason ∧
        after.trace = e.trace ++ .restoring :: told ++ [.restoreFailed reason]) := by
  refine ⟨⟨canRestore_of_restore, ?_⟩, ?_, ?_⟩
  · rintro ⟨p, passage, frame, w, browser, h⟩
    rw [h.restore_eq]
  · intro after hafter
    obtain ⟨p, passage, frame, w, browser, h⟩ :=
      canRestore_of_restore (congrArg Prod.fst hafter)
    rw [h.restore_eq] at hafter
    obtain ⟨-, rfl⟩ := Prod.mk.inj hafter
    exact ⟨p, passage, frame, w, browser, h, rfl, rfl, rfl, rfl, rfl, rfl, rfl, rfl⟩
  · intro err after hafter
    obtain ⟨reason, m, told, herr, rfl⟩ := restore_error_eq hafter
    exact ⟨rfl, rfl, rfl, rfl, rfl, reason, told, herr, rfl⟩

end Engine

/-! ## Section 4: A saved game from the cellar -/

/-- The cellar of the story with a lamp. -/
def lampCellar : Passage where
  id := 2
  name := "Cellar"
  tags := [checkpointTag]
  source := "&lt;% lamp %&gt;There are steps."

/-- In the cellar, with these variables on entry. -/
def cellarSave (state : StateBag) : Progress where
  state := state
  history := [1, 2]
  checkpoint := ""

/-- A reader of that story who has saved that. -/
def cellarSaver (state : StateBag) : Engine Unit MemoryStore MemoryHistory Screen :=
  { lampReader with
    store := (Storage.set lampReader.store lampReader.saveKey (cellarSave state).savedText).2 }

theorem load_cellarSaver {state : StateBag} (h : state.Survives) :
    Storage.load (cellarSaver state).store (cellarSaver state).saveKey
      = .ok (cellarSave state) := by
  have hset : Storage.set lampReader.store lampReader.saveKey (cellarSave state).savedText
      = (.ok (), (cellarSaver state).store) := Prod.ext rfl rfl
  have hvisited : (cellarSave state).history ≠ [] := List.cons_ne_nil _ _
  exact (Engine.loads_saved hset h hvisited).2

theorem sceneOfSaved_cellarSaver (state : StateBag) :
    (cellarSaver state).sceneOfSaved (cellarSave state) lampCellar
      = { passage := lampCellar, story := lampStory, history := [1, 2]
          checkpoint := "Cellar" } := rfl

/-- The header asks for gold once the cellar has lit the lamp. A saved game with gold in it
    can be restored. -/
theorem canRestore_cellarSaver : ∃ frame w browser,
    (cellarSaver lampDoor.state).CanRestore (cellarSave lampDoor.state) lampCellar frame w
      browser := by
  obtain ⟨text, hget, hsaved⟩ := Storage.load_eq_ok_iff.1 (load_cellarSaver lampDoor_survives)
  obtain ⟨hread, hvisited⟩ := Progress.ofSavedText_eq_ok_iff.1 hsaved
  have hrendered : ((Engine.frameOf lampReader.renderer
      ((cellarSaver lampDoor.state).sceneOfSaved (cellarSave lampDoor.state) lampCellar)).outcome
        ⟨lampDoor.state, ()⟩).1
      = .ok
        { passage := { passage := 2, name := "Cellar", html := "There are steps.", links := [] }
          header := some { passage := 3, name := headerName, html := "3", links := [] }
          footer := none } := by
    rw [sceneOfSaved_cellarSaver]
    cbv
  have hfound : (cellarSave lampDoor.state).history.getLast?.bind lampStory.passage?
      = some lampCellar := rfl
  exact ⟨_, _, _, ⟨text, hget, hread⟩, hvisited, hfound,
    Engine.frameOf_eq_ok.1 (Prod.ext hrendered rfl), Prod.ext (MemoryHistory.accepts _ _ _) rfl⟩

/-- A saved game without gold in it fails at the header, although the cellar could be
    shown. -/
theorem restore_poor_cellarSaver : (cellarSaver []).restore.1
    = .error (.restoreFailed (EngineError.template (.unknownIdentifier "gold")).message) := by
  have hrendered : ((Engine.frameOf lampReader.renderer
      ((cellarSaver []).sceneOfSaved (cellarSave []) lampCellar)).outcome ⟨[], ()⟩).1
      = .error (.unknownIdentifier "gold") := by
    rw [sceneOfSaved_cellarSaver]
    cbv
  have hfound : (((cellarSaver []).notify .restoring).adopt (cellarSave [])).story.resolve (.id 2)
      = some lampCellar := rfl
  have hc : (((cellarSaver []).notify .restoring).adopt (cellarSave [])).CannotGo (.id 2) false
      .decide (.template (.unknownIdentifier "gold")) :=
    .unrendered hfound (Engine.frameOf_fails.1 ⟨_, Prod.ext hrendered rfl⟩)
  have hgo := hc.goTo_eq
  have hlast : (cellarSave []).last? = some 2 := rfl
  rw [Engine.restore_loaded (load_cellarSaver survives_nil) hlast]
  rcases hg : (((cellarSaver []).notify .restoring).adopt (cellarSave [])).goTo (.id 2) false
    .decide with ⟨err | _, after⟩
  · rw [hg] at hgo
    obtain rfl := Except.error.inj hgo
    rfl
  · rw [hg] at hgo
    cases hgo

/-- The one is restored to the cellar, the other leaves the reader where they were. -/
theorem restore_all_or_nothing_cellar :
    (∃ after, (cellarSaver lampDoor.state).restore = (.ok (), after)) ∧
    ∃ reason after, (cellarSaver []).restore = (.error (.restoreFailed reason), after) ∧
      after.place = lampReader.place ∧ after.state = lampReader.state ∧
      after.trace.getLast? = some (.restoreFailed reason) := by
  obtain ⟨frame, w, browser, hcan⟩ := canRestore_cellarSaver
  have hrich := (Engine.restore_all_or_nothing (cellarSaver lampDoor.state)).1
  have hpoor := (Engine.restore_all_or_nothing (cellarSaver [])).2.2
  have hrestored := hrich.2 ⟨_, _, frame, w, browser, hcan⟩
  have hfails := restore_poor_cellarSaver
  rcases hr : (cellarSaver lampDoor.state).restore with ⟨result, restored⟩
  rcases hp : (cellarSaver []).restore with ⟨result', after⟩
  rw [hr] at hrestored
  rw [hp] at hfails
  subst hrestored hfails
  obtain ⟨hplace, hstate, -, -, -, reason, told, herr, htrace⟩ := hpoor _ _ hp
  obtain rfl := EngineError.restoreFailed.inj herr
  refine ⟨⟨restored, rfl⟩, _, after, rfl, hplace, hstate, ?_⟩
  rw [htrace]
  exact List.getLast?_concat

end Hyperfiction
