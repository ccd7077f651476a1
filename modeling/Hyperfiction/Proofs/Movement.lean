import Hyperfiction.Proofs.Determined
import Hyperfiction.Proofs.RollBack

/-! # Moving and staying

    Whatever an engine is asked to do, it either arrives at a passage by exactly one
    navigation, or the reader stays where they are. `Arrived` says what every arrival has
    in common: the last id of the history is that of a passage of the story, and a frame
    that was rendered for it, in one go, from the variables on entry, has been put on the
    display. `Unmoved` says what every operation without an arrival has in common. Of the
    browser's history an arrival leaves the one entry that it records; nothing else that is
    asked of it is taken. None of this needs anything of the evaluator, the store or the
    history: they may fail in any way.
-/

namespace Hyperfiction

variable {σ S H D : Type}

/-! ## Section 1: Queries -/

/-- Whichever way a passage was asked for, its id asks for it too. -/
theorem Story.passage?_of_resolve {story : Story} {query : Query} {p : Passage}
    (h : story.resolve query = some p) : story.passage? p.id = some p := by
  cases query with
  | id id => exact Story.passage?_of_mem (Story.mem_of_passage? h)
  | name name => exact Story.passage?_of_mem (Story.mem_of_passageNamed? h)

/-! ## Section 2: Displays -/

/-- The second display is the first one after titles and configurations, with nothing new
    to show. -/
inductive Dressed [Display D] : D → D → Prop where
  | refl (d : D) : Dressed d d
  | title {d d' : D} (text : String) : Dressed d d' → Dressed d (Display.setTitle text d')
  | config {d d' : D} (c : Config) : Dressed d d' → Dressed d (Display.applyConfig c d')

theorem Dressed.trans [Display D] {d₁ d₂ d₃ : D} (h : Dressed d₁ d₂) (h' : Dressed d₂ d₃) :
    Dressed d₁ d₃ := by
  induction h' with
  | refl => exact h
  | title text _ ih => exact .title text ih
  | config c _ ih => exact .config c ih

/-- A screen that is dressed shows what it showed before. -/
theorem Dressed.screen {s s' : Screen} (h : Dressed s s') :
    s'.passage = s.passage ∧ s'.header = s.header ∧ s'.footer = s.footer ∧
      s'.displays = s.displays := by
  induction h with
  | refl => exact ⟨rfl, rfl, rfl, rfl⟩
  | title text _ ih => exact ih
  | config c _ ih => exact ih

theorem Frame.displays_showOn (frame : Frame) (s : Screen) :
    (frame.showOn s).displays = s.displays + 1 := by
  obtain ⟨main, header, footer⟩ := frame
  cases header <;> cases footer <;> rfl

/-- A rendered passage says which passage it is. -/
theorem Renderer.passage_of_render {r : Renderer σ} {scene : Scene} {w w' : World σ}
    {shown : RenderedPassage} (h : (r.render scene).outcome w = (.ok shown, w')) :
    shown.passage = scene.passage.id := by
  obtain ⟨expanded, w₁, -, hfinish⟩ := Action.bind_eq_ok.1 h
  obtain ⟨hshown, -⟩ := Prod.mk.inj hfinish
  obtain rfl := Except.ok.inj hshown
  rfl

theorem RendersFrame.passage_id {r : Renderer σ} {scene : Scene} {w w' : World σ} {frame : Frame}
    (h : RendersFrame r scene w frame w') : frame.passage.passage = scene.passage.id := by
  obtain ⟨w₁, w₂, hmain, -, -⟩ := h
  exact Renderer.passage_of_render hmain

/-! ## Section 3: Histories that refuse -/

/-- The second history is what refusals have left of the first one. -/
inductive Refused [BrowserHistory H] : H → H → Prop where
  | refl (history : H) : Refused history history
  | refuse {first history : H} {action : HistoryAction} {p : Progress} {err : HistoryError} :
      Refused first history → (BrowserHistory.record history action p).1 = .error err →
      Refused first (BrowserHistory.record history action p).2

theorem Refused.trans [BrowserHistory H] {h₁ h₂ h₃ : H} (h : Refused h₁ h₂)
    (h' : Refused h₂ h₃) : Refused h₁ h₃ := by
  induction h' with
  | refl => exact h
  | refuse _ refused ih => exact .refuse ih refused

/-- Where refusals change nothing, they have left the same history. -/
theorem Refused.eq [BrowserHistory H] [KeepsOnRefusal H] {first history : H}
    (h : Refused first history) : history = first := by
  induction h with
  | refl => rfl
  | refuse _ refused ih => exact (KeepsOnRefusal.keeps _ _ _ _ refused).trans ih

namespace Engine

/-! ## Section 4: Arriving or not -/

/-- The reader is still where they were: nothing new has been shown. -/
structure Unmoved [Display D] (e after : Engine σ S H D) : Prop where
  story : after.story = e.story
  renderer : after.renderer = e.renderer
  history : after.place.history = e.place.history
  display : Dressed e.display after.display

/-- The reader has arrived at `passage`, where `frame` is shown. -/
structure Arrived [Display D] (e after : Engine σ S H D) (passage : Passage) (frame : Frame) :
    Prop where
  story : after.story = e.story
  renderer : after.renderer = e.renderer
  last : after.place.history.getLast? = some passage.id
  found : e.story.passage? passage.id = some passage
  checkpoint : checkpointTag ∈ passage.tags → after.place.checkpoint = passage.name
  /-- Passage, header and footer were rendered one after the other, from the variables on
      entry to those of now. -/
  rendered : ∃ m, RendersFrame e.renderer
    { passage, story := e.story, history := after.place.history
      checkpoint := after.place.checkpoint }
    ⟨after.place.entryState, m⟩ frame ⟨after.state, after.memory⟩
  display : ∃ d, Dressed e.display d ∧ after.display = frame.showOn d

variable [Display D]

theorem Unmoved.refl (e : Engine σ S H D) : e.Unmoved e :=
  ⟨rfl, rfl, rfl, .refl _⟩

theorem Unmoved.trans {e₁ e₂ e₃ : Engine σ S H D} (h : e₁.Unmoved e₂) (h' : e₂.Unmoved e₃) :
    e₁.Unmoved e₃ where
  story := h'.story.trans h.story
  renderer := h'.renderer.trans h.renderer
  history := h'.history.trans h.history
  display := h.display.trans h'.display

theorem unmoved_notify (e : Engine σ S H D) (event : Event) : e.Unmoved (e.notify event) :=
  ⟨rfl, rfl, rfl, .refl _⟩

/-- From where the reader sets out does not matter, as long as the story is the same and
    the display shows the same. -/
theorem Arrived.of_same {e₁ e₂ after : Engine σ S H D} {passage : Passage} {frame : Frame}
    (h : e₂.Arrived after passage frame) (hstory : e₂.story = e₁.story)
    (hrenderer : e₂.renderer = e₁.renderer) (hdisplay : Dressed e₁.display e₂.display) :
    e₁.Arrived after passage frame where
  story := h.story.trans hstory
  renderer := h.renderer.trans hrenderer
  last := h.last
  found := by
    rw [← hstory]
    exact h.found
  checkpoint := h.checkpoint
  rendered := by
    rw [← hstory, ← hrenderer]
    exact h.rendered
  display := by
    obtain ⟨d, hd, hshown⟩ := h.display
    exact ⟨d, hdisplay.trans hd, hshown⟩

/-- The checkpoint that a reader is at or has left, and the events told, are not part of
    an arrival. -/
theorem Arrived.atCheckpoint {e after : Engine σ S H D} {passage : Passage} {frame : Frame}
    (h : e.Arrived after passage frame) (atCheckpoint : Bool) :
    e.Arrived { after with place := { after.place with atCheckpoint } } passage frame :=
  ⟨h.story, h.renderer, h.last, h.found, h.checkpoint, h.rendered, h.display⟩

theorem Arrived.notify {e after : Engine σ S H D} {passage : Passage} {frame : Frame}
    (h : e.Arrived after passage frame) (event : Event) :
    e.Arrived (after.notify event) passage frame :=
  ⟨h.story, h.renderer, h.last, h.found, h.checkpoint, h.rendered, h.display⟩

/-- An operation arrives if it succeeds, after any refusals and with its progress recorded,
    and moves nothing if it fails. -/
inductive ArrivesOrKeeps [BrowserHistory H] {ε : Type} (e : Engine σ S H D) :
    Except ε Unit × Engine σ S H D → Prop where
  | arrives {after : Engine σ S H D} {passage : Passage} {frame : Frame} {browser : H}
      {action : HistoryAction} : e.Arrived after passage frame → Refused e.browser browser →
      BrowserHistory.record browser action after.progress = (.ok (), after.browser) →
      ArrivesOrKeeps e (.ok (), after)
  | keeps {after : Engine σ S H D} {err : ε} : e.Unmoved after →
      Refused e.browser after.browser → ArrivesOrKeeps e (.error err, after)

variable [BrowserHistory H]

/-- What is done first without moving the reader does not matter. -/
theorem ArrivesOrKeeps.after_unmoved {ε : Type} {e₁ e₂ : Engine σ S H D}
    {result : Except ε Unit × Engine σ S H D} (h : e₁.Unmoved e₂)
    (hb : Refused e₁.browser e₂.browser) (h' : e₂.ArrivesOrKeeps result) :
    e₁.ArrivesOrKeeps result := by
  cases h' with
  | arrives ha hrefused hrecord =>
    exact .arrives (ha.of_same h.story h.renderer h.display) (hb.trans hrefused) hrecord
  | keeps hk hrefused => exact .keeps (h.trans hk) (hb.trans hrefused)

/-! ## Section 5: One navigation -/

omit [BrowserHistory H] in
theorem dressed_titled (e : Engine σ S H D) (passage : Passage) :
    Dressed e.display (e.titled passage) := by
  unfold titled
  split
  · exact .title _ (.refl _)
  · exact .refl _

/-- The entry that a navigation records is the progress it leaves. -/
theorem Commits.records {e after : Engine σ S H D} {query : Query} {addToHistory : Bool}
    {action : HistoryAction} {passage : Passage} {frame : Frame}
    (hc : e.Commits query addToHistory action passage frame after) :
    BrowserHistory.record e.browser action after.progress = (.ok (), after.browser) := by
  unfold progress
  rw [hc.entered]
  exact hc.recorded

/-- A navigation whose history ends with the passage it goes to arrives. -/
theorem Commits.arrived {e after : Engine σ S H D} {query : Query} {addToHistory : Bool}
    {action : HistoryAction} {passage : Passage} {frame : Frame}
    (hc : e.Commits query addToHistory action passage frame after)
    (hlast : after.place.history.getLast? = some passage.id) :
    e.Arrived after passage frame where
  story := hc.same_story
  renderer := hc.same_renderer
  last := hlast
  found := Story.passage?_of_resolve hc.resolved
  checkpoint := by
    intro htag
    rw [hc.checkpoint, if_pos htag]
  rendered := by
    rw [hc.entered]
    exact ⟨e.memory, hc.rendered⟩
  display := ⟨e.titled passage, e.dressed_titled passage, hc.shown⟩

/-- A navigation that fails leaves place, variables, store and display alone. A history
    that refuses may change all the same. -/
theorem goTo_error_browser {e : Engine σ S H D} {query : Query} {addToHistory : Bool}
    {recording : Recording} {err : EngineError}
    (h : (e.goTo query addToHistory recording).1 = .error err) :
    ∃ m browser, Refused e.browser browser ∧ (e.goTo query addToHistory recording).2
      = { e with memory := m, browser, trace := e.trace ++ [.goingTo query] } := by
  cases goTo_fails_iff.1 h with
  | unresolved hq =>
    rw [goTo_unresolved hq]
    exact ⟨e.memory, e.browser, .refl _, rfl⟩
  | unrendered hq hf =>
    obtain ⟨m, h⟩ := goTo_unrendered recording hq hf
    rw [h]
    exact ⟨m, e.browser, .refl _, rfl⟩
  | @refused passage frame w herr hq hf hr =>
    rw [goTo_refused hq hf hr]
    exact ⟨w.memory, _, .refuse (.refl _) hr, rfl⟩

/-- A navigation arrives or moves nothing, if it goes to the passage that its history will
    end with. -/
theorem goTo_arrivesOrKeeps {e : Engine σ S H D} {query : Query} {addToHistory : Bool}
    (hlast : ∀ passage, e.story.resolve query = some passage →
      (if addToHistory then e.place.history ++ [passage.id] else e.place.history).getLast?
        = some passage.id) (recording : Recording) :
    e.ArrivesOrKeeps (e.goTo query addToHistory recording) := by
  rcases hg : e.goTo query addToHistory recording with ⟨err | _, after⟩
  · obtain ⟨m, browser, hrefused, hm⟩ := goTo_error_browser (congrArg Prod.fst hg)
    rw [hg] at hm
    obtain rfl : after = _ := hm
    exact .keeps ⟨rfl, rfl, rfl, .refl _⟩ hrefused
  · obtain ⟨passage, frame, hc⟩ := goTo_ok_commits hg
    have hends := hlast passage hc.resolved
    rw [← hc.history] at hends
    exact .arrives (hc.arrived hends) (.refl _) hc.records

/-- Going to a passage and adding it to the history. -/
theorem goToPassage_arrivesOrKeeps (e : Engine σ S H D) (query : Query) :
    e.ArrivesOrKeeps (e.goToPassage query true) := by
  refine goTo_arrivesOrKeeps ?_ .decide
  intro passage _
  rw [if_pos rfl]
  exact List.getLast?_concat

/-- Going back to the last passage of a progress that has been taken over, which is put
    back when that fails. -/
theorem goTo_adopted_arrivesOrKeeps (e : Engine σ S H D) {p : Progress} {last : PassageId}
    (hp : p.last? = some last) (recording : Recording) :
    e.ArrivesOrKeeps (match (e.adopt p).goTo (.id last) false recording with
      | (.ok _, after) => ((.ok (), after) : Except EngineError Unit × Engine σ S H D)
      | (.error err, after) => (.error err, e.rollBack after)) := by
  have hgo : (e.adopt p).ArrivesOrKeeps ((e.adopt p).goTo (.id last) false recording) := by
    refine goTo_arrivesOrKeeps ?_ recording
    intro passage hfound
    rw [Story.id_of_passage? hfound]
    exact hp
  rcases hg : (e.adopt p).goTo (.id last) false recording with ⟨err | _, after⟩
  · rw [hg] at hgo
    cases hgo with
    | keeps hk hrefused => exact .keeps ⟨hk.story, hk.renderer, rfl, hk.display⟩ hrefused
  · rw [hg] at hgo
    cases hgo with
    | arrives ha hrefused hrecord =>
      exact .arrives (ha.of_same rfl rfl (.refl _)) hrefused hrecord

/-! ## Section 6: The other operations -/

theorem begin_arrivesOrKeeps (e : Engine σ S H D) : e.ArrivesOrKeeps e.begin := by
  unfold begin goToStart
  have hgo := e.goToPassage_arrivesOrKeeps (.id e.story.start)
  rcases hg : e.goToPassage (.id e.story.start) true with ⟨err | _, after⟩
  · rw [hg] at hgo
    cases hgo with
    | keeps hk hrefused => exact .keeps hk hrefused
  · rw [hg] at hgo
    cases hgo with
    | arrives ha hrefused hrecord => exact .arrives (ha.atCheckpoint true) hrefused hrecord

/-- Following the browser to an entry with a progress. -/
theorem handlePop_entry_arrivesOrKeeps (e : Engine σ S H D) (p : Progress) :
    e.ArrivesOrKeeps (e.handlePop (some p)) := by
  cases hp : p.last? with
  | none =>
    rw [handlePop_empty e hp]
    exact .keeps (.refl e) (.refl _)
  | some last =>
    rw [handlePop_entry e hp]
    exact e.goTo_adopted_arrivesOrKeeps hp .replaceOnly

/-- Following the browser to a blank entry before anything has been visited. -/
theorem handlePop_blank_arrivesOrKeeps {e : Engine σ S H D} (h : e.place.history = []) :
    e.ArrivesOrKeeps (e.handlePop none) := by
  rw [handlePop_blank, if_pos (List.isEmpty_iff.2 h)]
  have hcleared : e.Unmoved e.cleared := ⟨rfl, rfl, h.symm, .refl _⟩
  exact .after_unmoved hcleared (.refl _)
    (e.cleared.goToPassage_arrivesOrKeeps (.id e.cleared.story.start))

/-- Following the browser to a blank entry later does nothing. -/
theorem handlePop_blank_visited {e : Engine σ S H D} (h : e.place.history ≠ []) :
    e.handlePop none = (.ok (), e) := by
  rw [handlePop_blank, if_neg fun hempty => h (List.isEmpty_iff.1 hempty)]

omit [BrowserHistory H] in
theorem unmoved_checkpoint (e : Engine σ S H D) (name : String) : e.Unmoved (e.checkpoint name) :=
  ⟨rfl, rfl, rfl, .title _ (.refl _)⟩

/-- The scene in which a passage is shown without going to it. -/
def asideScene (e : Engine σ S H D) (passage : Passage) : Scene where
  passage := passage
  story := e.story
  history := e.place.history
  checkpoint := e.place.checkpoint

omit [BrowserHistory H] [Display D] in
theorem showPassage_unresolved {e : Engine σ S H D} {query : Query}
    (h : e.story.resolve query = none) :
    e.showPassage query = (.error (.passageNotFound query), e.notify (.showing query)) := by
  unfold showPassage
  simp only [notify, h]

omit [BrowserHistory H] [Display D] in
theorem showPassage_resolved {e : Engine σ S H D} {query : Query} {passage : Passage}
    (h : e.story.resolve query = some passage) :
    e.showPassage query =
      match (e.renderer.render (e.asideScene passage)).outcome ⟨e.state, e.memory⟩ with
      | (.error err, w) =>
        (.error (.template err), { e.notify (.showing query) with memory := w.memory })
      | (.ok rendered, w) =>
        (.ok rendered,
          { e.notify (.showing query) with memory := w.memory, state := w.state }.notify
            (.shown rendered.passage)) := by
  unfold showPassage
  simp only [notify, h]
  rfl

omit [BrowserHistory H] [Display D] in
/-- Showing a passage writes the variables, the evaluator's memory and the trace. -/
theorem showPassage_leaves (e : Engine σ S H D) (query : Query) :
    ∃ state m trace, (e.showPassage query).2 = { e with state, memory := m, trace } := by
  cases hq : e.story.resolve query with
  | none =>
    rw [showPassage_unresolved hq]
    exact ⟨_, _, _, rfl⟩
  | some passage =>
    rw [showPassage_resolved hq]
    rcases (e.renderer.render (e.asideScene passage)).outcome ⟨e.state, e.memory⟩
      with ⟨err | rendered, w⟩
    · exact ⟨_, _, _, rfl⟩
    · exact ⟨_, _, _, rfl⟩

omit [BrowserHistory H] in
theorem unmoved_showPassage (e : Engine σ S H D) (query : Query) :
    e.Unmoved (e.showPassage query).2 := by
  obtain ⟨state, m, trace, hleaves⟩ := e.showPassage_leaves query
  rw [hleaves]
  exact ⟨rfl, rfl, rfl, .refl _⟩

variable [Storage S]

omit [BrowserHistory H] [Display D] in
/-- Either a saved game that has a last passage is loaded, or none is. -/
theorem loads_or_not (e : Engine σ S H D) :
    (∃ p last, Storage.load e.store e.saveKey = .ok p ∧ p.last? = some last) ∨
      ∀ p, Storage.load e.store e.saveKey = .ok p → p.last? = none := by
  cases hload : Storage.load e.store e.saveKey with
  | error err =>
    refine .inr ?_
    intro p h
    cases h
  | ok p =>
    cases hlast : p.last? with
    | some last => exact .inl ⟨p, last, rfl, hlast⟩
    | none =>
      refine .inr ?_
      intro q h
      obtain rfl := Except.ok.inj h
      exact hlast

/-- Restoring a saved game goes to its last passage from its variables, and rolls back
    when that fails. -/
theorem restore_loaded {e : Engine σ S H D} {p : Progress} {last : PassageId}
    (hload : Storage.load e.store e.saveKey = .ok p)
    (hlast : p.last? = some last) :
    e.restore =
      match ((e.notify .restoring).adopt p).goTo (.id last) false .decide with
      | (.ok _, after) => (.ok (), after.notify .restored)
      | (.error err, after) => (.error (.restoreFailed err.message),
          ((e.notify .restoring).rollBack after).notify (.restoreFailed err.message)) := by
  have hload' : Storage.load (e.notify .restoring).store (e.notify .restoring).saveKey = .ok p :=
    hload
  unfold restore tryRestore goToPassage
  rw [hload']
  dsimp only
  rw [hlast]
  dsimp only
  rcases ((e.notify .restoring).adopt p).goTo (.id last) false .decide with
    ⟨err | _, after⟩ <;> rfl

/-- Restoring where no saved game is loaded only tells that it failed. -/
theorem restore_unloaded {e : Engine σ S H D}
    (h : ∀ p, Storage.load e.store e.saveKey = .ok p → p.last? = none) :
    ∃ reason, e.restore = (.error (.restoreFailed reason),
      (e.notify .restoring).notify (.restoreFailed reason)) := by
  have h' : ∀ p, Storage.load (e.notify .restoring).store (e.notify .restoring).saveKey = .ok p →
      p.last? = none := h
  unfold restore tryRestore
  cases hload : Storage.load (e.notify .restoring).store (e.notify .restoring).saveKey with
  | error err => exact ⟨_, rfl⟩
  | ok p =>
    simp only [h' p hload]
    exact ⟨_, rfl⟩

theorem restore_arrivesOrKeeps (e : Engine σ S H D) : e.ArrivesOrKeeps e.restore := by
  rcases e.loads_or_not with ⟨p, last, hload, hlast⟩ | hnone
  · rw [restore_loaded hload hlast]
    have hgo := (e.notify .restoring).goTo_adopted_arrivesOrKeeps hlast .decide
    rcases hg : ((e.notify .restoring).adopt p).goTo (.id last) false .decide with
      ⟨err | _, after⟩
    · rw [hg] at hgo
      cases hgo with
      | keeps hk hrefused =>
        exact .keeps ((e.unmoved_notify _).trans (hk.trans (unmoved_notify _ _))) hrefused
    · rw [hg] at hgo
      cases hgo with
      | arrives ha hrefused hrecord =>
        have hset : e.Arrived _ _ _ := ha.of_same rfl rfl (.refl _)
        exact .arrives (hset.notify _) hrefused hrecord
  · obtain ⟨reason, hrestore⟩ := restore_unloaded hnone
    rw [hrestore]
    exact .keeps ((e.unmoved_notify _).trans (unmoved_notify _ _)) (.refl _)

/-- The engine once the display has the story's configuration. -/
def configured (e : Engine σ S H D) : Engine σ S H D :=
  { e with display := Display.applyConfig e.story.config e.display }

/-- Starts the session once the store has said whether it keeps a saved game. -/
def startFrom (kept : Except SlotError Bool) (e : Engine σ S H D) :
    Except EngineError Unit × Engine σ S H D :=
  match kept with
  | .ok true =>
    match e.restore with
    | (.ok _, after) => (.ok (), after)
    | (.error _, after) => after.begin
  | _ => e.begin

theorem play_eq (e : Engine σ S H D) :
    e.play = e.configured.startFrom (Storage.hasSave e.store e.saveKey) := rfl

/-- Without a saved game, play begins with the start. -/
theorem play_unsaved {e : Engine σ S H D}
    (h : Storage.hasSave e.store e.saveKey = .ok false) : e.play = e.configured.begin := by
  rw [play_eq, h]
  rfl

/-- Play restores the saved game, or begins if there is none or it cannot be restored. -/
theorem play_cases (e : Engine σ S H D) :
    e.play = e.configured.begin ∨
      (∃ after, e.configured.restore = (.ok (), after) ∧ e.play = (.ok (), after)) ∨
      (∃ err after, e.configured.restore = (.error err, after) ∧ e.play = after.begin) := by
  rw [play_eq]
  unfold startFrom
  split
  · rcases e.configured.restore with ⟨err | _, after⟩
    · exact .inr (.inr ⟨err, after, rfl, rfl⟩)
    · exact .inr (.inl ⟨after, rfl, rfl⟩)
  · exact .inl rfl

theorem play_arrivesOrKeeps (e : Engine σ S H D) : e.ArrivesOrKeeps e.play := by
  have hc : e.Unmoved e.configured := ⟨rfl, rfl, rfl, .config _ (.refl _)⟩
  have hrestore := e.configured.restore_arrivesOrKeeps
  rcases e.play_cases with h | ⟨after, hr, h⟩ | ⟨err, after, hr, h⟩
  · rw [h]
    exact .after_unmoved hc (.refl _) e.configured.begin_arrivesOrKeeps
  · rw [hr] at hrestore
    rw [h]
    cases hrestore with
    | arrives ha hrefused hrecord =>
      exact .after_unmoved hc (.refl _) (.arrives ha hrefused hrecord)
  · -- the saved game was refused, and play begins where the reader still is
    rw [hr] at hrestore
    rw [h]
    cases hrestore with
    | keeps hk hrefused => exact .after_unmoved (hc.trans hk) hrefused after.begin_arrivesOrKeeps

/-- What comes of a call of the store, with an event before it and another one after a
    success. -/
def afterCall (before after : Event) (call : Except SlotError Unit × S) (e : Engine σ S H D) :
    Except EngineError Unit × Engine σ S H D :=
  match call with
  | (.error err, store) => (.error (.persistence err), { e.notify before with store })
  | (.ok _, store) => (.ok (), { e.notify before with store }.notify after)

omit [BrowserHistory H] [Display D] in
theorem save_eq_afterCall (e : Engine σ S H D) :
    e.save = e.afterCall .saving .saved (Storage.save e.store e.saveKey e.progress) := rfl

omit [BrowserHistory H] [Display D] in
theorem reset_eq_afterCall (e : Engine σ S H D) :
    e.reset = e.afterCall .resetting .wasReset (Storage.clear e.store e.saveKey) := rfl

omit [Storage S] [BrowserHistory H] [Display D] in
/-- Calling the store writes nothing else but the trace. -/
theorem afterCall_leaves (before after : Event) (call : Except SlotError Unit × S)
    (e : Engine σ S H D) :
    ∃ store trace, (e.afterCall before after call).2 = { e with store, trace } := by
  rcases call with ⟨err | _, store⟩
  · exact ⟨_, _, rfl⟩
  · exact ⟨_, _, rfl⟩

omit [BrowserHistory H] [Display D] in
theorem save_leaves (e : Engine σ S H D) : ∃ store trace, e.save.2 = { e with store, trace } := by
  rw [save_eq_afterCall]
  exact afterCall_leaves _ _ _ e

omit [BrowserHistory H] [Display D] in
theorem reset_leaves (e : Engine σ S H D) :
    ∃ store trace, e.reset.2 = { e with store, trace } := by
  rw [reset_eq_afterCall]
  exact afterCall_leaves _ _ _ e

omit [BrowserHistory H] in
theorem unmoved_save (e : Engine σ S H D) : e.Unmoved e.save.2 := by
  obtain ⟨store, trace, hleaves⟩ := e.save_leaves
  rw [hleaves]
  exact ⟨rfl, rfl, rfl, .refl _⟩

omit [BrowserHistory H] in
theorem unmoved_reset (e : Engine σ S H D) : e.Unmoved e.reset.2 := by
  obtain ⟨store, trace, hleaves⟩ := e.reset_leaves
  rw [hleaves]
  exact ⟨rfl, rfl, rfl, .refl _⟩

end Engine

end Hyperfiction
