import Hyperfiction.Proofs.Movement

/-! # Arriving

    After a navigation the entry it recorded and what is on screen belong together:
    showing the last passage of the entry again, from the entry's variables, comes to
    the same screen and the same variables. `Replays` says this of an entry and a view,
    for every memory that the evaluator may have by then, and two facts carry all that
    follows: every navigation lands on such a pair, and going to the last passage of
    such an entry lands on the same pair again.
-/

namespace Hyperfiction

variable {σ S H : Type}

/-! ## Section 1: Views -/

/-- What a reader sees, and the variables behind it. -/
structure View where
  state : StateBag
  passage : Option RenderedPassage
  header : Option RenderedPassage
  footer : Option RenderedPassage

/-- The view of a frame. -/
def Frame.view (frame : Frame) (state : StateBag) : View where
  state := state
  passage := some frame.passage
  header := frame.header
  footer := frame.footer

namespace Engine

/-- What the reader of an engine sees. -/
def view (e : Engine σ S H Screen) : View where
  state := e.state
  passage := e.display.passage
  header := e.display.header
  footer := e.display.footer

/-- No header and no footer stand on the screen of a story that has none. A frame
    without them leaves what stood there before. -/
def Tidy (e : Engine σ S H Screen) : Prop :=
  (e.story.header? = none → e.display.header = none) ∧
    (e.story.footer? = none → e.display.footer = none)

end Engine

theorem RendersOptional.none_iff {r : Renderer σ} {scene : Scene} {p : Option Passage}
    {w w' : World σ} {shown : Option RenderedPassage} (h : RendersOptional r scene p w shown w') :
    shown = none ↔ p = none := by
  cases h with
  | missing => simp
  | present h => simp

/-- What a frame leaves on a screen. -/
theorem Frame.showOn_screen (frame : Frame) (s : Screen) :
    (frame.showOn s).passage = some frame.passage ∧
      (frame.showOn s).header = frame.header.or s.header ∧
      (frame.showOn s).footer = frame.footer.or s.footer := by
  obtain ⟨main, header, footer⟩ := frame
  cases header <;> cases footer <;> exact ⟨rfl, rfl, rfl⟩

/-- A frame fills a screen on which nothing stands where the frame has nothing. -/
theorem Frame.showOn_fills {frame : Frame} {s : Screen}
    (hheader : frame.header = none → s.header = none)
    (hfooter : frame.footer = none → s.footer = none) :
    (frame.showOn s).header = frame.header ∧ (frame.showOn s).footer = frame.footer := by
  have hor : ∀ {shown stood : Option RenderedPassage}, (shown = none → stood = none) →
      shown.or stood = shown := by
    intro shown stood h
    cases shown with
    | some shown => rfl
    | none => exact h rfl
  obtain ⟨-, hh, hf⟩ := frame.showOn_screen s
  exact ⟨hh.trans (hor hheader), hf.trans (hor hfooter)⟩

namespace Engine

/-- A frame on a tidy screen is all that is seen, and the screen stays tidy. -/
theorem view_of_shown {e after : Engine σ S H Screen} {d : Screen} {frame : Frame}
    (hd : Dressed e.display d) (hshown : after.display = frame.showOn d)
    (hstory : after.story = e.story) (hheader : frame.header = none ↔ e.story.header? = none)
    (hfooter : frame.footer = none ↔ e.story.footer? = none) (ht : e.Tidy) :
    after.view = frame.view after.state ∧ after.Tidy := by
  obtain ⟨-, hstoodHeader, hstoodFooter, -⟩ := hd.screen
  -- a frame without a header leaves the screen's, and a tidy screen has none then
  obtain ⟨hheader', hfooter'⟩ := Frame.showOn_fills
    (fun hnone => hstoodHeader.trans (ht.1 (hheader.1 hnone)))
    (fun hnone => hstoodFooter.trans (ht.2 (hfooter.1 hnone)))
  have hpassage := (frame.showOn_screen d).1
  rw [← hshown] at hheader' hfooter' hpassage
  constructor
  · unfold Engine.view Frame.view
    rw [hpassage, hheader', hfooter']
  · unfold Tidy
    rw [hheader', hfooter', hstory]
    exact ⟨hheader.2, hfooter.2⟩

/-- On a tidy screen, a navigation leaves the view of its frame, and a tidy screen. -/
theorem Commits.view [BrowserHistory H] {e after : Engine σ S H Screen} {query : Query}
    {addToHistory : Bool} {action : HistoryAction} {passage : Passage} {frame : Frame}
    (hc : e.Commits query addToHistory action passage frame after) (ht : e.Tidy) :
    after.view = frame.view after.state ∧ after.Tidy := by
  obtain ⟨_, _, _, hheader, hfooter⟩ := hc.rendered
  exact view_of_shown (e.dressed_titled passage) hc.shown hc.same_story hheader.none_iff
    hfooter.none_iff ht

/-- So does an arrival, however it came about. -/
theorem Arrived.view {e after : Engine σ S H Screen} {passage : Passage} {frame : Frame}
    (h : e.Arrived after passage frame) (ht : e.Tidy) :
    after.view = frame.view after.state ∧ after.Tidy := by
  obtain ⟨d, hd, hshown⟩ := h.display
  obtain ⟨_, _, _, _, hheader, hfooter⟩ := h.rendered
  exact view_of_shown hd hshown h.story hheader.none_iff hfooter.none_iff ht

end Engine

/-! ## Section 2: Entries that replay -/

/-- Showing the last passage of `p` again, from the variables of `p`, comes to `view`,
    whatever the evaluator remembers by then; and it records `p` again, since a last
    passage that is a checkpoint is the checkpoint of `p` already. -/
def Replays (story : Story) (r : Renderer σ) (p : Progress) (view : View) : Prop :=
  ∃ passage frame, p.last? = some passage.id ∧ story.passage? passage.id = some passage ∧
    (checkpointTag ∈ passage.tags → p.checkpoint = passage.name) ∧
    view = frame.view view.state ∧
    ∀ m, ∃ m', RendersFrame r
      { passage, story, history := p.history, checkpoint := p.checkpoint }
      ⟨p.state, m⟩ frame ⟨view.state, m'⟩

theorem Replays.history_ne_nil {story : Story} {r : Renderer σ} {p : Progress} {view : View}
    (h : Replays story r p view) : p.history ≠ [] := by
  obtain ⟨passage, frame, hlast, -⟩ := h
  intro hnil
  unfold Progress.last? at hlast
  rw [hnil] at hlast
  cases hlast

namespace Engine

/-- An arrival leaves a progress that replays to what it shows. -/
theorem Arrived.replays {e after : Engine σ S H Screen} {passage : Passage} {frame : Frame}
    (h : e.Arrived after passage frame) (ht : e.Tidy) (hd : e.renderer.DeterminedOn e.story) :
    Replays e.story e.renderer after.progress after.view := by
  obtain ⟨m, hr⟩ := h.rendered
  refine ⟨passage, frame, h.last, h.found, h.checkpoint, (h.view ht).1, ?_⟩
  -- what was rendered on the way is rendered again with any other memory
  exact hr.again hd (Story.mem_of_passage? h.found)

/-! ## Section 3: What an operation does to the reader -/

variable [BrowserHistory H]

/-- Nothing that a reader sees or can go back to has changed. -/
structure Stays (e after : Engine σ S H Screen) : Prop where
  story : after.story = e.story
  renderer : after.renderer = e.renderer
  browser : after.browser = e.browser
  history : after.place.history = e.place.history
  passage : after.display.passage = e.display.passage
  header : after.display.header = e.display.header
  footer : after.display.footer = e.display.footer

/-- A navigation has landed: it recorded its progress in `browser`, and that entry
    replays to what is on screen. -/
structure Lands (browser : H) (e after : Engine σ S H Screen) : Prop where
  story : after.story = e.story
  renderer : after.renderer = e.renderer
  tidy : after.Tidy
  records : ∃ action,
    BrowserHistory.record browser action after.progress = (.ok (), after.browser)
  replays : Replays e.story e.renderer after.progress after.view

omit [BrowserHistory H] in
theorem Stays.refl (e : Engine σ S H Screen) : e.Stays e :=
  ⟨rfl, rfl, rfl, rfl, rfl, rfl, rfl⟩

omit [BrowserHistory H] in
theorem Stays.trans {e₁ e₂ e₃ : Engine σ S H Screen} (h : e₁.Stays e₂) (h' : e₂.Stays e₃) :
    e₁.Stays e₃ where
  story := h'.story.trans h.story
  renderer := h'.renderer.trans h.renderer
  browser := h'.browser.trans h.browser
  history := h'.history.trans h.history
  passage := h'.passage.trans h.passage
  header := h'.header.trans h.header
  footer := h'.footer.trans h.footer

omit [BrowserHistory H] in
theorem Stays.tidy {e after : Engine σ S H Screen} (h : e.Stays after) (ht : e.Tidy) :
    after.Tidy := by
  unfold Tidy
  rw [h.story, h.header, h.footer]
  exact ht

/-- Where a navigation started does not matter, as long as the story is the same. -/
theorem Lands.of_same {browser : H} {e₁ e₂ e₃ : Engine σ S H Screen} (h : e₂.Lands browser e₃)
    (hstory : e₂.story = e₁.story) (hrenderer : e₂.renderer = e₁.renderer) :
    e₁.Lands browser e₃ where
  story := h.story.trans hstory
  renderer := h.renderer.trans hrenderer
  tidy := h.tidy
  records := h.records
  replays := by
    rw [← hstory, ← hrenderer]
    exact h.replays

theorem stays_of_goTo_error [KeepsOnRefusal H] {e : Engine σ S H Screen} {query : Query}
    {addToHistory : Bool} {recording : Recording} {err : EngineError}
    (h : (e.goTo query addToHistory recording).1 = .error err) :
    e.Stays (e.goTo query addToHistory recording).2 := by
  obtain ⟨m, hm⟩ := goTo_error_eq h
  rw [hm]
  exact ⟨rfl, rfl, rfl, rfl, rfl, rfl, rfl⟩

/-! ## Section 4: Navigations land or stay -/

/-- An operation lands if it succeeds and stays if it fails. -/
inductive LandsOrStays {ε : Type} (e : Engine σ S H Screen) :
    Except ε Unit × Engine σ S H Screen → Prop where
  | lands {after : Engine σ S H Screen} :
      e.Lands e.browser after → LandsOrStays e (.ok (), after)
  | stays {after : Engine σ S H Screen} {err : ε} :
      e.Stays after → LandsOrStays e (.error err, after)

variable [KeepsOnRefusal H] {e : Engine σ S H Screen}

/-- Where refusals change nothing and the renderer is determined, an arrival lands, and
    the rest stays. -/
theorem ArrivesOrKeeps.landsOrStays {ε : Type} {result : Except ε Unit × Engine σ S H Screen}
    (h : e.ArrivesOrKeeps result) (ht : e.Tidy) (hd : e.renderer.DeterminedOn e.story) :
    e.LandsOrStays result := by
  cases h with
  | arrives ha hrefused hrecord =>
    rw [hrefused.eq] at hrecord
    exact .lands ⟨ha.story, ha.renderer, (ha.view ht).2, ⟨_, hrecord⟩, ha.replays ht hd⟩
  | keeps hk hrefused =>
    obtain ⟨hpassage, hheader, hfooter, -⟩ := hk.display.screen
    exact .stays ⟨hk.story, hk.renderer, hrefused.eq, hk.history, hpassage, hheader, hfooter⟩

omit [BrowserHistory H] [KeepsOnRefusal H] in
theorem stays_configured (e : Engine σ S H Screen) : e.Stays e.configured :=
  ⟨rfl, rfl, rfl, rfl, rfl, rfl, rfl⟩

/-! ## Section 5: Showing an entry again -/

omit [KeepsOnRefusal H] in
/-- Going to the last passage of an entry that replays shows the same view and records
    the same entry, if the history takes it. -/
theorem goTo_replayed (ht : e.Tidy) {p : Progress} {view : View}
    (hp : Replays e.story e.renderer p view) (recording : Recording)
    (accepted : ∀ action, (BrowserHistory.record e.browser action p).1 = .ok ()) :
    ∃ last passage after, p.last? = some last ∧ e.story.passage? last = some passage ∧
      (e.adopt p).goTo (.id last) false recording = (.ok (), after) ∧
      BrowserHistory.record e.browser (e.actionTo passage recording) p = (.ok (), after.browser) ∧
      after.progress = p ∧ after.view = view ∧ after.Tidy ∧
      after.story = e.story ∧ after.renderer = e.renderer ∧ after.store = e.store := by
  obtain ⟨passage, frame, hlast, hfound, hcheckpoint, hview, hrenders⟩ := hp
  obtain ⟨m', hrendered⟩ := hrenders e.memory
  have hresolve : (e.adopt p).story.resolve (.id passage.id) = some passage := hfound
  -- entering a checkpoint again names the checkpoint that `p` already has
  have hname : (if checkpointTag ∈ passage.tags then passage.name else p.checkpoint)
      = p.checkpoint := by
    by_cases htag : checkpointTag ∈ passage.tags
    · rw [if_pos htag, hcheckpoint htag]
    · rw [if_neg htag]
  have hscene : (e.adopt p).sceneOf passage false
      = { passage, story := e.story, history := p.history, checkpoint := p.checkpoint } := by
    rw [← hname]
    rfl
  have hentry : (e.adopt p).entryOf passage false = p := by
    unfold entryOf
    rw [hscene]
    rfl
  have hrecord : BrowserHistory.record e.browser (e.actionTo passage recording) p
      = (.ok (), (BrowserHistory.record e.browser (e.actionTo passage recording) p).2) :=
    Prod.ext (accepted _) rfl
  have hrecord' : BrowserHistory.record e.browser (e.actionTo passage recording)
      ((e.adopt p).entryOf passage false)
      = (.ok (), (BrowserHistory.record e.browser (e.actionTo passage recording) p).2) := by
    rw [hentry]
    exact hrecord
  rw [← hscene] at hrendered
  have hgo : (e.adopt p).goTo (.id passage.id) false recording = _ :=
    goTo_recorded hresolve hrendered hrecord'
  have hc := commits_arrivedAt (e := e.adopt p) hresolve hrendered hrecord'
  refine ⟨passage.id, passage, _, hlast, hfound, hgo, hrecord, hentry, ?_, (hc.view ht).2,
    rfl, rfl, rfl⟩
  rw [(hc.view ht).1, hview]
  rfl

end Engine

end Hyperfiction
