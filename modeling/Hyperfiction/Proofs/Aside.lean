import Hyperfiction.Proofs.Resume
import Hyperfiction.Proofs.Script.Calls

/-! # What happens aside

    Between two navigations a passage may be shown aside, and a checkpoint may be
    named by hand. A saved game holds the variables as they were before the passage on
    screen was rendered, so of the variables it brings back only what showing that
    passage again makes of them; and the checkpoint it brings back is the passage's own
    if the passage is one. This module says exactly when a save and a restore lose
    nothing, and gives a story in which they do: what a passage shown aside writes is
    gone.
-/

namespace Hyperfiction

variable {σ S H : Type}

/-! ## Section 1: Steps aside -/

/-- A step that shows a passage without going to it, or names a checkpoint by hand. -/
def Step.isAside : Step → Bool
  | .showPassage _ | .checkpoint _ => true
  | _ => false

namespace Engine

/-- `after` differs from `e` by steps aside: the reader is still at the same passage, and
    it was entered from the same variables. -/
structure Aside (e after : Engine σ S H Screen) : Prop where
  stays : e.Stays after
  entryState : after.place.entryState = e.place.entryState
  store : after.store = e.store

theorem Aside.refl (e : Engine σ S H Screen) : e.Aside e :=
  ⟨.refl e, rfl, rfl⟩

theorem Aside.trans {e₁ e₂ e₃ : Engine σ S H Screen} (h : e₁.Aside e₂) (h' : e₂.Aside e₃) :
    e₁.Aside e₃ where
  stays := h.stays.trans h'.stays
  entryState := h'.entryState.trans h.entryState
  store := h'.store.trans h.store

variable [Storage S] [BrowserHistory H] [Travel H]

omit [Storage S] [BrowserHistory H] [Travel H] in
theorem aside_showPassage (e : Engine σ S H Screen) (query : Query) :
    e.Aside (e.showPassage query).2 := by
  refine ⟨e.stays_showPassage query, ?_, ?_⟩
  · unfold showPassage
    dsimp only
    split
    · rfl
    · split <;> rfl
  · unfold showPassage
    dsimp only
    split
    · rfl
    · split <;> rfl

omit [Storage S] [BrowserHistory H] [Travel H] in
/-- A passage shown aside leaves the variables as its template does. -/
theorem showPassage_ok {e : Engine σ S H Screen} {query : Query} {passage : Passage}
    {shown : RenderedPassage} {w : World σ} (hq : e.story.resolve query = some passage)
    (hr : (e.renderer.render
      { passage, story := e.story, history := e.place.history
        checkpoint := e.place.checkpoint }).outcome ⟨e.state, e.memory⟩ = (.ok shown, w)) :
    e.showPassage query = (.ok shown,
      { e.notify (.showing query) with memory := w.memory, state := w.state }.notify
        (.shown shown.passage)) := by
  unfold showPassage notify
  dsimp only
  rw [hq]
  dsimp only
  rw [hr]

theorem step_aside {s : Step} (hs : s.isAside = true) (e : Engine σ S H Screen) :
    e.Aside (e.step s).2 := by
  cases s with
  | showPassage query =>
    rw [step_showPassage]
    exact e.aside_showPassage query
  | checkpoint name => exact ⟨⟨rfl, rfl, rfl, rfl, rfl, rfl, rfl⟩, rfl, rfl⟩
  | _ => cases hs

theorem run_aside (e : Engine σ S H Screen) (steps : List Step)
    (hs : ∀ s ∈ steps, s.isAside = true) : e.Aside (e.run steps) := by
  induction steps using List.reverseRecOn with
  | nil => exact .refl e
  | append_singleton steps s ih =>
    rw [run_snoc]
    have hbefore := ih fun t ht => hs t (List.mem_append_left _ ht)
    exact hbefore.trans (step_aside (hs s (by simp)) _)

end Engine

/-! ## Section 2: Entering a passage again -/

/-- The checkpoint after a passage has been entered with another one. -/
def Passage.checkpointAfter (p : Passage) (checkpoint : String) : String :=
  if checkpointTag ∈ p.tags then p.name else checkpoint

/-- Entering the last passage of `p` again, from the variables of `p` and with this memory,
    is rendered, and leaves the variables `state` and the checkpoint `checkpoint`. -/
def Reenters (story : Story) (r : Renderer σ) (p : Progress) (m : σ) (state : StateBag)
    (checkpoint : String) : Prop :=
  ∃ last passage frame m', p.last? = some last ∧ story.passage? last = some passage ∧
    checkpoint = passage.checkpointAfter p.checkpoint ∧
    RendersFrame r { passage, story, history := p.history, checkpoint }
      ⟨p.state, m⟩ frame ⟨state, m'⟩

/-- Entering a passage that the story has is rendering it with the checkpoint after it. -/
theorem reenters_found_iff {story : Story} {r : Renderer σ} {p : Progress} {m : σ}
    {state : StateBag} {checkpoint : String} {last : PassageId} {passage : Passage}
    (hlast : p.last? = some last) (hfound : story.passage? last = some passage) :
    Reenters story r p m state checkpoint ↔
      checkpoint = passage.checkpointAfter p.checkpoint ∧ ∃ frame m', RendersFrame r
        { passage, story, history := p.history
          checkpoint := passage.checkpointAfter p.checkpoint } ⟨p.state, m⟩ frame ⟨state, m'⟩ := by
  constructor
  · rintro ⟨last', passage', frame, m', hlast', hfound', rfl, hrendered⟩
    obtain rfl := Option.some.inj (hlast.symm.trans hlast')
    obtain rfl := Option.some.inj (hfound.symm.trans hfound')
    exact ⟨rfl, frame, m', hrendered⟩
  · rintro ⟨rfl, frame, m', hrendered⟩
    exact ⟨last, passage, frame, m', hlast, hfound, rfl, hrendered⟩

/-- With one memory, entering a passage again comes to one thing. -/
theorem Reenters.unique {story : Story} {r : Renderer σ} {p : Progress} {m : σ}
    {state state' : StateBag} {checkpoint checkpoint' : String}
    (h : Reenters story r p m state checkpoint) (h' : Reenters story r p m state' checkpoint') :
    state = state' ∧ checkpoint = checkpoint' := by
  obtain ⟨last, passage, frame, n, hlast, hfound, rfl, hrendered⟩ := h
  obtain ⟨rfl, frame', n', hrendered'⟩ := (reenters_found_iff hlast hfound).1 h'
  have hsame := (Engine.frameOf_eq_ok.2 hrendered).symm.trans (Engine.frameOf_eq_ok.2 hrendered')
  exact ⟨congrArg World.state (Prod.mk.inj hsame).2, rfl⟩

namespace Engine

variable [Storage S] [BrowserHistory H]

/-- The variables and the checkpoint of `e` are those of `before`. -/
def Recovers (before e : Engine σ S H Screen) : Prop :=
  e.state = before.state ∧ e.place.checkpoint = before.place.checkpoint

/-- A saved game whose last passage can be entered again is restored by doing so. -/
theorem restore_of_reenters [Accepting H] {e : Engine σ S H Screen} {p : Progress}
    (hload : Storage.load e.store e.saveKey = .ok p) {state : StateBag} {checkpoint : String}
    (h : Reenters e.story e.renderer p e.memory state checkpoint) :
    e.restore.1 = .ok () ∧ e.restore.2.state = state ∧
      e.restore.2.place.checkpoint = checkpoint := by
  obtain ⟨last, passage, frame, m', hlast, hfound, hcheckpoint, hrendered⟩ := h
  have hscene : ((e.notify .restoring).adopt p).sceneOf passage false
      = { passage, story := e.story, history := p.history, checkpoint } := by
    rw [hcheckpoint]
    rfl
  rw [← hscene] at hrendered
  have hrecord : ∀ action, BrowserHistory.record e.browser action
      (((e.notify .restoring).adopt p).entryOf passage false) = (.ok (), (BrowserHistory.record
        e.browser action (((e.notify .restoring).adopt p).entryOf passage false)).2) :=
    fun action => Prod.ext (Accepting.accepts _ _ _) rfl
  have hgo : ((e.notify .restoring).adopt p).goTo (.id last) false .decide = _ :=
    goTo_recorded hfound hrendered (hrecord _)
  rw [restore_loaded hload hlast, hgo]
  refine ⟨rfl, rfl, ?_⟩
  rw [hcheckpoint]
  rfl

/-- A restore that succeeds has entered the passage of the saved game again. -/
theorem reenters_of_restore {e after : Engine σ S H Screen}
    (h : e.restore = (.ok (), after)) :
    ∃ p, Storage.load e.store e.saveKey = .ok p ∧
      Reenters e.story e.renderer p e.memory after.state after.place.checkpoint := by
  rcases e.loads_or_not with ⟨p, last, hload, hlast⟩ | hnone
  · rw [restore_loaded hload hlast] at h
    rcases hg : ((e.notify .restoring).adopt p).goTo (.id last) false .decide with
      ⟨err | _, there⟩
    · simp [hg] at h
    · rw [hg] at h
      obtain ⟨-, rfl⟩ := Prod.mk.inj h
      obtain ⟨passage, frame, hc⟩ := goTo_ok_commits hg
      have hrendered := hc.rendered
      rw [hc.history] at hrendered
      exact ⟨p, hload, last, passage, frame, there.memory, hlast, hc.resolved, hc.checkpoint,
        hrendered⟩
  · obtain ⟨reason, hrestore⟩ := restore_unloaded hnone
    simp [hrestore] at h

/-- A restore that fails has changed neither the variables nor the checkpoint. -/
theorem recovers_of_restore_fails {e after : Engine σ S H Screen} {err : EngineError}
    (h : e.restore = (.error err, after)) : e.Recovers after := by
  rcases e.loads_or_not with ⟨p, last, hload, hlast⟩ | hnone
  · rw [restore_loaded hload hlast] at h
    rcases hg : ((e.notify .restoring).adopt p).goTo (.id last) false .decide with
      ⟨err | _, there⟩
    · -- what was taken over from the saved game has been rolled back
      rw [hg] at h
      obtain ⟨-, rfl⟩ := Prod.mk.inj h
      exact ⟨rfl, rfl⟩
    · simp [hg] at h
  · obtain ⟨reason, hrestore⟩ := restore_unloaded hnone
    rw [hrestore] at h
    obtain ⟨-, rfl⟩ := Prod.mk.inj h
    exact ⟨rfl, rfl⟩

/-- A restore that succeeds recovers the variables and the checkpoint exactly when entering
    the passage of the saved game again comes to them. -/
theorem restore_recovers_iff {e after : Engine σ S H Screen}
    (h : e.restore = (.ok (), after)) :
    e.Recovers after ↔
      ∀ p, Storage.load e.store e.saveKey = .ok p → ∀ state checkpoint,
        Reenters e.story e.renderer p e.memory state checkpoint →
        state = e.state ∧ checkpoint = e.place.checkpoint := by
  obtain ⟨p, hload, hr⟩ := reenters_of_restore h
  constructor
  · rintro ⟨hstate, hcheckpoint⟩ q hload' state checkpoint hr'
    obtain rfl := Except.ok.inj (hload.symm.trans hload')
    obtain ⟨hsame, hsame'⟩ := hr.unique hr'
    exact ⟨hsame.symm.trans hstate, hsame'.symm.trans hcheckpoint⟩
  · intro hall
    exact hall p hload _ _ hr

end Engine

/-! ## Section 3: After a navigation -/

/-- Entering the last passage of a replaying entry again, with the entry's checkpoint or
    into a passage that is a checkpoint, comes to the entry's view and its checkpoint. -/
theorem Replays.reenters_iff {story : Story} {r : Renderer σ} {p : Progress} {view : View}
    (hp : Replays story r p view) (hd : r.DeterminedOn story) {passage : Passage}
    (hlast : p.last?.bind story.passage? = some passage) {checkpoint : String}
    (hc : checkpointTag ∈ passage.tags ∨ checkpoint = p.checkpoint) (m : σ) (state : StateBag)
    (after : String) :
    Reenters story r { p with checkpoint } m state after ↔
      state = view.state ∧ after = p.checkpoint := by
  obtain ⟨last, frame, hplast, hfound, hname, -, hrenders⟩ := hp
  rw [hplast, Option.bind_some, hfound] at hlast
  obtain rfl := Option.some.inj hlast
  have hafter : last.checkpointAfter checkpoint = p.checkpoint := by
    unfold Passage.checkpointAfter
    by_cases htag : checkpointTag ∈ last.tags
    · rw [if_pos htag, hname htag]
    · rw [if_neg htag]
      exact hc.resolve_left htag
  obtain ⟨m', hrendered⟩ := hrenders m
  rw [reenters_found_iff (p := { p with checkpoint }) hplast hfound]
  dsimp only
  rw [hafter]
  constructor
  · rintro ⟨rfl, frame', m'', hrendered'⟩
    -- both frames are rendered from the same variables with the same memory
    have hsame := hrendered.unique hd (Story.mem_of_passage? hfound) hrendered'
    exact ⟨hsame.2.symm, rfl⟩
  · rintro ⟨rfl, rfl⟩
    exact ⟨rfl, frame, m', hrendered⟩

namespace Engine

/-- What a save made now and restored at once keeps of the variables and the checkpoint:
    `a` is the engine after the last navigation, to `passage`, and `b` the engine now. The
    passage is entered again as it was from `a`, unless a new name of the checkpoint has
    come up since which the passage does not replace by its own. -/
def NothingLost (passage : Passage) (a b : Engine σ S H Screen) : Prop :=
  if checkpointTag ∈ passage.tags ∨ b.place.checkpoint = a.place.checkpoint then a.Recovers b
  else ∀ frame w, RendersFrame a.renderer
    { passage, story := a.story, history := a.place.history, checkpoint := b.place.checkpoint }
    ⟨a.place.entryState, b.memory⟩ frame w → w.state = b.state

/-- Entering the passage again comes to the variables and the checkpoint of now exactly
    when nothing is lost. -/
theorem reenters_nothingLost {a b : Engine σ S H Screen}
    (hp : Replays a.story a.renderer a.progress a.view) (hd : a.renderer.DeterminedOn a.story)
    (hb : a.Aside b) {passage : Passage} (hpassage : a.currentPassage? = some passage) :
    (∀ state checkpoint, Reenters a.story a.renderer b.progress b.memory state checkpoint →
      state = b.state ∧ checkpoint = b.place.checkpoint) ↔ NothingLost passage a b := by
  have hprogress : b.progress = { a.progress with checkpoint := b.place.checkpoint } := by
    unfold progress
    rw [hb.entryState, hb.stays.history]
  rw [hprogress]
  unfold NothingLost
  by_cases hc : checkpointTag ∈ passage.tags ∨ b.place.checkpoint = a.place.checkpoint
  · -- the passage is entered with the checkpoint of `a`, as it was from there
    rw [if_pos hc]
    have hiff := hp.reenters_iff hd hpassage hc b.memory
    constructor
    · intro h
      obtain ⟨hstate, hcheckpoint⟩ := h _ _ ((hiff _ _).2 ⟨rfl, rfl⟩)
      exact ⟨hstate.symm, hcheckpoint.symm⟩
    · rintro ⟨hstate, hcheckpoint⟩ state checkpoint hr
      obtain ⟨rfl, rfl⟩ := (hiff _ _).1 hr
      exact ⟨hstate.symm, hcheckpoint.symm⟩
  · -- the new name stays, and the passage may read it, so what it makes of it decides
    rw [if_neg hc]
    have huntagged : passage.checkpointAfter b.place.checkpoint = b.place.checkpoint :=
      if_neg fun htag => hc (.inl htag)
    obtain ⟨last, hlast, hfound⟩ := Option.bind_eq_some_iff.1 hpassage
    have hiff : ∀ state checkpoint, Reenters a.story a.renderer
        { a.progress with checkpoint := b.place.checkpoint } b.memory state checkpoint ↔ _ :=
      fun state checkpoint => reenters_found_iff hlast hfound
    constructor
    · intro h frame w hrendered
      refine (h w.state b.place.checkpoint ((hiff _ _).2 ⟨huntagged.symm, frame, w.memory, ?_⟩)).1
      dsimp only
      rw [huntagged]
      exact hrendered
    · intro h state checkpoint hr
      obtain ⟨rfl, frame, m', hrendered⟩ := (hiff _ _).1 hr
      dsimp only at hrendered ⊢
      rw [huntagged] at hrendered ⊢
      exact ⟨h frame _ hrendered, rfl⟩

/-! ## Section 4: What a save keeps -/

variable [Storage S] [BrowserHistory H] [Travel H]

omit [Travel H] in
/-- A save restored at once recovers the variables and the checkpoint exactly when entering
    the passage of the saved game again comes to them, whatever has happened before. -/
theorem restore_saved_recovers_iff [ReadsBack S] {e saved after : Engine σ S H Screen}
    (hsave : e.save = (.ok (), saved)) (hrestore : saved.restore = (.ok (), after)) :
    e.Recovers after ↔
      ∀ p, Progress.ofSavedText e.progress.savedText = .ok p → ∀ state checkpoint,
        Reenters e.story e.renderer p e.memory state checkpoint →
        state = e.state ∧ checkpoint = e.place.checkpoint := by
  obtain ⟨store, hset, rfl⟩ := saved_of_save hsave
  refine (restore_recovers_iff hrestore).trans ?_
  exact forall_congr' fun p => imp_congr_left (load_saved hset p)

/-- The session of `first` has come to `a` by a navigation, and from there to `e` by
    showing passages and naming checkpoints. -/
structure Lingers (first a e : Engine σ S H Screen) : Prop where
  fresh : IsFresh first
  arrived : ∃ (steps : List Step) (s : Step) (browser : H),
    s.Navigates (first.run steps).browser browser ∧ (first.run steps).step s = (.done, a)
  aside : ∃ asides : List Step, (∀ t ∈ asides, t.isAside = true) ∧ e = a.run asides

/-- Where the reader lingers, entering the passage again comes to the last navigation. -/
theorem Lingers.replays [KeepsOnRefusal H] {first a e : Engine σ S H Screen}
    (h : first.Lingers a e) (hd : first.renderer.DeterminedOn first.story) :
    a.Aside e ∧ a.renderer.DeterminedOn a.story ∧
      Replays a.story a.renderer a.progress a.view := by
  obtain ⟨hf, ⟨steps, s, browser, hs, ha⟩, asides, hasides, rfl⟩ := h
  obtain ⟨-, hda, hreplays⟩ := arrives_of_navigates hf hd hs ha
  exact ⟨run_aside a asides hasides, hda, hreplays⟩

/-- **What a save keeps of what happened aside.** Let an engine be saved and restored at
    once. A restore that fails loses nothing. One that succeeds brings back the variables
    and the checkpoint exactly when entering the passage of the saved game again comes to
    them. And where the session has come to a passage by a navigation, in a story that
    never calls `either`, and passages were shown and checkpoints named since, it brings
    them back exactly when nothing is lost, provided that the variables on entry survive as
    JSON: if the passage is a checkpoint, or the checkpoint is still called the same, what
    happened aside must have left both as the navigation did. -/
theorem save_restore_recovers_iff [ReadsBack S] [KeepsOnRefusal H] {helpers : HelperSet σ}
    (hh : helpers.DeterminedBut "either") {first e saved : Engine σ S H Screen}
    (he : first.renderer.evaluator = Script.evaluator helpers)
    (hn : Script.StoryAvoids helpers "either" first.story) (hsave : e.save = (.ok (), saved)) :
    (∀ err after, saved.restore = (.error err, after) → e.Recovers after) ∧
      ∀ after, saved.restore = (.ok (), after) →
        (e.Recovers after ↔
          ∀ p, Progress.ofSavedText e.progress.savedText = .ok p → ∀ state checkpoint,
            Reenters e.story e.renderer p e.memory state checkpoint →
            state = e.state ∧ checkpoint = e.place.checkpoint) ∧
        ∀ a, first.Lingers a e → StateBag.Survives a.place.entryState →
          ∃ passage, a.currentPassage? = some passage ∧
            (e.Recovers after ↔ NothingLost passage a e) := by
  constructor
  · intro err after hrestore
    obtain ⟨store, -, rfl⟩ := saved_of_save hsave
    obtain ⟨hstate, hcheckpoint⟩ := recovers_of_restore_fails hrestore
    exact ⟨hstate, hcheckpoint⟩
  intro after hrestore
  have hiff := restore_saved_recovers_iff hsave hrestore
  refine ⟨hiff, ?_⟩
  intro a hl hsurvives
  obtain ⟨hb, hd, hreplays⟩ := hl.replays (Script.determinedOn_of_avoids hh hn he)
  obtain ⟨passage, -, hlast, hfound, -⟩ := id hreplays
  have hpassage : a.currentPassage? = some passage := by
    unfold currentPassage? Place.current?
    have hlast' : a.place.history.getLast? = some passage.id := hlast
    rw [hlast', Option.bind_some, hfound]
  refine ⟨passage, hpassage, ?_⟩
  -- the saved game is the progress of now: the entry of the navigation, but for the checkpoint
  have hsaved : Progress.ofSavedText e.progress.savedText = .ok e.progress := by
    refine Progress.ofSavedText_savedText ?_ ?_
    · have hentry : e.progress.state = a.place.entryState := hb.entryState
      rw [hentry]
      exact hsurvives
    · have hhistory : e.progress.history = a.place.history := hb.stays.history
      rw [hhistory]
      exact hreplays.history_ne_nil
  rw [hiff, ← reenters_nothingLost hreplays hd hb hpassage, hb.stays.story, hb.stays.renderer]
  constructor
  · intro h
    exact h _ hsaved
  · intro h p hp
    obtain rfl := Except.ok.inj (hsaved.symm.trans hp)
    exact h

end Engine

/-! ## Section 5: A clue is forgotten -/

/-- The passage at which that story starts. -/
def clueStart : Passage where
  id := 1
  name := "Start"
  tags := []
  source := "Here."

/-- A clue that is noted when it is shown. -/
def clueNote : Passage where
  id := 2
  name := "Clue"
  tags := []
  source := "&lt;% story.state.n = 1 %&gt;A clue."

/-- A story of these two passages. -/
def clueStory : Story where
  name := "Clues"
  ifid := none
  creator := none
  creatorVersion := none
  start := 1
  passages := .ofList [clueStart, clueNote]
  config := {}
  passages_agree := PassageIndex.agrees_ofList _
  start_exists := by decide

/-- A reader of that story before anything has been done. -/
def clueFirst : Engine Random.Generator MemoryStore MemoryHistory Screen where
  story := clueStory
  renderer := { evaluator := Script.evaluator HelperSet.builtins, markup := .plain }
  memory := .ofSeed 0
  store := {}
  browser := .fresh
  display := {}

/-- The script of the clue. -/
def clueProgram : Script.Program where
  functions := []
  body :=
    [.assign (.chain (.variable "story") [.property "state" false, .property "n" false]) none
      (.int 1)]

theorem parse_clueProgram :
    Script.Program.parse [Script.passageName, Script.storyName] "story.state.n = 1"
      = .ok clueProgram := by
  have htokens : Script.Token.list "story.state.n = 1".toList
      = [.name "story", .symbol ".", .name "state", .symbol ".", .name "n", .symbol "=", .int 1] := by
    cbv
  unfold Script.Program.parse
  rw [htokens]
  rfl

theorem parse_clueStart : Template.parse clueStart.text = .ok [.literal "Here."] := by
  cbv

theorem parse_clueNote :
    Template.parse clueNote.text = .ok [.statement "story.state.n = 1", .literal "A clue."] := by
  cbv

theorem clueProgram_avoids (scene : Scene) :
    Script.SourceAvoids HelperSet.builtins "either" scene "story.state.n = 1" := by
  intro program state hp
  obtain rfl := Except.ok.inj (parse_clueProgram.symm.trans hp)
  -- the one statement of the program assigns a number, whatever the story's variables are
  unfold Script.Program.run Script.stepLimit
  have hexec : Script.Exec.Avoids "either" (Script.Exec.execAll (999998 + 2)
      { program := clueProgram, helpers := Table.keys HelperSet.builtins } 0
      clueProgram.body) := by
    unfold clueProgram Script.Exec.execAll
    exact .assign (.properties ["state", "n"] _ (by decide))
  exact hexec.whole _

theorem clueStory_avoids : Script.StoryAvoids HelperSet.builtins "either" clueStory := by
  intro scene _ hmem t ht use huse
  have hpassage : scene.passage = clueStart ∨ scene.passage = clueNote := by
    have hlist : clueStory.passages.toList = [clueStart, clueNote] := rfl
    rw [hlist] at hmem
    simpa using hmem
  rcases hpassage with hstart | hnote
  · rw [hstart, parse_clueStart] at ht
    obtain rfl := Except.ok.inj ht
    cases huse
  · rw [hnote, parse_clueNote] at ht
    obtain rfl := Except.ok.inj ht
    obtain rfl : use = .executed "story.state.n = 1" := by
      simpa [Template.uses, Template.segmentUses] using huse
    exact clueProgram_avoids scene

/-- The scene of one of the passages after the story has started. -/
def clueScene (p : Passage) (checkpoint : String) : Scene where
  passage := p
  story := clueStory
  history := [1]
  checkpoint := checkpoint

theorem execute_clueProgram (m : Random.Generator) :
    (clueFirst.renderer.evaluator.execute (clueScene clueNote "") "story.state.n = 1").outcome
      ⟨[], m⟩ = (.ok (), ⟨[("n", .int 1)], m⟩) := by
  refine Action.bind_eq_ok.2 ⟨.unit, ⟨[("n", .int 1)], m⟩, ?_, rfl⟩
  rw [Script.runCode_outcome parse_clueProgram]
  cbv

theorem render_clueNote (m : Random.Generator) : ∃ shown,
    (clueFirst.renderer.render (clueScene clueNote "")).outcome ⟨[], m⟩
      = (.ok shown, ⟨[("n", .int 1)], m⟩) := by
  refine ⟨clueFirst.renderer.finish clueNote "A clue.", ?_⟩
  refine Action.bind_eq_ok.2 ⟨"A clue.", _, ?_, rfl⟩
  have htext : (clueScene clueNote "").passage.text = clueNote.text := rfl
  unfold Renderer.expand Evaluator.expandText
  rw [htext, parse_clueNote]
  refine Action.bind_eq_ok.2 ⟨"A clue.".toList, _, ?_, by rw [String.ofList_toList]; rfl⟩
  -- the statement shows nothing and writes the variable, and then comes the text
  refine Action.bind_eq_ok.2 ⟨[], _, Action.bind_eq_ok.2 ⟨(), _, execute_clueProgram m, rfl⟩, ?_⟩
  refine Action.bind_eq_ok.2 ⟨"A clue.".toList, _, ?_, rfl⟩
  refine Action.bind_eq_ok.2 ⟨"A clue.".toList, _, rfl, ?_⟩
  exact Action.bind_eq_ok.2 ⟨[], _, rfl, by simp⟩

theorem clueStart_reenters (checkpoint : String) (m : Random.Generator) :
    Reenters clueStory clueFirst.renderer { state := [], history := [1], checkpoint } m []
      checkpoint := by
  have hheader : clueStory.header? = none := by decide
  have hfooter : clueStory.footer? = none := by decide
  refine ⟨1, clueStart, ⟨clueFirst.renderer.finish clueStart "Here.", none, none⟩, m, rfl,
    by decide, rfl, ?_⟩
  refine ⟨⟨[], m⟩, ⟨[], m⟩, ?_, ?_, ?_⟩
  · refine Action.bind_eq_ok.2 ⟨"Here.", _, ?_, rfl⟩
    unfold Renderer.expand Evaluator.expandText
    dsimp only
    rw [parse_clueStart]
    rfl
  · dsimp only
    rw [hheader]
    exact .missing _
  · dsimp only
    rw [hfooter]
    exact .missing _

/-- Saving at the start of that story and restoring at once succeeds, and nothing is noted. -/
theorem clueStory_restored {e : Engine Random.Generator MemoryStore MemoryHistory Screen}
    (hstory : e.story = clueStory) (hrenderer : e.renderer = clueFirst.renderer)
    {checkpoint : String} (hp : e.progress = { state := [], history := [1], checkpoint }) :
    ∃ saved, e.save = (.ok (), saved) ∧ saved.restore.1 = .ok () ∧ saved.restore.2.state = [] := by
  obtain ⟨store, hset⟩ : ∃ store, Storage.set e.store e.saveKey e.progress.savedText
      = (.ok (), store) := ⟨_, rfl⟩
  have hsave := e.save_eq
  rw [hset] at hsave
  have hread : Progress.ofSavedText e.progress.savedText = .ok e.progress := by
    refine Progress.ofSavedText_savedText ?_ ?_
    · rw [hp]
      exact survives_nil
    · rw [hp]
      exact List.cons_ne_nil _ _
  have hr := clueStart_reenters checkpoint e.memory
  rw [← hp, ← hstory, ← hrenderer] at hr
  obtain ⟨hdone, hstate, -⟩ :=
    Engine.restore_of_reenters (e := { e.notify .saving with store }.notify .saved)
      ((Engine.load_saved hset _).2 hread) hr
  exact ⟨_, hsave, hdone, hstate⟩

/-- That reader at the start. -/
def cluePlayed : Engine Random.Generator MemoryStore MemoryHistory Screen :=
  (clueFirst.step .play).2

theorem step_cluePlayed : clueFirst.step .play = (.done, cluePlayed) ∧
    cluePlayed.story = clueStory ∧ cluePlayed.renderer = clueFirst.renderer ∧
    cluePlayed.state = [] ∧
    cluePlayed.progress = { state := [], history := [1], checkpoint := "" } := by
  have hrun : ((clueFirst.step .play).1, cluePlayed.state, cluePlayed.progress)
      = (.done, [], { state := [], history := [1], checkpoint := "" }) := by cbv
  obtain ⟨hdone, hstate, hprogress⟩ := by simpa only [Prod.mk.injEq] using hrun
  have hfresh : IsFresh clueFirst := ⟨rfl, rfl, rfl⟩
  obtain ⟨hstory, hrenderer, -⟩ := Engine.run_keeps (Engine.tidy_of_isFresh hfresh)
    (Script.determinedOn_of_avoids HelperSet.builtins_determinedBut clueStory_avoids rfl) [.play]
  exact ⟨Prod.ext hdone rfl, hstory, hrenderer, hstate, hprogress⟩

/-- After the clue has been shown to a reader at the start. -/
def clueShown : Engine Random.Generator MemoryStore MemoryHistory Screen :=
  cluePlayed.run [.showPassage (.name "Clue")]

theorem clueShown_eq :
    clueShown.place = cluePlayed.place ∧ clueShown.state = [("n", .int 1)] := by
  obtain ⟨-, hstory, hrenderer, hstate, hprogress⟩ := step_cluePlayed
  have hhistory : cluePlayed.place.history = [1] := congrArg Progress.history hprogress
  have hcheckpoint : cluePlayed.place.checkpoint = "" := congrArg Progress.checkpoint hprogress
  -- the clue is shown in the scene of the start, which has visited the start only
  obtain ⟨shown, hshown⟩ := render_clueNote cluePlayed.memory
  unfold clueScene at hshown
  rw [← hstory, ← hhistory, ← hcheckpoint, ← hrenderer, ← hstate] at hshown
  have hresolve : cluePlayed.story.resolve (.name "Clue") = some clueNote := by
    rw [hstory]
    decide
  have hstep : clueShown = (cluePlayed.showPassage (.name "Clue")).2 :=
    cluePlayed.step_showPassage (.name "Clue")
  rw [hstep, Engine.showPassage_ok hresolve hshown]
  refine ⟨rfl, ?_⟩
  show ("n", Value.int 1) :: cluePlayed.state = _
  rw [hstate]

/-- What the clue notes when it is shown at the start is gone after a save and a restore. -/
theorem clue_forgotten : Script.StoryAvoids HelperSet.builtins "either" clueStory ∧
    clueFirst.step .play = (.done, cluePlayed) ∧
    clueShown = cluePlayed.run [.showPassage (.name "Clue")] ∧
    ∃ saved restored, clueShown.save = (.ok (), saved) ∧ saved.restore = (.ok (), restored) ∧
      clueShown.state = [("n", .int 1)] ∧ restored.state = [] := by
  obtain ⟨hplay, hstory, hrenderer, -, hprogress⟩ := step_cluePlayed
  have hb := cluePlayed.run_aside [.showPassage (.name "Clue")] (by simp [Step.isAside])
  obtain ⟨hplace, hshown⟩ := clueShown_eq
  have hsame : clueShown.progress = cluePlayed.progress := by
    unfold Engine.progress
    rw [hplace]
  obtain ⟨saved, hsave, hdone, hforgotten⟩ :=
    clueStory_restored (hb.stays.story.trans hstory) (hb.stays.renderer.trans hrenderer)
      (hsame.trans hprogress)
  exact ⟨clueStory_avoids, hplay, rfl, saved, saved.restore.2, hsave, Prod.ext hdone rfl, hshown,
    hforgotten⟩

/-- After the reader at the start has named a checkpoint. -/
def clueNight : Engine Random.Generator MemoryStore MemoryHistory Screen :=
  cluePlayed.run [.checkpoint "Night"]

/-- A name that comes up at the start, which is no checkpoint, is kept, for the passage reads
    it nowhere. -/
theorem save_restore_recovers_night : ∃ saved restored,
    clueNight.save = (.ok (), saved) ∧ saved.restore = (.ok (), restored) ∧
      clueNight.place.checkpoint = "Night" ∧ clueNight.Recovers restored := by
  obtain ⟨hplay, hstory, hrenderer, hstate, hprogress⟩ := step_cluePlayed
  have hentry : cluePlayed.place.entryState = [] := congrArg Progress.state hprogress
  have hhistory : cluePlayed.place.history = [1] := congrArg Progress.history hprogress
  have hcheckpoint : cluePlayed.place.checkpoint = "" := congrArg Progress.checkpoint hprogress
  have hnight : clueNight.progress = { state := [], history := [1], checkpoint := "Night" } := by
    rw [← hentry, ← hhistory]
    rfl
  obtain ⟨saved, hsave, hdone, -⟩ := clueStory_restored (e := clueNight) hstory hrenderer hnight
  have hl : clueFirst.Lingers cluePlayed clueNight :=
    ⟨⟨rfl, rfl, rfl⟩, ⟨[], .play, _, .play, hplay⟩, [.checkpoint "Night"], by simp [Step.isAside],
      rfl⟩
  have hscript : clueFirst.renderer.evaluator = Script.evaluator HelperSet.builtins := rfl
  obtain ⟨-, hrecovers⟩ := Engine.save_restore_recovers_iff HelperSet.builtins_determinedBut
    hscript clueStory_avoids hsave
  obtain ⟨-, hlost⟩ := hrecovers saved.restore.2 (Prod.ext hdone rfl)
  obtain ⟨passage, hpassage, hiff⟩ := hlost cluePlayed hl (by rw [hentry]; exact survives_nil)
  refine ⟨saved, saved.restore.2, hsave, Prod.ext hdone rfl, rfl, hiff.2 ?_⟩
  obtain rfl : clueStart = passage := by
    unfold Engine.currentPassage? Place.current? at hpassage
    rw [hstory, hhistory] at hpassage
    exact Option.some.inj hpassage
  have hnew : ¬ (checkpointTag ∈ clueStart.tags ∨
      clueNight.place.checkpoint = cluePlayed.place.checkpoint) := by
    rw [hcheckpoint]
    decide
  unfold Engine.NothingLost
  rw [if_neg hnew]
  -- the start shows the same under every name, and writes nothing
  intro frame w hrendered
  rw [hstory, hrenderer, hhistory, hentry] at hrendered
  have hr : Reenters clueStory clueFirst.renderer
      { state := [], history := [1], checkpoint := "Night" } clueNight.memory w.state "Night" :=
    ⟨1, clueStart, frame, w.memory, rfl, by decide, rfl, hrendered⟩
  obtain ⟨hnone, -⟩ := (clueStart_reenters "Night" clueNight.memory).unique hr
  exact hnone.symm.trans hstate.symm

end Hyperfiction
