import Hyperfiction.Proofs.Navigation
import Hyperfiction.Proofs.SideBySide

/-! # Peeking at passages

    A passage may be shown without going to it. Such a peek uses the renderer that
    navigations use, on a copy of the reader's own variables; the copy is taken over only
    when the whole template has been expanded.

    The first half of this module says what one peek does. The second half is about two
    runs, one with peeks anywhere in between and one without. A peek that leaves the
    variables as it found them leaves an engine that differs from the one before it in the
    evaluator's memory and the trace alone. Where the evaluator is determined neither
    decides over anything, so the two runs stay side by side up to their ends.
-/

namespace Hyperfiction

variable {σ S H D : Type}

/-! ## Section 1: One peek -/

namespace Engine

/-- Rendering succeeds when expanding does, and leaves the world that expanding left. -/
theorem render_eq_ok {r : Renderer σ} {scene : Scene} {w w' : World σ} {shown : RenderedPassage} :
    (r.render scene).outcome w = (.ok shown, w') ↔
      ∃ text, (r.expand scene).outcome w = (.ok text, w') ∧ shown = r.finish scene.passage text := by
  unfold Renderer.render
  rw [Action.bind_eq_ok]
  constructor
  · intro ⟨text, w₁, hexpand, hfinish⟩
    obtain ⟨hshown, rfl⟩ := Prod.mk.inj hfinish
    exact ⟨text, hexpand, (Except.ok.inj hshown).symm⟩
  · intro ⟨text, hexpand, hshown⟩
    refine ⟨text, w', hexpand, ?_⟩
    rw [hshown, Action.outcome_pure]

/-- Rendering fails where expanding does; what comes after it cannot fail. -/
theorem render_eq_error {r : Renderer σ} {scene : Scene} {w w' : World σ} {err : TemplateError} :
    (r.render scene).outcome w = (.error err, w') ↔
      (r.expand scene).outcome w = (.error err, w') := by
  unfold Renderer.render
  rw [Action.bind_eq_error]
  constructor
  · intro h
    rcases h with hexpand | ⟨text, w₁, -, hfinish⟩
    · exact hexpand
    · rw [Action.outcome_pure] at hfinish
      cases hfinish
  · exact .inl

/-- What expanding a passage comes to if it is looked at from the reader's place, with the
    reader's variables. -/
def glimpse (e : Engine σ S H D) (passage : Passage) : Except TemplateError String × World σ :=
  (e.renderer.expand (e.asideScene passage)).outcome ⟨e.state, e.memory⟩

/-- How a peek ends. -/
inductive Peeks (e : Engine σ S H D) (query : Query) :
    Except EngineError RenderedPassage × Engine σ S H D → Prop where
  /-- Nothing in the story answers to the query. -/
  | unresolved :
      e.story.resolve query = none →
      Peeks e query (.error (.passageNotFound query), e.notify (.showing query))
  /-- The template fails somewhere; the variables it has worked on are dropped. -/
  | failed {passage : Passage} {err : TemplateError} {w : World σ} :
      e.story.resolve query = some passage → e.glimpse passage = (.error err, w) →
      Peeks e query (.error (.template err), { e.notify (.showing query) with memory := w.memory })
  /-- The template is expanded, and the variables are what it has left. -/
  | shown {passage : Passage} {text : String} {w : World σ} :
      e.story.resolve query = some passage → e.glimpse passage = (.ok text, w) →
      Peeks e query (.ok (e.renderer.finish passage text),
        { e.notify (.showing query) with memory := w.memory, state := w.state }.notify
          (.shown passage.id))

theorem showPassage_peeks (e : Engine σ S H D) (query : Query) :
    e.Peeks query (e.showPassage query) := by
  cases hq : e.story.resolve query with
  | none =>
    rw [showPassage_unresolved hq]
    exact .unresolved hq
  | some passage =>
    rw [showPassage_resolved hq]
    rcases hout : (e.renderer.render (e.asideScene passage)).outcome ⟨e.state, e.memory⟩
      with ⟨err | rendered, w⟩
    · exact .failed hq (render_eq_error.1 hout)
    · obtain ⟨text, hglimpse, rfl⟩ := render_eq_ok.1 hout
      exact .shown hq hglimpse

/-- A peek leaves the reader's place, what lies outside and the game's own parts alone. -/
structure Untouched (e after : Engine σ S H D) : Prop where
  story : after.story = e.story
  renderer : after.renderer = e.renderer
  place : after.place = e.place
  browser : after.browser = e.browser
  store : after.store = e.store
  display : after.display = e.display

theorem untouched_showPassage (e : Engine σ S H D) (query : Query) :
    e.Untouched (e.showPassage query).2 := by
  obtain ⟨state, m, trace, hleaves⟩ := e.showPassage_leaves query
  rw [hleaves]
  exact ⟨rfl, rfl, rfl, rfl, rfl, rfl⟩

theorem showPassage_error_state {e : Engine σ S H D} {query : Query} {err : EngineError}
    (h : (e.showPassage query).1 = .error err) : (e.showPassage query).2.state = e.state := by
  have hpeek := e.showPassage_peeks query
  rcases hs : e.showPassage query with ⟨result, after⟩
  rw [hs] at hpeek h
  obtain rfl : result = .error err := h
  cases hpeek with
  | unresolved _ => rfl
  | failed _ _ => rfl

/-- A peek fails for want of a passage or because of the template. -/
theorem showPassage_error_iff {e : Engine σ S H D} {query : Query} {err : EngineError} :
    (e.showPassage query).1 = .error err ↔
      (e.story.resolve query = none ∧ err = .passageNotFound query) ∨
        ∃ passage cause, e.story.resolve query = some passage ∧
          (e.glimpse passage).1 = .error cause ∧ err = .template cause := by
  have hpeek := e.showPassage_peeks query
  rcases hs : e.showPassage query with ⟨result, after⟩
  rw [hs] at hpeek
  cases hpeek with
  | unresolved hq => simp [hq, eq_comm]
  | failed hq hg => simp [hq, hg, eq_comm]
  | shown hq hg => simp [hq, hg]

/-- A peek that succeeds shows one passage, without header or footer, and the variables after
    it are what expanding that passage has left. -/
theorem showPassage_ok_leaves {e : Engine σ S H D} {query : Query} {rendered : RenderedPassage}
    (h : (e.showPassage query).1 = .ok rendered) :
    ∃ passage text, e.story.resolve query = some passage ∧
      (e.glimpse passage).1 = .ok text ∧ rendered = e.renderer.finish passage text ∧
      (e.showPassage query).2.state = (e.glimpse passage).2.state := by
  have hpeek := e.showPassage_peeks query
  rcases hs : e.showPassage query with ⟨result, after⟩
  rw [hs] at hpeek h
  obtain rfl : result = .ok rendered := h
  cases hpeek with
  | @shown passage text w hq hg =>
    refine ⟨passage, text, hq, ?_, rfl, ?_⟩
    · rw [hg]
    · rw [hg]
      rfl

end Engine

/-! ## Section 2: Passages that only read -/

/-- The computation leaves the variables as it finds them, whether or not it fails. -/
def Action.IsReading {α : Type} (a : Action σ α) : Prop :=
  ∀ w, (a.outcome w).2.state = w.state

theorem Action.IsReading.isClosed : IsClosed fun _ (a : Action σ _) => a.IsReading where
  pure _ _ := rfl
  throw _ _ := rfl
  bind := by
    intro α β a f ha hf w
    have hfirst := ha w
    rw [outcome_bind]
    rcases hout : a.outcome w with ⟨err | x, w₁⟩
    · rw [hout] at hfirst
      exact hfirst
    · rw [hout] at hfirst
      exact (hf x w₁).trans hfirst

/-- Expanding the passage only reads the variables, whatever was visited. -/
def Renderer.OnlyReads (r : Renderer σ) (story : Story) (passage : Passage) : Prop :=
  ∀ scene : Scene, scene.story = story → scene.passage = passage → (r.expand scene).IsReading

/-- It does when each use of code in its template does. -/
theorem Renderer.onlyReads_of_uses {r : Renderer σ} {story : Story} {passage : Passage}
    (h : ∀ scene : Scene, ∀ t, Template.parse passage.text = .ok t → ∀ use ∈ Template.uses t,
      r.evaluator.UseHas (fun _ a => a.IsReading) scene use) : r.OnlyReads story passage := by
  intro scene _ hpassage
  unfold expand
  rw [hpassage]
  exact Evaluator.expandText_closed Action.IsReading.isClosed (h scene)

/-- So a peek at such a passage leaves the variables as it finds them, and one that fails
    does in any case. -/
theorem Engine.showPassage_reading {e : Engine σ S H D} {query : Query}
    (h : ∀ passage, e.story.resolve query = some passage →
      e.renderer.OnlyReads e.story passage) :
    (e.showPassage query).2.state = e.state := by
  have hpeek := e.showPassage_peeks query
  rcases hs : e.showPassage query with ⟨result, after⟩
  rw [hs] at hpeek
  cases hpeek with
  | unresolved _ => rfl
  | failed _ _ => rfl
  | @shown passage text w hq hg =>
    have hreads := h passage hq (e.asideScene passage) rfl rfl ⟨e.state, e.memory⟩
    have hglimpse : (e.glimpse passage).2.state = e.state := hreads
    rw [hg] at hglimpse
    exact hglimpse

/-! ## Section 3: Runs with peeks -/

/-- What happens in a run that is peeked into: a step of its own, or a peek. -/
inductive Beat where
  | own (s : Step)
  | peek (query : Query)

/-- The step that is taken at a beat. -/
def Beat.step : Beat → Step
  | .own s => s
  | .peek query => .showPassage query

/-- The step that is left of a beat when the peeks are taken away. -/
def Beat.own? : Beat → Option Step
  | .own s => some s
  | .peek _ => none

/-- The run without its peeks. -/
def Beat.unpeeked (beats : List Beat) : List Step :=
  beats.filterMap Beat.own?

namespace Engine

variable [Storage S] [BrowserHistory H] [Travel H]

/-- The engine after beats in order, peeks included. -/
def through (beats : List Beat) (e : Engine σ S H Screen) : Engine σ S H Screen :=
  e.run (beats.map Beat.step)

/-- What can be seen of the run's own steps while it is peeked into. -/
def seenThrough : List Beat → Engine σ S H Screen → List (Observation S H)
  | [], _ => []
  | .own s :: beats, e => observation (e.step s) :: seenThrough beats (e.step s).2
  | .peek query :: beats, e => seenThrough beats (e.showPassage query).2

/-- Every peek of the run leaves the variables as it finds them there. -/
def QuietPeeks (e : Engine σ S H Screen) (beats : List Beat) : Prop :=
  ∀ before query later, beats = before ++ .peek query :: later →
    ((e.through before).showPassage query).2.state = (e.through before).state

theorem through_own (s : Step) (beats : List Beat) (e : Engine σ S H Screen) :
    e.through (.own s :: beats) = (e.step s).2.through beats := rfl

theorem through_peek (query : Query) (beats : List Beat) (e : Engine σ S H Screen) :
    e.through (.peek query :: beats) = (e.showPassage query).2.through beats := by
  rw [← step_showPassage]
  rfl

theorem QuietPeeks.own {e : Engine σ S H Screen} {s : Step} {beats : List Beat}
    (h : e.QuietPeeks (.own s :: beats)) : (e.step s).2.QuietPeeks beats := by
  intro before query later hsplit
  have hwhole := h (.own s :: before) query later (by rw [hsplit, List.cons_append])
  rw [through_own] at hwhole
  exact hwhole

theorem QuietPeeks.peek {e : Engine σ S H Screen} {query : Query} {beats : List Beat}
    (h : e.QuietPeeks (.peek query :: beats)) :
    (e.showPassage query).2.state = e.state ∧ (e.showPassage query).2.QuietPeeks beats := by
  refine ⟨h [] query beats rfl, ?_⟩
  intro before query' later hsplit
  have hwhole := h (.peek query :: before) query' later (by rw [hsplit, List.cons_append])
  rw [through_peek] at hwhole
  exact hwhole

/-- Peeks at passages that only read are quiet, wherever they are. -/
theorem quietPeeks_of_reading {e : Engine σ S H Screen} {beats : List Beat}
    (h : ∀ query, .peek query ∈ beats → ∀ passage, e.story.resolve query = some passage →
      e.renderer.OnlyReads e.story passage) : e.QuietPeeks beats := by
  intro before query later hsplit
  -- the run up to the peek has kept the story and the renderer
  have hkeeps := run_keeping (e.renderer.agreesOn_equal e.story) (before.map Beat.step)
  have hmem : .peek query ∈ beats := by
    rw [hsplit]
    exact List.mem_append_right _ List.mem_cons_self
  apply showPassage_reading
  intro passage hq
  unfold through at hq ⊢
  rw [hkeeps.story] at hq ⊢
  rw [hkeeps.renderer]
  exact h query hmem passage hq

/-! ## Section 4: Two runs -/

omit [Storage S] [BrowserHistory H] [Travel H] in
/-- Of two engines alike the first may take a quiet peek. -/
theorem Alike.of_quiet {e e' : Engine σ S H D} (h : Alike .any Eq e e') {query : Query}
    (hquiet : (e.showPassage query).2.state = e.state) :
    Alike .any Eq (e.showPassage query).2 e' := by
  have hsame := e.untouched_showPassage query
  exact
    { story := h.story.trans hsame.story.symm
      renderer := h.renderer.trans hsame.renderer.symm
      place := h.place.trans hsame.place.symm
      state := h.state.trans hquiet.symm
      browser := h.browser.trans hsame.browser.symm
      display := h.display.trans hsame.display.symm
      memory := trivial
      store := hsame.store.trans h.store }

/-- A run with quiet peeks stays alike to the run without them. -/
theorem Alike.through {e e' : Engine σ S H Screen} (h : Alike .any Eq e e')
    (hr : e.renderer.AgreesOn .any e.story) {beats : List Beat} (hq : e.QuietPeeks beats) :
    seenThrough beats e = observations (Beat.unpeeked beats) e' ∧
      Alike .any Eq (e.through beats) (e'.run (Beat.unpeeked beats)) := by
  induction beats generalizing e e' with
  | nil => exact ⟨rfl, h⟩
  | cons beat beats ih =>
    cases beat with
    | own s =>
      -- both take the step, and nothing that it looks at differs
      have hr' := ((parallel_step s).keeps e hr).agreesOn hr
      rcases (parallel_step s).follows e e' hr h with hpast | ⟨hresult, hafter⟩
      · cases hpast
      obtain ⟨hseen, hfinal⟩ := ih hafter hr' hq.own
      have hfirst : observation (e.step s) = observation (e'.step s) :=
        observation_eq_of_alike hresult hafter
      have hunpeeked : Beat.unpeeked (.own s :: beats) = s :: Beat.unpeeked beats := rfl
      rw [through_own, hunpeeked, observations_cons, ← hfirst, ← hseen]
      exact ⟨rfl, hfinal⟩
    | peek query =>
      -- only the first peeks, and is as it was but for its memory and its trace
      obtain ⟨hquiet, hlater⟩ := hq.peek
      have hsame := e.untouched_showPassage query
      have hr' : (e.showPassage query).2.renderer.AgreesOn .any (e.showPassage query).2.story := by
        rw [hsame.renderer, hsame.story]
        exact hr
      have hunpeeked : Beat.unpeeked (.peek query :: beats) = Beat.unpeeked beats := rfl
      rw [through_peek, hunpeeked]
      exact ih (h.of_quiet hquiet) hr' hlater

end Engine

/-- What a peek does to an engine, whatever it is made of: of all that a navigation would
    change it writes the variables only, and those only if the passage is found and its
    whole template is expanded. Under a determined evaluator, quiet peeks anywhere in a run
    change nothing that can be seen of the run's own steps, nor where it ends. -/
theorem Engine.peeking_writes_variables_only {σ : Type} :
    (∀ {S H D : Type} (e : Engine σ S H D) (query : Query),
      e.Untouched (e.showPassage query).2 ∧
      (∀ err, (e.showPassage query).1 = .error err →
        (e.showPassage query).2.state = e.state) ∧
      (∀ err, (e.showPassage query).1 = .error err ↔
        (e.story.resolve query = none ∧ err = .passageNotFound query) ∨
          ∃ passage cause, e.story.resolve query = some passage ∧
            (e.glimpse passage).1 = .error cause ∧ err = .template cause) ∧
      ∀ rendered, (e.showPassage query).1 = .ok rendered →
        ∃ passage text, e.story.resolve query = some passage ∧
          (e.glimpse passage).1 = .ok text ∧ rendered = e.renderer.finish passage text ∧
          (e.showPassage query).2.state = (e.glimpse passage).2.state) ∧
    ∀ {S H : Type} [Storage S] [BrowserHistory H] [Travel H] (e : Engine σ S H Screen)
      (beats : List Beat), e.renderer.evaluator.IsDetermined → e.QuietPeeks beats →
      seenThrough beats e = observations (Beat.unpeeked beats) e ∧
      (e.through beats).place = (e.run (Beat.unpeeked beats)).place ∧
      (e.through beats).state = (e.run (Beat.unpeeked beats)).state ∧
      (e.through beats).store = (e.run (Beat.unpeeked beats)).store ∧
      (e.through beats).browser = (e.run (Beat.unpeeked beats)).browser ∧
      (e.through beats).display = (e.run (Beat.unpeeked beats)).display := by
  constructor
  · intro S H D e query
    exact ⟨e.untouched_showPassage query, fun err => showPassage_error_state,
      fun err => showPassage_error_iff, fun rendered => showPassage_ok_leaves⟩
  · intro S H _ _ _ e beats hdetermined hquiet
    have hr : e.renderer.AgreesOn .any e.story :=
      Renderer.agreesOn_any_iff.2 (Renderer.determinedOn hdetermined e.story)
    have hself : Alike .any Eq e e := ⟨rfl, rfl, rfl, rfl, rfl, rfl, trivial, rfl⟩
    obtain ⟨hseen, hfinal⟩ := hself.through hr hquiet
    exact ⟨hseen, hfinal.place.symm, hfinal.state.symm, hfinal.store, hfinal.browser.symm,
      hfinal.display.symm⟩

/-! ## Section 5: Looking at the lamp -/

theorem Evaluator.switches_evaluate_isReading (scene : Scene) (code : String) :
    ((Evaluator.switches : Evaluator σ).evaluate scene code).IsReading := by
  intro w
  cases hget : Table.get? code w.state with
  | some v =>
    have hok : ((Evaluator.switches : Evaluator σ).evaluate scene code).outcome w
        = (.ok v, w) := by
      refine Action.bind_eq_ok.2 ⟨w, w, rfl, ?_⟩
      rw [hget]
      rfl
    rw [hok]
  | none =>
    have herror : ((Evaluator.switches : Evaluator σ).evaluate scene code).outcome w
        = (.error (.unknownIdentifier code), w) := by
      refine Action.bind_eq_error.2 (.inr ⟨w, w, rfl, ?_⟩)
      rw [hget]
      rfl
    rw [herror]

/-- Down to the cellar, with a look at the header before anything, at the door and at the end. -/
def lampBeats : List Beat :=
  .peek (.name headerName) :: (lampSteps.take 2).map .own ++ [.peek (.name headerName)] ++
    (lampSteps.drop 2).map .own ++ [.peek (.name headerName)]

/-- The header asks for the lamp and for gold, and changes neither. -/
theorem quietPeeks_lampBeats : lampFirst.QuietPeeks lampBeats := by
  apply Engine.quietPeeks_of_reading
  intro query hmem passage hq
  obtain rfl : query = .name headerName := by
    simpa [lampBeats, lampSteps] using hmem
  obtain rfl := Option.some.inj hq
  apply Renderer.onlyReads_of_uses
  intro scene t ht use huse
  have hparsed : Template.parse (Passage.text
      { id := 3, name := headerName, tags := []
        source := "&lt;% if lamp %&gt;&lt;%= gold %&gt;&lt;% end %&gt;" })
        = .ok [.conditional [("lamp", [.interpolation "gold" false])] []] := by cbv
  obtain rfl := Except.ok.inj (hparsed.symm.trans ht)
  have huses : use = .evaluated "lamp" ∨ use = .evaluated "gold" := by
    simpa [Template.uses, Template.segmentUses, Template.branchUses] using huse
  rcases huses with rfl | rfl
  · exact Evaluator.switches_evaluate_isReading scene "lamp"
  · exact Evaluator.switches_evaluate_isReading scene "gold"

/-- Before anything the look fails, at the end it shows the gold, and the way down to the
    cellar is the same with and without it. -/
theorem peeking_writes_variables_only_lamp :
    lampFirst.renderer.evaluator.IsDetermined ∧ lampFirst.QuietPeeks lampBeats ∧
      (lampFirst.showPassage (.name headerName)).1
        = .error (.template (.unknownIdentifier "lamp")) ∧
      (lampFirst.showPassage (.name headerName)).2.state = [] ∧
      ((lampFirst.run lampSteps).showPassage (.name headerName)).1
        = .ok { passage := 3, name := headerName, html := "3", links := [] } ∧
      Engine.seenThrough lampBeats lampFirst = Engine.observations lampSteps lampFirst ∧
      (lampFirst.through lampBeats).place.history = [1, 2] := by
  obtain ⟨hpeek, hruns⟩ := Engine.peeking_writes_variables_only (σ := Unit)
  have hfails : (lampFirst.showPassage (.name headerName)).1
      = .error (.template (.unknownIdentifier "lamp")) := by cbv
  have hshows : ((lampFirst.run lampSteps).showPassage (.name headerName)).1
      = .ok { passage := 3, name := headerName, html := "3", links := [] } := by cbv
  have hhistory : (lampFirst.run lampSteps).place.history = [1, 2] := by cbv
  obtain ⟨-, hstate, -⟩ := hpeek lampFirst (.name headerName)
  obtain ⟨hseen, hplace, -⟩ :=
    hruns lampFirst lampBeats Evaluator.switches_isDetermined quietPeeks_lampBeats
  refine ⟨Evaluator.switches_isDetermined, quietPeeks_lampBeats, hfails, hstate _ hfails, hshows,
    hseen, ?_⟩
  rw [hplace]
  exact hhistory

end Hyperfiction
