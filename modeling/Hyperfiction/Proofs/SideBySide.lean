import Hyperfiction.Proofs.Likeness
import Hyperfiction.Proofs.Travel

/-! # Engines side by side

    Two engines may differ in what their evaluators remember, in their stores and in what
    they have told, and show their readers the same all the same. Rendering is the one
    thing that looks at the memory: if it agrees, under some `Likeness` of memories, then
    `Alike` engines stay alike through every operation and give the same results, until
    the first one is past comparing.

    An operation that keeps engines alike is `Parallel`. Operations in a row are parallel
    when each of them is, and so every step and every session is.
-/

namespace Hyperfiction

variable {σ S H D : Type}

/-! ## Section 1: Engines -/

namespace Engine

/-- The engines show the same. Their memories go together, their stores are related by
    `stores`, and what they have told is not compared. -/
structure Alike (l : Likeness σ) (stores : S → S → Prop) (e e' : Engine σ S H D) : Prop where
  story : e'.story = e.story
  renderer : e'.renderer = e.renderer
  place : e'.place = e.place
  state : e'.state = e.state
  browser : e'.browser = e.browser
  display : e'.display = e.display
  memory : l.same e.memory e'.memory
  store : stores e.store e'.store

/-- What an operation never changes: the story and the renderer; and a memory past comparing
    stays so. -/
structure Keeping (l : Likeness σ) (e after : Engine σ S H D) : Prop where
  story : after.story = e.story
  renderer : after.renderer = e.renderer
  past : l.past e.memory → l.past after.memory

/-- The two outcomes of an operation are one and leave the engines alike, unless the first
    one is past comparing. -/
def Follows {ρ : Type} (l : Likeness σ) (stores : S → S → Prop) (x y : ρ × Engine σ S H D) :
    Prop :=
  l.past x.2.memory ∨ (x.1 = y.1 ∧ Alike l stores x.2 y.2)

/-- The operation keeps engines alike that are, where the renderer agrees on the story. -/
structure Parallel {ρ : Type} (l : Likeness σ) (stores : S → S → Prop)
    (op : Engine σ S H D → ρ × Engine σ S H D) : Prop where
  keeps : ∀ e, e.renderer.AgreesOn l e.story → Keeping l e (op e).2
  follows : ∀ e e', e.renderer.AgreesOn l e.story → Alike l stores e e' →
    Follows l stores (op e) (op e')

variable {l : Likeness σ} {stores : S → S → Prop}

theorem Keeping.agreesOn {e after : Engine σ S H D} (h : Keeping l e after)
    (hr : e.renderer.AgreesOn l e.story) : after.renderer.AgreesOn l after.story := by
  rw [h.renderer, h.story]
  exact hr

/-! ## Section 2: Operations in a row -/

namespace Parallel

variable {ρ τ α : Type}

theorem congr {op op' : Engine σ S H D → ρ × Engine σ S H D} (h : Parallel l stores op)
    (heq : ∀ e, op' e = op e) : Parallel l stores op' := by
  obtain rfl : op' = op := funext heq
  exact h

/-- One operation after the other, which may look at the result of the first. -/
theorem bind {op : Engine σ S H D → ρ × Engine σ S H D}
    {next : ρ → Engine σ S H D → τ × Engine σ S H D} (h : Parallel l stores op)
    (hnext : ∀ r, Parallel l stores (next r)) :
    Parallel l stores fun e => next (op e).1 (op e).2 where
  keeps := by
    intro e hr
    have hfirst := h.keeps e hr
    have hsecond := (hnext (op e).1).keeps (op e).2 (hfirst.agreesOn hr)
    exact ⟨hsecond.story.trans hfirst.story, hsecond.renderer.trans hfirst.renderer,
      fun hpast => hsecond.past (hfirst.past hpast)⟩
  follows := by
    intro e e' hr halike
    have hr' := (h.keeps e hr).agreesOn hr
    rcases h.follows e e' hr halike with hpast | ⟨hresult, hafter⟩
    · -- once past comparing it stays there, whatever comes next
      exact .inl (((hnext (op e).1).keeps (op e).2 hr').past hpast)
    · have hsecond := (hnext (op e).1).follows (op e).2 (op e').2 hr' hafter
      rw [hresult] at hsecond ⊢
      exact hsecond

/-- An operation that goes on from the success or the failure of another one. -/
theorem sequel {ε : Type} {op : Engine σ S H D → Except ε α × Engine σ S H D}
    {whole : Engine σ S H D → τ × Engine σ S H D} {ok : α → Engine σ S H D → τ × Engine σ S H D}
    {error : ε → Engine σ S H D → τ × Engine σ S H D} (h : Parallel l stores op)
    (hok : ∀ x, Parallel l stores (ok x)) (herror : ∀ err, Parallel l stores (error err))
    (hwholeOk : ∀ e x after, op e = (.ok x, after) → whole e = ok x after)
    (hwholeError : ∀ e err after, op e = (.error err, after) → whole e = error err after) :
    Parallel l stores whole := by
  have hnext : ∀ r : Except ε α, Parallel l stores (match r with
      | .ok x => ok x
      | .error err => error err) := by
    intro r
    cases r with
    | ok x => exact hok x
    | error err => exact herror err
  refine (h.bind hnext).congr ?_
  intro e
  rcases hop : op e with ⟨err | x, after⟩
  · exact hwholeError e err after hop
  · exact hwholeOk e x after hop

/-- An operation that changes nothing compared but by what is the same on both sides. -/
theorem change {result : Engine σ S H D → ρ} {change : Engine σ S H D → Engine σ S H D}
    (hkeeps : ∀ e, (change e).story = e.story ∧ (change e).renderer = e.renderer ∧
      (change e).memory = e.memory)
    (halike : ∀ e e', Alike l stores e e' →
      result e = result e' ∧ Alike l stores (change e) (change e')) :
    Parallel l stores fun e => (result e, change e) where
  keeps := by
    intro e _
    obtain ⟨hstory, hrenderer, hmemory⟩ := hkeeps e
    refine ⟨hstory, hrenderer, fun hpast => ?_⟩
    rw [hmemory]
    exact hpast
  follows := fun e e' _ h => .inr (halike e e' h)

/-- Looking at what is the same on both sides, and going on from there. -/
theorem reading (look : Engine σ S H D → α) {next : α → Engine σ S H D → τ × Engine σ S H D}
    (hlook : ∀ e e', Alike l stores e e' → look e = look e')
    (hnext : ∀ a, Parallel l stores (next a)) : Parallel l stores fun e => next (look e) e := by
  have hread : Parallel l stores fun e => (look e, e) :=
    change (fun _ => ⟨rfl, rfl, rfl⟩) fun e e' h => ⟨hlook e e' h, h⟩
  exact hread.bind hnext

theorem done (r : ρ) : Parallel (S := S) (H := H) (D := D) l stores fun e => (r, e) :=
  change (fun _ => ⟨rfl, rfl, rfl⟩) fun _ _ h => ⟨rfl, h⟩

/-- Telling an event, which nobody looks at. -/
theorem notify (r : ρ) (event : Event) :
    Parallel (S := S) (H := H) (D := D) l stores fun e => (r, e.notify event) :=
  change (fun _ => ⟨rfl, rfl, rfl⟩) fun _ _ h =>
    ⟨rfl, h.story, h.renderer, h.place, h.state, h.browser, h.display, h.memory, h.store⟩

/-- Writing the place and the variables. -/
theorem put (r : ρ) (place : Place → Place) (state : StateBag → StateBag) :
    Parallel (S := S) (H := H) (D := D) l stores fun e =>
      (r, { e with place := place e.place, state := state e.state }) :=
  change (fun _ => ⟨rfl, rfl, rfl⟩) fun _ _ h =>
    ⟨rfl, h.story, h.renderer, congrArg place h.place, congrArg state h.state, h.browser, h.display,
      h.memory, h.store⟩

end Parallel

/-! ## Section 3: Navigations -/

/-- A frame that is rendered where the renderer agrees. -/
theorem frameOf_agrees {e : Engine σ S H D} (hr : e.renderer.AgreesOn l e.story) {query : Query}
    {passage : Passage} (hq : e.story.resolve query = some passage) (addToHistory : Bool) :
    (frameOf e.renderer (e.sceneOf passage addToHistory)).Agrees l := by
  have hmem : passage ∈ e.story.passages.toList :=
    Story.mem_of_passage? (Story.passage?_of_resolve hq)
  exact Renderer.AgreesOn.frame hr hmem

section

variable [BrowserHistory H] [Display D]

/-- A navigation leaves the story, the renderer and the memory that its rendering leaves. -/
theorem goTo_leaves {e : Engine σ S H D} {query : Query} (addToHistory : Bool)
    (recording : Recording) {passage : Passage} (hq : e.story.resolve query = some passage) :
    (e.goTo query addToHistory recording).2.story = e.story ∧
      (e.goTo query addToHistory recording).2.renderer = e.renderer ∧
      (e.goTo query addToHistory recording).2.memory
        = ((frameOf e.renderer (e.sceneOf passage addToHistory)).outcome
            ⟨e.state, e.memory⟩).2.memory := by
  rw [goTo_resolved hq]
  rcases (frameOf e.renderer (e.sceneOf passage addToHistory)).outcome ⟨e.state, e.memory⟩
    with ⟨err | frame, w⟩
  · exact ⟨rfl, rfl, rfl⟩
  · dsimp only
    rcases BrowserHistory.record e.browser (e.actionTo passage recording)
      (e.entryOf passage addToHistory) with ⟨err | _, browser⟩
    · exact ⟨rfl, rfl, rfl⟩
    · dsimp only
      rw [arrive_eq]
      exact ⟨rfl, rfl, rfl⟩

theorem goTo_keeping {e : Engine σ S H D} (hr : e.renderer.AgreesOn l e.story) (query : Query)
    (addToHistory : Bool) (recording : Recording) :
    Keeping l e (e.goTo query addToHistory recording).2 := by
  cases hq : e.story.resolve query with
  | none =>
    rw [goTo_unresolved hq]
    exact ⟨rfl, rfl, id⟩
  | some passage =>
    obtain ⟨hstory, hrenderer, hmemory⟩ := goTo_leaves addToHistory recording hq
    refine ⟨hstory, hrenderer, fun hpast => ?_⟩
    rw [hmemory]
    exact (frameOf_agrees hr hq addToHistory).past e.state e.memory hpast

/-- Going to a passage. -/
theorem parallel_goTo (query : Query) (addToHistory : Bool) (recording : Recording) :
    Parallel l stores fun e : Engine σ S H D => e.goTo query addToHistory recording where
  keeps e hr := goTo_keeping hr query addToHistory recording
  follows := by
    intro e e' hr h
    have hscene : ∀ passage, e'.sceneOf passage addToHistory = e.sceneOf passage addToHistory := by
      intro passage
      unfold sceneOf
      rw [h.place, h.story]
    have hentry : ∀ passage, e'.entryOf passage addToHistory = e.entryOf passage addToHistory := by
      intro passage
      unfold entryOf
      rw [hscene, h.state]
    have haction : ∀ passage, e'.actionTo passage recording = e.actionTo passage recording := by
      intro passage
      unfold actionTo
      rw [h.place]
    cases hq : e.story.resolve query with
    | none =>
      have hq' : e'.story.resolve query = none := by rw [h.story, hq]
      rw [goTo_unresolved hq, goTo_unresolved hq']
      exact .inr ⟨rfl, h.story, h.renderer, h.place, h.state, h.browser, h.display, h.memory,
        h.store⟩
    | some passage =>
      have hq' : e'.story.resolve query = some passage := by rw [h.story, hq]
      have hagrees := (frameOf_agrees hr hq addToHistory).agree e.state e.memory e'.memory h.memory
      rcases hagrees with hpast | ⟨hresult, hstate, hmemory⟩
      · left
        rw [(goTo_leaves addToHistory recording hq).2.2]
        exact hpast
      right
      rw [goTo_resolved hq, goTo_resolved hq', h.renderer, hscene, hentry, haction, h.state,
        h.browser]
      rcases hout : (frameOf e.renderer (e.sceneOf passage addToHistory)).outcome
        ⟨e.state, e.memory⟩ with ⟨result, w⟩
      rcases hout' : (frameOf e.renderer (e.sceneOf passage addToHistory)).outcome
        ⟨e.state, e'.memory⟩ with ⟨result', w'⟩
      rw [hout, hout'] at hresult hstate hmemory
      obtain rfl : result = result' := hresult
      dsimp only at hstate hmemory ⊢
      cases result with
      | error err =>
        exact ⟨rfl, h.story, h.renderer, h.place, h.state, h.browser, h.display, hmemory, h.store⟩
      | ok frame =>
        dsimp only
        rcases BrowserHistory.record e.browser (e.actionTo passage recording)
          (e.entryOf passage addToHistory) with ⟨err | _, browser⟩
        · exact ⟨rfl, h.story, h.renderer, h.place, h.state, rfl, h.display, hmemory, h.store⟩
        · have htitled : e'.titled passage = e.titled passage := by
            unfold titled
            rw [h.story, h.display]
          dsimp only
          -- both arrive with one entry and one frame, and enter from the same variables
          rw [arrive_eq, ← hentry, arrive_eq]
          refine ⟨rfl, h.story, h.renderer, ?_, hstate.symm, rfl, ?_, hmemory, h.store⟩
          · unfold arrivedAt
            rw [hentry, h.state]
          · unfold arrivedAt
            rw [htitled]

theorem parallel_goToStart : Parallel l stores fun e : Engine σ S H D => e.goToStart :=
  .reading (fun e => e.story.start) (fun _ _ h => congrArg Story.start h.story.symm)
    fun start => parallel_goTo (.id start) true .decide

/-- Starting the session at the beginning. -/
theorem parallel_begin : Parallel l stores fun e : Engine σ S H D => e.begin := by
  have hset : Parallel l stores fun e : Engine σ S H D => ((.ok (), { e with
      place := { e.place with atCheckpoint := true } }) : Except EngineError Unit × _) :=
    .put _ (fun place => { place with atCheckpoint := true }) id
  refine parallel_goToStart.sequel (fun _ => hset) (fun err => .done (.error err)) ?_ ?_
  · intro e _ after h
    unfold begin
    rw [h]
  · intro e err after h
    unfold begin
    rw [h]

/-- Taking over a progress, going to its last passage and rolling back if that fails. -/
theorem parallel_adopted {ε : Type} (p : Progress) (last : PassageId) (recording : Recording)
    (error : EngineError → ε) :
    Parallel l stores fun e : Engine σ S H D =>
      match (e.adopt p).goTo (.id last) false recording with
      | (.ok _, after) => ((.ok (), after) : Except ε Unit × Engine σ S H D)
      | (.error err, after) => (.error (error err), e.rollBack after) := by
  have hadopt : Parallel l stores fun e : Engine σ S H D => ((), e.adopt p) :=
    .put () (fun place => { place with history := p.history, checkpoint := p.checkpoint })
      fun _ => p.state
  have hgo : Parallel l stores fun e : Engine σ S H D =>
      (e.adopt p).goTo (.id last) false recording :=
    hadopt.bind fun _ => parallel_goTo (.id last) false recording
  have hall : ∀ before : Place × StateBag, Parallel l stores fun e : Engine σ S H D =>
      match (e.adopt p).goTo (.id last) false recording with
      | (.ok _, after) => ((.ok (), after) : Except ε Unit × Engine σ S H D)
      | (.error err, after) =>
        (.error (error err), { after with place := before.1, state := before.2 }) := by
    intro before
    refine hgo.sequel (fun _ => .done (.ok ()))
      (fun err => .put (.error (error err)) (fun _ => before.1) fun _ => before.2) ?_ ?_
    · intro e _ after h
      rw [h]
    · intro e err after h
      rw [h]
  -- the place and the variables to go back to are looked up first
  exact .reading (fun e : Engine σ S H D => (e.place, e.state))
    (fun _ _ h => Prod.ext h.place.symm h.state.symm) hall

/-- Following the browser to an entry. -/
theorem parallel_handlePop (entry : Option Progress) :
    Parallel l stores fun e : Engine σ S H D => e.handlePop entry := by
  cases entry with
  | some p =>
    cases hp : p.last? with
    | none => exact (Parallel.done (.error .emptyHistory)).congr fun e => handlePop_empty e hp
    | some last =>
      exact (parallel_adopted p last .replaceOnly id).congr fun e => handlePop_entry e hp
  | none =>
    have hcleared : Parallel l stores fun e : Engine σ S H D => ((), e.cleared) :=
      .put () (fun place => { place with history := [], checkpoint := "" }) fun _ => []
    have hnext : ∀ unvisited : Bool, Parallel l stores fun e : Engine σ S H D =>
        if unvisited then e.cleared.goToStart else (.ok (), e) := by
      intro unvisited
      cases unvisited with
      | true => exact hcleared.bind fun _ => parallel_goToStart
      | false => exact .done _
    exact .reading (fun e => e.place.history.isEmpty)
      (fun _ _ h => congrArg (fun place => place.history.isEmpty) h.place.symm) hnext

end

/-- Rendering a passage without going to it. -/
theorem parallel_showPassage (query : Query) :
    Parallel l stores fun e : Engine σ S H D => e.showPassage query := by
  refine ⟨fun e hr => ?_, fun e e' hr h => ?_⟩
  · cases hq : e.story.resolve query with
    | none =>
      rw [showPassage_unresolved hq]
      exact ⟨rfl, rfl, id⟩
    | some passage =>
      have hmem := Story.mem_of_passage? (Story.passage?_of_resolve hq)
      have hpast := (hr (e.asideScene passage) rfl hmem).past e.state e.memory
      rw [showPassage_resolved hq]
      rcases hout : (e.renderer.render (e.asideScene passage)).outcome ⟨e.state, e.memory⟩
        with ⟨err | rendered, w⟩ <;> rw [hout] at hpast <;> exact ⟨rfl, rfl, hpast⟩
  · cases hq : e.story.resolve query with
    | none =>
      have hq' : e'.story.resolve query = none := by rw [h.story, hq]
      rw [showPassage_unresolved hq, showPassage_unresolved hq']
      exact .inr ⟨rfl, h.story, h.renderer, h.place, h.state, h.browser, h.display, h.memory,
        h.store⟩
    | some passage =>
      have hq' : e'.story.resolve query = some passage := by rw [h.story, hq]
      have hscene : e'.asideScene passage = e.asideScene passage := by
        unfold asideScene
        rw [h.story, h.place]
      have hmem := Story.mem_of_passage? (Story.passage?_of_resolve hq)
      have hagrees := (hr (e.asideScene passage) rfl hmem).agree e.state e.memory e'.memory h.memory
      rw [showPassage_resolved hq, showPassage_resolved hq', h.renderer, hscene, h.state]
      rcases hout : (e.renderer.render (e.asideScene passage)).outcome ⟨e.state, e.memory⟩
        with ⟨result, w⟩
      rcases hout' : (e.renderer.render (e.asideScene passage)).outcome ⟨e.state, e'.memory⟩
        with ⟨result', w'⟩
      rw [hout, hout'] at hagrees
      rcases hagrees with hpast | ⟨hresult, hstate, hmemory⟩
      · left
        cases result <;> exact hpast
      · right
        obtain rfl : result = result' := hresult
        cases result with
        | error err =>
          exact ⟨rfl, h.story, h.renderer, h.place, h.state, h.browser, h.display, hmemory, h.store⟩
        | ok rendered =>
          exact ⟨rfl, h.story, h.renderer, h.place, hstate.symm, h.browser, h.display, hmemory,
            h.store⟩

section

variable [Display D] {ρ : Type} (r : ρ)

/-- Marking the reader's place as a checkpoint. -/
theorem parallel_checkpoint (name : String) :
    Parallel l stores fun e : Engine σ S H D => (r, e.checkpoint name) := by
  refine .change (fun _ => ⟨rfl, rfl, rfl⟩) fun e e' h => ⟨rfl, h.story, h.renderer, ?_, h.state,
    h.browser, ?_, h.memory, h.store⟩
  · unfold checkpoint
    simp only [notify, h.place]
  · unfold checkpoint
    simp only [notify, h.display, h.story]

/-- Giving the display the story's configuration. -/
theorem parallel_configured :
    Parallel l stores fun e : Engine σ S H D => (r, e.configured) := by
  refine .change (fun _ => ⟨rfl, rfl, rfl⟩) fun e e' h => ⟨rfl, h.story, h.renderer, h.place,
    h.state, h.browser, ?_, h.memory, h.store⟩
  unfold configured
  rw [h.display, h.story]

end

/-! ## Section 4: One store -/

theorem Alike.saveKey {e e' : Engine σ S H D} (h : Alike l stores e e') :
    e.saveKey = e'.saveKey := by
  unfold Engine.saveKey
  rw [h.story]

theorem Alike.progress {e e' : Engine σ S H D} (h : Alike l stores e e') :
    e.progress = e'.progress := by
  unfold Engine.progress
  rw [h.place]

section

variable [Storage S]

omit [Storage S] in
/-- Calling the store, which is the same on both sides, with an event before and one after a
    success. -/
theorem parallel_afterCall {α : Type} {look : Engine σ S H D → α}
    (hlook : ∀ e e', Alike l Eq e e' → look e = look e') (before after : Event)
    (call : α → S → Except SlotError Unit × S) :
    Parallel l Eq fun e : Engine σ S H D => e.afterCall before after (call (look e) e.store) := by
  refine ⟨fun e _ => ?_, fun e e' _ h => .inr ?_⟩
  · rcases call (look e) e.store with ⟨err | _, store⟩ <;> exact ⟨rfl, rfl, id⟩
  · have hsame : call (look e) e.store = call (look e') e'.store := by
      rw [hlook e e' h, h.store]
    rw [hsame]
    rcases call (look e') e'.store with ⟨err | _, store⟩ <;>
      exact ⟨rfl, h.story, h.renderer, h.place, h.state, h.browser, h.display, h.memory, rfl⟩

/-- Saving the reader's progress. -/
theorem parallel_save : Parallel l Eq fun e : Engine σ S H D => e.save := by
  have hlook : ∀ e e' : Engine σ S H D, Alike l Eq e e' →
      (e.saveKey, e.progress) = (e'.saveKey, e'.progress) :=
    fun _ _ h => Prod.ext h.saveKey h.progress
  exact parallel_afterCall hlook .saving .saved fun kept store => Storage.save store kept.1 kept.2

/-- Taking the saved game away. -/
theorem parallel_reset : Parallel l Eq fun e : Engine σ S H D => e.reset :=
  parallel_afterCall (fun _ _ h => h.saveKey) .resetting .wasReset fun key store =>
    Storage.clear store key

variable [BrowserHistory H] [Display D]

/-- Goes to the last passage of what the store has loaded; the reason if that fails. -/
def restoreFrom (loaded : Except SlotError Progress) (e : Engine σ S H D) :
    Except String Unit × Engine σ S H D :=
  match loaded with
  | .error err => (.error err.message, e)
  | .ok p =>
    match p.last? with
    | none => (.error "save record has an empty history", e)
    | some last =>
      match (e.adopt p).goTo (.id last) false .decide with
      | (.ok _, after) => (.ok (), after)
      | (.error err, after) => (.error err.message, e.rollBack after)

omit [Storage S] in
theorem parallel_restoreFrom (loaded : Except SlotError Progress) :
    Parallel l stores fun e : Engine σ S H D => e.restoreFrom loaded := by
  cases loaded with
  | error err => exact .done _
  | ok p =>
    cases hp : p.last? with
    | none =>
      refine (Parallel.done (.error "save record has an empty history")).congr fun e => ?_
      simp only [restoreFrom, hp]
    | some last =>
      refine (parallel_adopted p last .decide EngineError.message).congr fun e => ?_
      simp only [restoreFrom, hp]

/-- Restoring the saved game. -/
theorem parallel_restore : Parallel l Eq fun e : Engine σ S H D => e.restore := by
  have hload : ∀ e e' : Engine σ S H D, Alike l Eq e e' →
      Storage.load e.store e.saveKey = Storage.load e'.store e'.saveKey := by
    intro e e' h
    rw [h.store, h.saveKey]
  have htry : Parallel l Eq fun e : Engine σ S H D => e.tryRestore :=
    .reading (fun e => Storage.load e.store e.saveKey) hload parallel_restoreFrom
  have hall := (Parallel.notify () .restoring).bind fun _ => htry
  refine hall.sequel (fun _ => .notify (.ok ()) .restored)
    (fun reason => .notify (.error (.restoreFailed reason)) (.restoreFailed reason)) ?_ ?_
  · intro e _ after h
    unfold restore
    rw [h]
  · intro e reason after h
    unfold restore
    rw [h]

theorem parallel_startFrom (kept : Except SlotError Bool) :
    Parallel l Eq fun e : Engine σ S H D => e.startFrom kept := by
  rcases kept with err | _ | _
  · exact parallel_begin
  · exact parallel_begin
  · refine parallel_restore.sequel (fun _ => .done (.ok ())) (fun _ => parallel_begin) ?_ ?_
    · intro e _ after h
      unfold startFrom
      rw [h]
    · intro e err after h
      unfold startFrom
      rw [h]

/-- Starting the session. -/
theorem parallel_play : Parallel l Eq fun e : Engine σ S H D => e.play := by
  have hkept : ∀ e e' : Engine σ S H D, Alike l Eq e e' →
      Storage.hasSave e.store e.saveKey = Storage.hasSave e'.store e'.saveKey := by
    intro e e' h
    rw [h.store, h.saveKey]
  have hstart : Parallel l Eq fun e : Engine σ S H D =>
      e.startFrom (Storage.hasSave e.store e.saveKey) :=
    .reading (fun e => Storage.hasSave e.store e.saveKey) hkept parallel_startFrom
  exact (parallel_configured ()).bind fun _ => hstart

end

/-! ## Section 5: Sessions -/

section

variable [Storage S] [BrowserHistory H] [Travel H]

omit [Storage S] [Travel H] in
/-- Following the browser to where it has gone. -/
theorem parallel_travel (moved : Option (Option Progress × H)) :
    Parallel l stores fun e : Engine σ S H Screen => e.travel moved := by
  cases moved with
  | none => exact .done _
  | some move =>
    obtain ⟨entry, browser⟩ := move
    have hgone : Parallel l stores fun e : Engine σ S H Screen => ((), { e with browser }) :=
      .change (fun _ => ⟨rfl, rfl, rfl⟩) fun _ _ h =>
        ⟨rfl, h.story, h.renderer, h.place, h.state, rfl, h.display, h.memory, h.store⟩
    exact hgone.bind fun _ => (parallel_handlePop entry).bind fun result =>
      .done (StepResult.of result)

/-- Follows a link of the screen, if there is one. -/
def clickOn (link : Option Link) (e : Engine σ S H Screen) : StepResult × Engine σ S H Screen :=
  match link with
  | none => (.noLink, e)
  | some link => (.of (e.followLink link.target).1, (e.followLink link.target).2)

omit [Storage S] [Travel H] in
theorem parallel_clickOn (link : Option Link) :
    Parallel l stores fun e : Engine σ S H Screen => e.clickOn link := by
  cases link with
  | none => exact .done _
  | some link =>
    exact (parallel_goTo (.name link.target) true .decide).bind fun result =>
      .done (StepResult.of result)

/-- Every step keeps engines alike. -/
theorem parallel_step (s : Step) : Parallel l Eq fun e : Engine σ S H Screen => e.step s := by
  have hof : ∀ result, Parallel l Eq fun e : Engine σ S H Screen => (StepResult.of result, e) :=
    fun _ => .done _
  cases s with
  | play => exact parallel_play.bind hof
  | goTo query addToHistory => exact (parallel_goTo query addToHistory .decide).bind hof
  | follow target => exact (parallel_goTo (.name target) true .decide).bind hof
  | click n =>
    have hclick : Parallel l Eq fun e : Engine σ S H Screen => e.clickOn (e.display.link? n) :=
      .reading (fun e => e.display.link? n)
        (fun _ _ h => congrArg (fun screen => screen.link? n) h.display.symm) parallel_clickOn
    exact hclick
  | showPassage query =>
    refine (parallel_showPassage query).sequel (fun p => .done (.rendered p))
      (fun err => .done (.failed err)) ?_ ?_
    · intro e p after h
      unfold step
      dsimp only
      rw [h]
    · intro e err after h
      unfold step
      dsimp only
      rw [h]
  | checkpoint name => exact parallel_checkpoint _ name
  | save => exact parallel_save.bind hof
  | restore => exact parallel_restore.bind hof
  | reset => exact parallel_reset.bind hof
  | back =>
    exact .reading (fun e => Travel.back? e.browser)
      (fun _ _ h => congrArg Travel.back? h.browser.symm) parallel_travel
  | forward =>
    exact .reading (fun e => Travel.forward? e.browser)
      (fun _ _ h => congrArg Travel.forward? h.browser.symm) parallel_travel
  | pop entry => exact (parallel_handlePop entry).bind hof
  | setVariable name value => exact .put _ id (Table.insert name value)
  | write state => exact .put _ id fun _ => state

/-- What can be seen of a step: its result, and what it leaves of everything but the
    evaluator's memory and the trace. -/
structure Observation (S H : Type) where
  result : StepResult
  place : Place
  state : StateBag
  store : S
  browser : H
  screen : Screen

def observation (x : StepResult × Engine σ S H Screen) : Observation S H where
  result := x.1
  place := x.2.place
  state := x.2.state
  store := x.2.store
  browser := x.2.browser
  screen := x.2.display

omit [Storage S] [BrowserHistory H] [Travel H] in
/-- Engines alike after steps with one result have the same to be seen. -/
theorem observation_eq_of_alike {x y : StepResult × Engine σ S H Screen} (hresult : x.1 = y.1)
    (h : Alike l Eq x.2 y.2) : observation x = observation y := by
  unfold observation
  rw [hresult, h.place, h.state, h.store, h.browser, h.display]

/-- What can be seen of steps in order. -/
def observations : List Step → Engine σ S H Screen → List (Observation S H)
  | [], _ => []
  | s :: steps, e => observation (e.step s) :: observations steps (e.step s).2

theorem observations_cons (s : Step) (steps : List Step) (e : Engine σ S H Screen) :
    observations (s :: steps) e = observation (e.step s) :: observations steps (e.step s).2 := rfl

theorem observations_append (steps later : List Step) (e : Engine σ S H Screen) :
    observations (steps ++ later) e = observations steps e ++ observations later (e.run steps) := by
  induction steps generalizing e with
  | nil => rfl
  | cons s steps ih =>
    have hrun : e.run (s :: steps) = (e.step s).2.run steps := rfl
    rw [hrun, List.cons_append, observations_cons, observations_cons, ih, List.cons_append]

theorem length_observations (steps : List Step) (e : Engine σ S H Screen) :
    (observations steps e).length = steps.length := by
  induction steps generalizing e with
  | nil => rfl
  | cons s steps ih =>
    rw [observations_cons, List.length_cons, List.length_cons, ih]

/-- A session keeps the story and the renderer, and a memory past comparing. -/
theorem run_keeping {e : Engine σ S H Screen} (hr : e.renderer.AgreesOn l e.story)
    (steps : List Step) : Keeping l e (e.run steps) := by
  induction steps generalizing e with
  | nil => exact ⟨rfl, rfl, id⟩
  | cons s steps ih =>
    have hstep := (parallel_step s).keeps e hr
    have hrest := ih (hstep.agreesOn hr)
    exact ⟨hrest.story.trans hstep.story, hrest.renderer.trans hstep.renderer,
      fun hpast => hrest.past (hstep.past hpast)⟩

/-- Engines alike show the same throughout a session after which the first one is not past
    comparing. -/
theorem Alike.run {e e' : Engine σ S H Screen} (h : Alike l Eq e e')
    (hr : e.renderer.AgreesOn l e.story) (steps : List Step)
    (hpast : ¬ l.past (e.run steps).memory) :
    observations steps e = observations steps e' ∧ Alike l Eq (e.run steps) (e'.run steps) := by
  induction steps generalizing e e' with
  | nil => exact ⟨rfl, h⟩
  | cons s steps ih =>
    have hr' := ((parallel_step s).keeps e hr).agreesOn hr
    rcases (parallel_step s).follows e e' hr h with hgone | ⟨hresult, hafter⟩
    · -- what is past comparing after the step is so after the session
      exact absurd ((run_keeping hr' steps).past hgone) hpast
    · obtain ⟨hrest, hfinal⟩ := ih hafter hr' hpast
      have hfirst : observation (e.step s) = observation (e'.step s) :=
        observation_eq_of_alike hresult hafter
      rw [observations_cons, observations_cons, hfirst, hrest]
      exact ⟨rfl, hfinal⟩

end

end Engine

end Hyperfiction
