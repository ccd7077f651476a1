import Hyperfiction.Proofs.Script.Draws
import Hyperfiction.Proofs.SideBySide

/-! # Failed navigations

    A navigation that fails takes back all it did to the engine. It does not take back what
    its templates drew from the random sequence: the draws of a helper belong to the helper.
    So the rest of the session is the one in which the navigation was never tried, but for
    a generator that may be further on, and nobody sees that before the next draw.
-/

namespace Hyperfiction

variable {S H D : Type}

/-- A step that goes to a passage, by a query or by a link. -/
def Step.goes : Step → Bool
  | .goTo _ _ | .follow _ | .click _ => true
  | _ => false

namespace Engine

/-! ## Section 1: What a failed navigation leaves -/

theorem step_goTo {σ : Type} [Storage S] [BrowserHistory H] [Travel H] (query : Query)
    (addToHistory : Bool) (e : Engine σ S H Screen) :
    e.step (.goTo query addToHistory) = (.of (e.goTo query addToHistory .decide).1,
      (e.goTo query addToHistory .decide).2) := rfl

/-- A navigation has failed if a step that goes to a passage has. -/
theorem goTo_of_step_failed {σ : Type} [Storage S] [BrowserHistory H] [Travel H]
    {e after : Engine σ S H Screen} {s : Step} {err : EngineError} (hs : s.goes = true)
    (h : e.step s = (.failed err, after)) :
    ∃ query addToHistory, e.goTo query addToHistory .decide = (.error err, after) := by
  -- the step hands on what the navigation comes to
  have hof : ∀ {result : Except EngineError Unit × Engine σ S H Screen},
      (StepResult.of result.1, result.2) = (.failed err, after) → result = (.error err, after) := by
    rintro ⟨err' | _, there⟩ hfailed
    · obtain ⟨herr, rfl⟩ := Prod.mk.inj hfailed
      obtain rfl := StepResult.failed.inj herr
      rfl
    · cases (Prod.mk.inj hfailed).1
  cases s with
  | goTo query addToHistory => exact ⟨query, addToHistory, hof h⟩
  | follow target => exact ⟨.name target, true, hof h⟩
  | click n =>
    cases hlink : e.display.link? n with
    | none =>
      unfold step at h
      simp only [hlink] at h
      cases (Prod.mk.inj h).1
    | some link =>
      unfold step at h
      simp only [hlink] at h
      exact ⟨.name link.target, true, hof h⟩
  | _ => cases hs

/-- A failed navigation leaves the generator where it was or further on, and everything else
    but the trace as it was. -/
theorem goTo_failed_draws [BrowserHistory H] [Display D] [KeepsOnRefusal H]
    {e after : Engine Random.Generator S H D} {query : Query} {addToHistory : Bool}
    {recording : Recording} {err : EngineError}
    (he : e.renderer.evaluator = Script.evaluator HelperSet.builtins)
    (h : e.goTo query addToHistory recording = (.error err, after)) :
    ∃ m trace, after = { e with memory := m, trace } ∧ (m = e.memory ∨ e.memory.Before m) := by
  obtain ⟨m, hafter⟩ := goTo_error_eq (congrArg Prod.fst h)
  rw [h] at hafter
  obtain rfl : after = _ := hafter
  refine ⟨m, _, rfl, ?_⟩
  have hagrees := Script.agreesOn_undrawn he e.memory e.memory e.story
  have halike : Alike (.undrawn e.memory e.memory) Eq e e :=
    ⟨rfl, rfl, rfl, rfl, rfl, rfl, ⟨rfl, rfl⟩, rfl⟩
  -- compared with itself, the engine has drawn or is where it was
  have hfollows := (parallel_goTo query addToHistory recording).follows e e hagrees halike
  rw [h] at hfollows
  rcases hfollows with hdrawn | ⟨-, hsame⟩
  · exact .inr hdrawn
  · exact .inl hsame.memory.1

/-! ## Section 2: The rest of the session -/

variable [Storage S] [BrowserHistory H] [Travel H]

/-- What an engine has told is no part of what can be seen of it later. -/
theorem observations_trace {σ : Type} (e : Engine σ S H Screen) (trace : List Event)
    (steps : List Step) : observations steps { e with trace } = observations steps e := by
  have halike : Alike .equal Eq { e with trace } e := ⟨rfl, rfl, rfl, rfl, rfl, rfl, rfl, rfl⟩
  exact (halike.run (Renderer.agreesOn_equal _ _) steps id).1

/-- Steps without a draw show the same from every place of the random sequence. -/
theorem observations_undrawn {e : Engine Random.Generator S H Screen}
    (he : e.renderer.evaluator = Script.evaluator HelperSet.builtins) (g : Random.Generator)
    {steps : List Step} (hsteps : (e.run steps).memory = e.memory) :
    observations steps { e with memory := g } = observations steps e := by
  have halike : Alike (.undrawn e.memory g) Eq e { e with memory := g } :=
    ⟨rfl, rfl, rfl, rfl, rfl, rfl, ⟨rfl, rfl⟩, rfl⟩
  have hundrawn : ¬ e.memory.Before (e.run steps).memory := by
    rw [hsteps]
    exact fun h => Nat.lt_irrefl _ h.2
  exact (halike.run (Script.agreesOn_undrawn he _ _ _) steps hundrawn).1.symm

/-- **A failed navigation moves the generator on, and nothing else.** Let a step that goes
    to a passage fail in a session with the helpers of every story. Then the generator is
    where it was or further on in its sequence. The session without that step goes the
    same way, except that what follows starts from that generator; and if the failed step
    drew nothing, or what follows draws nothing, it is the same session. -/
theorem failed_navigation_moves_generator [KeepsOnRefusal H]
    {first after : Engine Random.Generator S H Screen} {before : List Step} {s : Step}
    {err : EngineError} (he : first.renderer.evaluator = Script.evaluator HelperSet.builtins)
    (hs : s.goes = true) (hfails : (first.run before).step s = (.failed err, after)) :
    (after.memory = (first.run before).memory ∨
      (first.run before).memory.Before after.memory) ∧
    ∀ later,
      (observations (before ++ s :: later) first).eraseIdx before.length
        = observations before first ++
          observations later { first.run before with memory := after.memory } ∧
      (after.memory = (first.run before).memory ∨
          ((first.run before).run later).memory = (first.run before).memory →
        (observations (before ++ s :: later) first).eraseIdx before.length
          = observations (before ++ later) first) := by
  have hkeeping := run_keeping (Renderer.agreesOn_equal first.renderer first.story) before
  have he' : (first.run before).renderer.evaluator = Script.evaluator HelperSet.builtins := by
    rw [hkeeping.renderer, he]
  obtain ⟨query, addToHistory, hgo⟩ := goTo_of_step_failed hs hfails
  obtain ⟨m, trace, rfl, hmoved⟩ := goTo_failed_draws he' hgo
  refine ⟨hmoved, ?_⟩
  intro later
  have hwithout : (observations (before ++ s :: later) first).eraseIdx before.length
      = observations before first ++ observations later { first.run before with memory := m } := by
    rw [observations_append, observations_cons, hfails, ← length_observations before first,
      List.eraseIdx_append_of_length_le (Nat.le_refl _), Nat.sub_self, List.eraseIdx_cons_zero]
    dsimp only
    rw [← observations_trace { first.run before with memory := m } trace]
  refine ⟨hwithout, ?_⟩
  intro hquiet
  rw [hwithout, observations_append]
  rcases hquiet with hsame | hundrawn
  · obtain rfl : m = (first.run before).memory := hsame
    rfl
  · rw [observations_undrawn he' m hundrawn]

end Engine

/-! ## Section 3: A coin is tossed -/

/-- A coin: one of two numbers. -/
def tossPassage : Passage where
  id := 1
  name := "Toss"
  tags := []
  source := "&lt;%= either(1, 2) %&gt;"

/-- A passage that tosses the coin before it fails. -/
def jammedPassage : Passage where
  id := 2
  name := "Jammed"
  tags := []
  source := "&lt;%= either(1, 2) %&gt;&lt;%= stuck %&gt;"

/-- A story of these two passages. -/
def coinStory : Story where
  name := "Coin"
  ifid := none
  creator := none
  creatorVersion := none
  start := 1
  passages := .ofList [tossPassage, jammedPassage]
  config := {}
  passages_agree := PassageIndex.agrees_ofList _
  start_exists := by decide

/-- The generator of that story after some words of its sequence. -/
def coinGenerator (used : Nat) : Random.Generator :=
  { Random.Generator.ofSeed 9 with used }

/-- A reader of that story, at that place of the sequence, before anything has been done. -/
def coinReader (used : Nat) : Engine Random.Generator MemoryStore MemoryHistory Screen where
  story := coinStory
  renderer := { evaluator := Script.evaluator HelperSet.builtins, markup := .plain }
  memory := coinGenerator used
  store := {}
  browser := .fresh
  display := {}

/-- The script of the toss. -/
def coinProgram : Script.Program where
  functions := []
  body := [.expr (.call "either" [.int 1, .int 2])]

theorem parse_coinProgram :
    Script.Program.parse [Script.passageName, Script.storyName] ("(" ++ "either(1, 2)" ++ ")")
      = .ok coinProgram := by
  have htokens : Script.Token.list ("(" ++ "either(1, 2)" ++ ")").toList
      = [.symbol "(", .name "either", .symbol "(", .int 1, .symbol ",", .int 2, .symbol ")",
          .symbol ")"] := by
    cbv
  unfold Script.Program.parse
  rw [htokens]
  rfl

theorem parse_stuck :
    Script.Program.parse [Script.passageName, Script.storyName] ("(" ++ "stuck" ++ ")")
      = .error (.undefined "stuck") := by
  have htokens : Script.Token.list ("(" ++ "stuck" ++ ")").toList
      = [.symbol "(", .name "stuck", .symbol ")"] := by
    cbv
  unfold Script.Program.parse
  rw [htokens]
  rfl

theorem parse_tossPassage :
    Template.parse tossPassage.text = .ok [.interpolation "either(1, 2)" false] := by
  cbv

theorem parse_jammedPassage :
    Template.parse jammedPassage.text
      = .ok [.interpolation "either(1, 2)" false, .interpolation "stuck" false] := by
  cbv

/-- The first words of that story's sequence. -/
theorem block_coin : (Random.block (coinGenerator 0).key 0).toList.take 4
    = [2541201799, 2777516104, 3468389337, 156310276] := by
  rw [Random.block_eq]
  decide +kernel

theorem word_coin {i : Nat} (h : i < 4) : Random.word (coinGenerator 0).key i
    = [2541201799, 2777516104, 3468389337, 156310276].getD i 0 := by
  have hplace : i / 16 = 0 ∧ i % 16 = i := by omega
  unfold Random.word
  rw [hplace.1, hplace.2, ← block_coin, List.getD_eq_getElem?_getD, List.getElem?_take_of_lt h,
    Array.getElem?_toList, Array.getD_eq_getD_getElem?]

theorem next_coin (used : Nat) : (coinGenerator used).next.1
    = (Random.word (coinGenerator 0).key used).toNat
      + (Random.word (coinGenerator 0).key (used + 1)).toNat * UInt32.size := rfl

/-- The first two tosses of that story come out differently. -/
theorem choose_coin : (coinGenerator 0).choose 2 = (1, coinGenerator 2) ∧
    (coinGenerator 2).choose 2 = (0, coinGenerator 4) := by
  have hfirst : (coinGenerator 0).next.1 = 11929340833334536583 := by
    rw [next_coin, word_coin (by decide), word_coin (by decide)]
    rfl
  have hsecond : (coinGenerator 2).next.1 = 671347526917123033 := by
    rw [next_coin, word_coin (by decide), word_coin (by decide)]
    rfl
  constructor
  · rw [Random.Generator.choose_accepts (by rw [hfirst]; decide), hfirst]
    rfl
  · rw [Random.Generator.choose_accepts (by rw [hsecond]; decide), hsecond]
    rfl

/-- What the toss shows where a choice comes out as `i`. -/
theorem evaluate_coin (scene : Scene) {m m' : Random.Generator} {i : Nat} (hi : i = 0 ∨ i = 1)
    (hm : m.choose 2 = (i, m')) :
    ((Script.evaluator HelperSet.builtins).evaluate scene "either(1, 2)").outcome ⟨[], m⟩
      = (.ok (.int (i + 1)), ⟨[], m'⟩) := by
  have hasked : (coinProgram.run (Table.keys HelperSet.builtins)
      (Script.bindings scene [])).asked? = some ("either", [.int 1, .int 2]) := by cbv
  have heither : Helper.either.outcome scene [.int 1, .int 2] ⟨[], m⟩
      = (.ok (.int (i + 1)), ⟨[], m'⟩) := by
    rw [Helper.either_cons]
    show (Except.ok ([Value.int 1, .int 2].getD (m.choose 2).1 .null),
      (⟨[], (m.choose 2).2⟩ : World Random.Generator)) = _
    rw [hm]
    rcases hi with rfl | rfl <;> rfl
  refine Action.bind_eq_ok.2 ⟨.int (i + 1), ⟨[], m'⟩, ?_, rfl⟩
  rw [Script.runCode_outcome parse_coinProgram, Script.Run.outcome_asked hasked rfl heither]
  rcases hi with rfl | rfl
  · cbv
  · cbv

theorem evaluate_stuck (scene : Scene) (w : World Random.Generator) :
    ((Script.evaluator HelperSet.builtins).evaluate scene "stuck").outcome w
      = (.error (.unknownIdentifier "stuck"), w) := by
  refine Action.bind_eq_error.2 (.inl ?_)
  unfold Script.runCode
  rw [parse_stuck]
  rfl

/-- The piece of a template that shows the coin. -/
theorem expand_coin (scene : Scene) {m m' : Random.Generator} {i : Nat} (hi : i = 0 ∨ i = 1)
    (hm : m.choose 2 = (i, m')) :
    (Template.expandSegment (Script.evaluator HelperSet.builtins) scene
        (.interpolation "either(1, 2)" false)).outcome ⟨[], m⟩
      = (.ok (Value.int (i + 1)).displayChars, ⟨[], m'⟩) :=
  Action.bind_eq_ok.2 ⟨_, _, evaluate_coin scene hi hm, rfl⟩

/-- The toss as it is shown. -/
def tossShown (i : Nat) : RenderedPassage where
  passage := 1
  name := "Toss"
  html := (Value.int (i + 1)).display
  links := []

/-- Rendering the toss. -/
theorem render_toss {used : Nat} {scene : Scene} (hscene : scene.passage = tossPassage)
    {m m' : Random.Generator} {i : Nat} (hi : i = 0 ∨ i = 1) (hm : m.choose 2 = (i, m')) :
    ((coinReader used).renderer.render scene).outcome ⟨[], m⟩
      = (.ok (tossShown i), ⟨[], m'⟩) := by
  have htext : scene.passage.text = tossPassage.text := by rw [hscene]
  have hexpand : ((coinReader used).renderer.expand scene).outcome ⟨[], m⟩
      = (.ok (Value.int (i + 1)).display, ⟨[], m'⟩) := by
    unfold Renderer.expand Evaluator.expandText
    rw [htext, parse_tossPassage]
    refine Action.bind_eq_ok.2 ⟨(Value.int (i + 1)).displayChars, _, ?_, rfl⟩
    refine Action.bind_eq_ok.2 ⟨_, _, expand_coin scene hi hm, ?_⟩
    exact Action.bind_eq_ok.2 ⟨[], _, rfl, by rw [List.append_nil]; rfl⟩
  have hfinish : (coinReader used).renderer.finish scene.passage (Value.int (i + 1)).display
      = tossShown i := by
    rw [hscene]
    rcases hi with rfl | rfl <;> cbv
  refine Action.bind_eq_ok.2 ⟨_, _, hexpand, ?_⟩
  rw [← hfinish]
  rfl

/-- Rendering the jammed passage tosses the coin, and fails. -/
theorem render_jammed {used : Nat} {scene : Scene} (hscene : scene.passage = jammedPassage)
    {m m' : Random.Generator} {i : Nat} (hi : i = 0 ∨ i = 1) (hm : m.choose 2 = (i, m')) :
    ((coinReader used).renderer.render scene).outcome ⟨[], m⟩
      = (.error (.unknownIdentifier "stuck"), ⟨[], m'⟩) := by
  have htext : scene.passage.text = jammedPassage.text := by rw [hscene]
  refine Action.bind_eq_error.2 (.inl ?_)
  unfold Renderer.expand Evaluator.expandText
  rw [htext, parse_jammedPassage]
  refine Action.bind_eq_error.2 (.inl ?_)
  -- the first piece shows the coin, and the second one fails
  refine Action.bind_eq_error.2 (.inr ⟨_, _, expand_coin scene hi hm, ?_⟩)
  refine Action.bind_eq_error.2 (.inl (Action.bind_eq_error.2 (.inl ?_)))
  exact Action.bind_eq_error.2 (.inl (evaluate_stuck scene _))

/-- A reader who goes to the toss first is shown what comes next in the sequence. -/
theorem html_toss {used used' i : Nat} (hi : i = 0 ∨ i = 1)
    (hm : (coinGenerator used).choose 2 = (i, coinGenerator used')) :
    ((coinReader used).goTo (.name "Toss") true .decide).2.display.html
      = (Value.int (i + 1)).display := by
  have hq : coinStory.resolve (.name "Toss") = some tossPassage := by decide
  have hheader : coinStory.header? = none := by decide
  have hfooter : coinStory.footer? = none := by decide
  have hframe : RendersFrame (coinReader used).renderer
      ((coinReader used).sceneOf tossPassage true) ⟨[], coinGenerator used⟩
      { passage := tossShown i, header := none, footer := none } ⟨[], coinGenerator used'⟩ := by
    refine ⟨_, ⟨[], coinGenerator used'⟩, render_toss rfl hi hm, ?_, ?_⟩
    · show RendersOptional _ _ coinStory.header? _ _ _
      rw [hheader]
      exact .missing _
    · show RendersOptional _ _ coinStory.footer? _ _ _
      rw [hfooter]
      exact .missing _
  rw [Engine.goTo_recorded hq hframe (Prod.ext (MemoryHistory.accepts _ _ _) rfl)]
  unfold Engine.arrivedAt Screen.html
  dsimp only
  rw [(Frame.showOn_screen _ _).1]
  rfl

/-- A reader who goes to the jammed passage first stays where they are. -/
theorem goTo_jammed : (coinReader 0).goTo (.name "Jammed") true .decide
    = (.error (.template (.unknownIdentifier "stuck")),
        { coinReader 2 with trace := [.goingTo (.name "Jammed")] }) := by
  have hq : coinStory.resolve (.name "Jammed") = some jammedPassage := by decide
  have hframe : (Engine.frameOf (coinReader 0).renderer
      ((coinReader 0).sceneOf jammedPassage true)).outcome
        ⟨(coinReader 0).state, (coinReader 0).memory⟩
      = (.error (.unknownIdentifier "stuck"), ⟨[], coinGenerator 2⟩) :=
    Action.bind_eq_error.2 (.inl (render_jammed rfl (.inr rfl) choose_coin.1))
  rw [Engine.goTo_resolved hq, hframe]
  rfl

/-- A navigation that jams decides what the next toss shows: without it the toss comes out as
    2, and after it as 1. -/
theorem toss_after_jam :
    (coinReader 0).renderer.evaluator = Script.evaluator HelperSet.builtins ∧
      (∃ after, (coinReader 0).step (.goTo (.name "Jammed") true)
        = (.failed (.template (.unknownIdentifier "stuck")), after)) ∧
      ((Engine.observations [.goTo (.name "Jammed") true, .goTo (.name "Toss") true]
        (coinReader 0)).eraseIdx 0).map (fun o => o.screen.html) = ["1"] ∧
      (Engine.observations [.goTo (.name "Toss") true] (coinReader 0)).map
        (fun o => o.screen.html) = ["2"] := by
  obtain ⟨hfirst, hsecond⟩ := choose_coin
  have hjammed := Engine.step_goTo (.name "Jammed") true (coinReader 0)
  rw [goTo_jammed] at hjammed
  have hlater : (Engine.observations [.goTo (.name "Jammed") true, .goTo (.name "Toss") true]
      (coinReader 0)).eraseIdx 0
        = Engine.observations [.goTo (.name "Toss") true] (coinReader 2) := by
    rw [Engine.observations_cons, hjammed, List.eraseIdx_cons_zero]
    exact Engine.observations_trace _ _ _
  have hhtml : ∀ (e : Engine Random.Generator MemoryStore MemoryHistory Screen),
      (Engine.observations [.goTo (.name "Toss") true] e).map (fun o => o.screen.html)
        = [(e.goTo (.name "Toss") true .decide).2.display.html] := fun _ => rfl
  refine ⟨rfl, ⟨_, hjammed⟩, ?_, ?_⟩
  · rw [hlater, hhtml, html_toss (.inl rfl) hsecond]
    rfl
  · rw [hhtml, html_toss (.inr rfl) hfirst]
    rfl

/-- Naming a checkpoint draws nothing, and comes to the same before and after the jam. -/
theorem failed_navigation_moves_generator_jam : ∃ after,
    (coinReader 0).step (.goTo (.name "Jammed") true)
        = (.failed (.template (.unknownIdentifier "stuck")), after) ∧
      (coinReader 0).memory.Before after.memory ∧
      (Engine.observations [.goTo (.name "Jammed") true, .checkpoint "Night"]
        (coinReader 0)).eraseIdx 0
        = Engine.observations [.checkpoint "Night"] (coinReader 0) := by
  have hjammed := Engine.step_goTo (.name "Jammed") true (coinReader 0)
  rw [goTo_jammed] at hjammed
  have hfails : ((coinReader 0).run []).step (.goTo (.name "Jammed") true) = _ := hjammed
  obtain ⟨hmoved, hlater⟩ := Engine.failed_navigation_moves_generator rfl rfl hfails
  refine ⟨_, hjammed, ?_, (hlater [.checkpoint "Night"]).2 (.inr rfl)⟩
  rcases hmoved with hsame | hbefore
  · have hused : (2 : Nat) = 0 := congrArg Random.Generator.used hsame
    cases hused
  · exact hbefore

end Hyperfiction
