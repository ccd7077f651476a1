import Mathlib.Data.List.Induction
import Hyperfiction.Proofs.Movement
import Hyperfiction.Proofs.Travel

/-! # The passage on screen

    During a session the last passage of the history is the one on screen. The operations
    that could break this are those that take a history over from outside: a saved game,
    or an entry that the browser reports, of any content. They put everything back when
    the passage at its end cannot be shown. So a session is a row of arrivals with nothing
    happening to the screen in between, and what is on screen, all three parts of it, was
    rendered by the last arrival.
-/

namespace Hyperfiction

variable {σ S H : Type}

/-! ## Section 1: Sessions -/

/-- A step of a session. The store may have been exchanged from outside before it, for one
    with any content. -/
structure Move (S : Type) where
  store : Option S := none
  step : Step

namespace Engine

variable [Storage S] [BrowserHistory H] [Travel H]

/-- The engine over another store, if there is one. -/
def withStore (store : Option S) (e : Engine σ S H Screen) : Engine σ S H Screen :=
  { e with store := store.getD e.store }

/-- Makes a move. -/
def move (m : Move S) (e : Engine σ S H Screen) : StepResult × Engine σ S H Screen :=
  (e.withStore m.store).step m.step

/-- The engine after moves in order. -/
def moved : List (Move S) → Engine σ S H Screen → Engine σ S H Screen
  | [], e => e
  | m :: rest, e => (e.move m).2.moved rest

/-- A passage that is gone to without adding it to the history is the last one there. -/
def Admits (e : Engine σ S H Screen) (s : Step) : Prop :=
  ∀ query, s = .goTo query false →
    ∃ passage, e.story.resolve query = some passage ∧
      e.place.history.getLast? = some passage.id

/-- Every step of the moves is admitted where it is taken. -/
def Admitted : List (Move S) → Engine σ S H Screen → Prop
  | [], _ => True
  | m :: rest, e => (e.withStore m.store).Admits m.step ∧ (e.move m).2.Admitted rest

/-- Whether following the browser to an entry shows a passage: a blank entry does only
    before anything has been visited. -/
def follows (e : Engine σ S H Screen) : Option Progress → Bool
  | some _ => true
  | none => e.place.history.isEmpty

/-- Whether a step is a navigation, which shows a passage if it succeeds. -/
def navigates (e : Engine σ S H Screen) : Step → Bool
  | .play | .goTo _ _ | .follow _ | .click _ | .restore => true
  | .pop entry => e.follows entry
  | .back => (Travel.back? e.browser).any fun moved => e.follows moved.1
  | .forward => (Travel.forward? e.browser).any fun moved => e.follows moved.1
  | .showPassage _ | .checkpoint _ | .save | .reset | .setVariable _ _ | .write _ => false

/-- The step is a navigation that succeeds. -/
def Arrives (e : Engine σ S H Screen) (s : Step) : Prop :=
  e.navigates s = true ∧ (e.step s).1 = .done

instance (e : Engine σ S H Screen) (s : Step) : Decidable (e.Arrives s) :=
  inferInstanceAs (Decidable (_ ∧ _))

/-- How many of the moves are navigations that succeed. -/
def arrivals : List (Move S) → Engine σ S H Screen → Nat
  | [], _ => 0
  | m :: rest, e =>
    (if (e.withStore m.store).Arrives m.step then 1 else 0) + (e.move m).2.arrivals rest

theorem moved_append (moves rest : List (Move S)) (e : Engine σ S H Screen) :
    e.moved (moves ++ rest) = (e.moved moves).moved rest := by
  induction moves generalizing e with
  | nil => rfl
  | cons m moves ih => exact ih (e.move m).2

theorem moved_concat (moves : List (Move S)) (m : Move S) (e : Engine σ S H Screen) :
    e.moved (moves ++ [m]) = ((e.moved moves).move m).2 :=
  moved_append moves [m] e

theorem admitted_append {moves rest : List (Move S)} {e : Engine σ S H Screen} :
    e.Admitted (moves ++ rest) ↔ e.Admitted moves ∧ (e.moved moves).Admitted rest := by
  induction moves generalizing e with
  | nil => exact ⟨fun h => ⟨trivial, h⟩, And.right⟩
  | cons m moves ih => exact (and_congr_right fun _ => ih).trans and_assoc.symm

theorem arrivals_concat (moves : List (Move S)) (m : Move S) (e : Engine σ S H Screen) :
    e.arrivals (moves ++ [m])
      = e.arrivals moves + if ((e.moved moves).withStore m.store).Arrives m.step then 1 else 0 := by
  induction moves generalizing e with
  | nil => exact Nat.add_comm _ _
  | cons m' rest ih =>
    simp only [List.cons_append, arrivals, moved, ih (e.move m').2, Nat.add_assoc]
    rfl

/-! ## Section 2: What a step shows -/

/-- A step arrives, or moves nothing. -/
def StepArrivesOrKeeps (e : Engine σ S H Screen) (s : Step) : Prop :=
  (e.Arrives s ∧ ∃ passage frame, e.Arrived (e.step s).2 passage frame) ∨
    (¬ e.Arrives s ∧ e.Unmoved (e.step s).2)

/-- A navigation as a step of a session, which may set out after something that moves
    nothing. -/
theorem stepArrivesOrKeeps_of_navigates {e set : Engine σ S H Screen} {s : Step}
    {result : Except EngineError Unit × Engine σ S H Screen} (hn : e.navigates s = true)
    (hs : e.step s = (.of result.1, result.2)) (hset : e.Unmoved set)
    (h : set.ArrivesOrKeeps result) : e.StepArrivesOrKeeps s := by
  cases h with
  | arrives ha =>
    refine .inl ⟨⟨hn, ?_⟩, ?_⟩
    · rw [hs]
      rfl
    · rw [hs]
      exact ⟨_, _, ha.of_same hset.story hset.renderer hset.display⟩
  | keeps hk =>
    refine .inr ⟨?_, ?_⟩
    · rintro ⟨-, hdone⟩
      rw [hs] at hdone
      cases hdone
    · rw [hs]
      exact hset.trans hk

/-- A step that is no navigation. -/
theorem stepArrivesOrKeeps_of_unmoved {e : Engine σ S H Screen} {s : Step}
    (hn : e.navigates s = false) (h : e.Unmoved (e.step s).2) : e.StepArrivesOrKeeps s := by
  refine .inr ⟨?_, h⟩
  rintro ⟨hn', -⟩
  rw [hn] at hn'
  cases hn'

/-- Following the browser, which may have gone to another place, to an entry. -/
theorem stepArrivesOrKeeps_of_pop {e : Engine σ S H Screen} {s : Step} {browser : H}
    {entry : Option Progress} (hn : e.navigates s = e.follows entry)
    (hs : e.step s = (.of ({ e with browser }.handlePop entry).1,
      ({ e with browser }.handlePop entry).2)) : e.StepArrivesOrKeeps s := by
  have hmoved : e.Unmoved { e with browser } := ⟨rfl, rfl, rfl, .refl _⟩
  cases entry with
  | some p =>
    exact stepArrivesOrKeeps_of_navigates hn hs
      hmoved (handlePop_entry_arrivesOrKeeps _ p)
  | none =>
    by_cases hempty : e.place.history = []
    · have hfollows : e.navigates s = true := hn.trans (List.isEmpty_iff.2 hempty)
      exact stepArrivesOrKeeps_of_navigates hfollows hs
        hmoved (handlePop_blank_arrivesOrKeeps hempty)
    · -- the reader stays in the story, which succeeds and is no navigation
      have hfollows : e.navigates s = false := hn.trans (List.isEmpty_eq_false_iff.2 hempty)
      refine stepArrivesOrKeeps_of_unmoved hfollows ?_
      rw [hs, handlePop_blank_visited (e := { e with browser }) hempty]
      exact hmoved

/-- Going back or forward in the browser. -/
theorem stepArrivesOrKeeps_of_travel {e : Engine σ S H Screen} {s : Step}
    {there? : Option (Option Progress × H)}
    (hn : e.navigates s = there?.any fun moved => e.follows moved.1)
    (hs : e.step s = e.travel there?) : e.StepArrivesOrKeeps s := by
  cases there? with
  | none =>
    refine stepArrivesOrKeeps_of_unmoved hn ?_
    rw [hs]
    exact .refl e
  | some moved =>
    obtain ⟨entry, browser⟩ := moved
    exact stepArrivesOrKeeps_of_pop hn hs

/-- Every step arrives or moves nothing. -/
theorem step_arrivesOrKeeps {e : Engine σ S H Screen} {s : Step} (h : e.Admits s) :
    e.StepArrivesOrKeeps s := by
  cases s with
  | play => exact stepArrivesOrKeeps_of_navigates rfl rfl (.refl e) e.play_arrivesOrKeeps
  | goTo query addToHistory =>
    cases addToHistory with
    | true =>
      exact stepArrivesOrKeeps_of_navigates rfl rfl (.refl e) (e.goToPassage_arrivesOrKeeps query)
    | false =>
      obtain ⟨passage, hq, hlast⟩ := h query rfl
      refine stepArrivesOrKeeps_of_navigates rfl rfl (.refl e) (goTo_arrivesOrKeeps ?_ .decide)
      intro passage' hq'
      obtain rfl := Option.some.inj (hq.symm.trans hq')
      exact hlast
  | follow target =>
    exact stepArrivesOrKeeps_of_navigates rfl rfl (.refl e)
      (e.goToPassage_arrivesOrKeeps (.name target))
  | click n =>
    cases hlink : e.display.link? n with
    | none =>
      have hstep := step_click_none hlink
      refine .inr ⟨?_, ?_⟩
      · rintro ⟨-, hdone⟩
        rw [hstep] at hdone
        cases hdone
      · rw [hstep]
        exact .refl e
    | some link =>
      exact stepArrivesOrKeeps_of_navigates rfl (step_click_some hlink) (.refl e)
        (e.goToPassage_arrivesOrKeeps (.name link.target))
  | showPassage query =>
    refine stepArrivesOrKeeps_of_unmoved rfl ?_
    rw [step_showPassage]
    exact e.unmoved_showPassage query
  | checkpoint name => exact stepArrivesOrKeeps_of_unmoved rfl (e.unmoved_checkpoint name)
  | save => exact stepArrivesOrKeeps_of_unmoved rfl e.unmoved_save
  | restore => exact stepArrivesOrKeeps_of_navigates rfl rfl (.refl e) e.restore_arrivesOrKeeps
  | reset => exact stepArrivesOrKeeps_of_unmoved rfl e.unmoved_reset
  | back => exact stepArrivesOrKeeps_of_travel rfl rfl
  | forward => exact stepArrivesOrKeeps_of_travel rfl rfl
  | pop entry => exact stepArrivesOrKeeps_of_pop rfl rfl
  | setVariable name value => exact stepArrivesOrKeeps_of_unmoved rfl ⟨rfl, rfl, rfl, .refl _⟩
  | write state => exact stepArrivesOrKeeps_of_unmoved rfl ⟨rfl, rfl, rfl, .refl _⟩

/-! ## Section 3: What is on screen -/

/-- The frame fills the screen: no part of it is left from before. -/
structure Fills (frame : Frame) (s : Screen) : Prop where
  passage : s.passage = some frame.passage
  header : s.header = frame.header
  footer : s.footer = frame.footer

omit [Storage S] [BrowserHistory H] [Travel H] in
theorem Unmoved.tidy {e after : Engine σ S H Screen} (h : e.Unmoved after) (ht : e.Tidy) :
    after.Tidy := by
  obtain ⟨-, hheader, hfooter, -⟩ := h.display.screen
  unfold Tidy
  rw [h.story, hheader, hfooter]
  exact ht

omit [Storage S] [BrowserHistory H] [Travel H] in
/-- On a tidy screen an arrival fills the screen, counts as one more display, and leaves a
    tidy screen. -/
theorem Arrived.fills {e after : Engine σ S H Screen} {passage : Passage} {frame : Frame}
    (h : e.Arrived after passage frame) (ht : e.Tidy) :
    Fills frame after.display ∧ after.display.displays = e.display.displays + 1 ∧
      after.Tidy := by
  obtain ⟨hview, htidy⟩ := h.view ht
  obtain ⟨d, hdressed, hshown⟩ := h.display
  obtain ⟨-, -, -, hdisplays⟩ := hdressed.screen
  refine ⟨⟨congrArg View.passage hview, congrArg View.header hview, congrArg View.footer hview⟩,
    ?_, htidy⟩
  rw [hshown, frame.displays_showOn, hdisplays]

/-- The last arrival of a session: after the moves `before` the move `m` arrives at
    `passage`, where `frame` is shown, and none of the moves `rest` arrives. -/
structure LastArrival (first : Engine σ S H Screen) (before : List (Move S)) (m : Move S)
    (rest : List (Move S)) (passage : Passage) (frame : Frame) : Prop where
  arrives : ((first.moved before).withStore m.store).Arrives m.step
  arrived : ((first.moved before).withStore m.store).Arrived (first.moved (before ++ [m])) passage
    frame
  waits : (first.moved (before ++ [m])).arrivals rest = 0

/-- The screen after the moves is accounted for by the arrivals among them. -/
structure Accounted (first : Engine σ S H Screen) (moves : List (Move S)) : Prop where
  story : (first.moved moves).story = first.story
  tidy : (first.moved moves).Tidy
  displays : (first.moved moves).display.displays = first.arrivals moves
  blank : first.arrivals moves = 0 → (first.moved moves).place.history = [] ∧
    (first.moved moves).display.passage = none ∧ (first.moved moves).display.header = none ∧
    (first.moved moves).display.footer = none
  shown : first.arrivals moves ≠ 0 → ∃ before m rest passage frame,
    moves = before ++ m :: rest ∧ first.LastArrival before m rest passage frame ∧
    (first.moved moves).place.history = (first.moved (before ++ [m])).place.history ∧
    Fills frame (first.moved moves).display

theorem accounted_fresh {first : Engine σ S H Screen} (hf : IsFresh first) :
    first.Accounted [] where
  story := rfl
  tidy := tidy_of_isFresh hf
  displays := by
    show first.display.displays = 0
    rw [hf.screen]
  blank := by
    intro _
    show first.place.history = [] ∧ first.display.passage = none ∧ first.display.header = none ∧
      first.display.footer = none
    rw [hf.place, hf.screen]
    exact ⟨rfl, rfl, rfl, rfl⟩
  shown := fun h => absurd rfl h

omit [Storage S] [BrowserHistory H] [Travel H] in
/-- Exchanging the store moves nothing. -/
theorem unmoved_withStore (e : Engine σ S H Screen) (store : Option S) :
    e.Unmoved (e.withStore store) :=
  ⟨rfl, rfl, rfl, .refl _⟩

/-- A move that arrives accounts for the screen by itself. -/
theorem Accounted.arrive {first : Engine σ S H Screen} {moves : List (Move S)} {m : Move S}
    (h : first.Accounted moves) (ha : ((first.moved moves).withStore m.store).Arrives m.step)
    {passage : Passage} {frame : Frame}
    (harrived : ((first.moved moves).withStore m.store).Arrived (first.moved (moves ++ [m])) passage
      frame) : first.Accounted (moves ++ [m]) := by
  have hstore := (first.moved moves).unmoved_withStore m.store
  obtain ⟨hfills, hdisplays, htidy⟩ := harrived.fills (hstore.tidy h.tidy)
  have hcount : first.arrivals (moves ++ [m]) = first.arrivals moves + 1 := by
    rw [arrivals_concat, if_pos ha]
  refine ⟨harrived.story.trans h.story, htidy, ?_, ?_, ?_⟩
  · rw [hdisplays, hcount, ← h.displays]
    rfl
  · intro hnone
    rw [hcount] at hnone
    cases hnone
  · intro _
    exact ⟨moves, m, [], passage, frame, rfl, ⟨ha, harrived, rfl⟩, rfl, hfills⟩

/-- A move that does not arrive leaves the screen to the last one that did. -/
theorem Accounted.keep {first : Engine σ S H Screen} {moves : List (Move S)} {m : Move S}
    (h : first.Accounted moves) (ha : ¬ ((first.moved moves).withStore m.store).Arrives m.step)
    (hk : (first.moved moves).Unmoved (first.moved (moves ++ [m]))) :
    first.Accounted (moves ++ [m]) := by
  obtain ⟨hpassage, hheader, hfooter, hdisplays⟩ := hk.display.screen
  have hcount : first.arrivals (moves ++ [m]) = first.arrivals moves := by
    rw [arrivals_concat, if_neg ha, Nat.add_zero]
  refine ⟨hk.story.trans h.story, hk.tidy h.tidy, ?_, ?_, ?_⟩
  · rw [hdisplays, hcount, h.displays]
  · rw [hcount, hk.history, hpassage, hheader, hfooter]
    exact h.blank
  · rw [hcount]
    intro hsome
    obtain ⟨before, m', rest, passage, frame, rfl, hlast, hhistory, hfills⟩ := h.shown hsome
    have hsplit : before ++ m' :: rest = before ++ [m'] ++ rest := by simp
    have hmoved : first.moved (before ++ m' :: rest)
        = (first.moved (before ++ [m'])).moved rest := by
      rw [hsplit]
      exact moved_append _ _ _
    refine ⟨before, m', rest ++ [m], passage, frame, by simp, ⟨hlast.arrives, hlast.arrived, ?_⟩,
      hk.history.trans hhistory, ⟨?_, ?_, ?_⟩⟩
    · rw [arrivals_concat, hlast.waits, ← hmoved, if_neg ha]
    · rw [hpassage, hfills.passage]
    · rw [hheader, hfills.header]
    · rw [hfooter, hfills.footer]

/-- The screen is accounted for after every session. -/
theorem accounted_moved {first : Engine σ S H Screen} (hf : IsFresh first)
    {moves : List (Move S)} (hm : first.Admitted moves) : first.Accounted moves := by
  -- the account is continued at the end of the session, so the session is taken apart there
  induction moves using List.reverseRecOn with
  | nil => exact accounted_fresh hf
  | append_singleton moves m ih =>
    obtain ⟨hbefore, hlast, -⟩ := admitted_append.1 hm
    have h := ih hbefore
    rcases step_arrivesOrKeeps hlast with ⟨ha, passage, frame, harrived⟩ | ⟨ha, hk⟩
    · have hcame : ((first.moved moves).withStore m.store).Arrived
          (first.moved (moves ++ [m])) passage frame := by
        rw [moved_concat]
        exact harrived
      exact h.arrive ha hcame
    · refine h.keep ha ?_
      rw [moved_concat]
      exact ((first.moved moves).unmoved_withStore m.store).trans hk

/-! ## Section 4: What the engine says about it -/

/-- What is on screen is a frame of the passage that was visited last, and so the engine
    says. -/
structure Showing (e : Engine σ S H Screen) (passage : Passage) (frame : Frame) : Prop where
  last : e.place.history.getLast? = some passage.id
  found : e.story.passage? passage.id = some passage
  phase : e.phase = .displaying passage.id
  current : e.currentPassage? = some passage
  fills : Fills frame e.display
  same : frame.passage.passage = passage.id
  header : e.display.header.isSome = e.story.header?.isSome
  footer : e.display.footer.isSome = e.story.footer?.isSome

omit [Storage S] [BrowserHistory H] [Travel H] in
/-- Where an arrival has been, its frame is shown as long as history and screen stay. -/
theorem Arrived.showing {e after now : Engine σ S H Screen} {passage : Passage} {frame : Frame}
    (h : e.Arrived after passage frame) (hstory : now.story = e.story)
    (hhistory : now.place.history = after.place.history) (hfills : Fills frame now.display) :
    now.Showing passage frame := by
  obtain ⟨m, hrendered⟩ := h.rendered
  obtain ⟨w₁, w₂, -, hheader, hfooter⟩ := id hrendered
  have hlast : now.place.history.getLast? = some passage.id := by
    rw [hhistory]
    exact h.last
  have hfound : now.story.passage? passage.id = some passage := by
    rw [hstory]
    exact h.found
  refine ⟨hlast, hfound, ?_, ?_, hfills, hrendered.passage_id, ?_, ?_⟩
  · unfold phase Place.current?
    rw [hlast]
  · unfold currentPassage? Place.current?
    rw [hlast]
    exact hfound
  · rw [hfills.header, hstory, Bool.eq_iff_iff, Option.isSome_iff_ne_none,
      Option.isSome_iff_ne_none]
    exact not_congr hheader.none_iff
  · rw [hfills.footer, hstory, Bool.eq_iff_iff, Option.isSome_iff_ne_none,
      Option.isSome_iff_ne_none]
    exact not_congr hfooter.none_iff

/-- **The last passage of the history is on screen.** Take any session from a new engine,
    with the store exchanged at any time for any other, in which a passage is gone to
    without adding it only if it is the last one. As many passages have been shown as
    navigations have succeeded. The history is empty exactly if none has, or, which is the
    same, if no passage is on screen. Otherwise the last id of the history is that of a
    passage of the story, which the engine names as the one displayed, and all of the
    screen is the frame that the last navigation to succeed rendered for it: the passage,
    and a header and a footer exactly if the story has them. -/
theorem last_visited_on_screen {first : Engine σ S H Screen} (hf : IsFresh first)
    {moves : List (Move S)} (hm : first.Admitted moves) :
    (first.moved moves).display.displays = first.arrivals moves ∧
    ((first.moved moves).place.history = [] ↔ first.arrivals moves = 0) ∧
    ((first.moved moves).place.history = [] ↔ (first.moved moves).display.passage = none) ∧
    ((first.moved moves).place.history = [] →
      (first.moved moves).phase = .idle ∧ (first.moved moves).currentPassage? = none ∧
      (first.moved moves).display.header = none ∧ (first.moved moves).display.footer = none) ∧
    ((first.moved moves).place.history ≠ [] → ∃ before m rest passage frame,
      moves = before ++ m :: rest ∧ first.LastArrival before m rest passage frame ∧
      (first.moved moves).Showing passage frame) := by
  have h := accounted_moved hf hm
  have hshown : first.arrivals moves ≠ 0 → ∃ before m rest passage frame,
      moves = before ++ m :: rest ∧ first.LastArrival before m rest passage frame ∧
      (first.moved moves).Showing passage frame := by
    intro hsome
    obtain ⟨before, m, rest, passage, frame, hmoves, hlast, hhistory, hfills⟩ := h.shown hsome
    have hbefore : first.Admitted before := by
      rw [hmoves] at hm
      exact (admitted_append.1 hm).1
    have hstory : (first.moved moves).story = ((first.moved before).withStore m.store).story :=
      h.story.trans (accounted_moved hf hbefore).story.symm
    exact ⟨before, m, rest, passage, frame, hmoves, hlast,
      hlast.arrived.showing hstory hhistory hfills⟩
  have hnone : (first.moved moves).place.history = [] ↔ first.arrivals moves = 0 := by
    refine ⟨?_, fun hzero => (h.blank hzero).1⟩
    intro hempty
    by_contra hsome
    obtain ⟨_, _, _, passage, frame, -, -, hs⟩ := hshown hsome
    have hlast := hs.last
    rw [hempty] at hlast
    cases hlast
  refine ⟨h.displays, hnone, ⟨?_, ?_⟩, ?_, fun hsome => hshown (mt hnone.2 hsome)⟩
  · exact fun hempty => (h.blank (hnone.1 hempty)).2.1
  · intro hpassage
    refine hnone.2 ?_
    by_contra hsome
    obtain ⟨_, _, _, passage, frame, -, -, hs⟩ := hshown hsome
    rw [hs.fills.passage] at hpassage
    cases hpassage
  · intro hempty
    obtain ⟨-, -, hheader, hfooter⟩ := h.blank (hnone.1 hempty)
    refine ⟨?_, ?_, hheader, hfooter⟩
    · unfold phase Place.current?
      rw [hempty]
      rfl
    · unfold currentPassage? Place.current?
      rw [hempty]
      rfl

end Engine

/-! ## Section 5: In the cellar again -/

/-- Down to the cellar. There the gold is lost, so that its header fails when it is shown
    again; an entry of another story fails as well, and a blank one changes nothing. -/
def cellarMoves : List (Move MemoryStore) :=
  lampSteps.map ({ step := · }) ++
    [{ step := .write [("lamp", .bool true)] }, { step := .goTo (.name "Cellar") false },
      { step := .pop (some { state := [], history := [1, 7], checkpoint := "" }) },
      { step := .pop none }]

theorem admitted_cellarMoves : lampFirst.Admitted cellarMoves := by
  -- only the fifth move goes to a passage without adding it
  have hcellar : (lampFirst.moved (cellarMoves.take 4)).place.history.getLast? = some 2 ∧
      ((lampFirst.moved (cellarMoves.take 4)).story.resolve (.name "Cellar")).map Passage.id
        = some 2 := by cbv
  obtain ⟨hlast, hfound⟩ := hcellar
  obtain ⟨passage, hpassage, hid⟩ := Option.map_eq_some_iff.1 hfound
  refine ⟨?_, ?_, ?_, ?_, ?again, ?_, ?_, trivial⟩
  case again =>
    intro query hquery
    obtain ⟨rfl, -⟩ := Step.goTo.inj hquery
    exact ⟨passage, hpassage, hlast.trans (congrArg some hid.symm)⟩
  all_goals
    intro query hquery
    cases hquery

/-- With the saved game gone as well, the cellar and the header that was rendered with it
    are still on screen. -/
theorem last_visited_on_screen_cellar : ∃ moves before m rest passage frame,
    moves = cellarMoves ++ [{ store := some {}, step := .restore }] ∧
    moves = before ++ m :: rest ∧ lampFirst.LastArrival before m rest passage frame ∧
    (lampFirst.moved moves).Showing passage frame ∧ passage.id = 2 ∧
    frame.header.map RenderedPassage.html = some "3" ∧ lampFirst.arrivals moves = 2 := by
  have hrun : ((lampFirst.moved cellarMoves).place.history,
      (lampFirst.moved cellarMoves).display.header.map RenderedPassage.html,
      (lampFirst.moved cellarMoves).display.displays) = ([1, 2], some "3", 2) := by cbv
  obtain ⟨hhistory, hrest⟩ := Prod.mk.inj hrun
  obtain ⟨hheader, hdisplays⟩ := Prod.mk.inj hrest
  -- there is no saved game in the new store, so that restoring only tells that it failed
  have hnone : ∀ p, Storage.load ((lampFirst.moved cellarMoves).withStore (some {})).store
      ((lampFirst.moved cellarMoves).withStore (some {})).saveKey = .ok p → p.last? = none := by
    intro p h
    cases h
  obtain ⟨reason, hrestore⟩ := Engine.restore_unloaded hnone
  have hmoved : lampFirst.moved (cellarMoves ++ [{ store := some {}, step := .restore }])
      = (((lampFirst.moved cellarMoves).withStore (some {})).notify .restoring).notify
        (.restoreFailed reason) := by
    rw [Engine.moved_concat]
    exact congrArg Prod.snd hrestore
  have hadmitted :
      lampFirst.Admitted (cellarMoves ++ [{ store := some {}, step := .restore }]) := by
    refine Engine.admitted_append.2 ⟨admitted_cellarMoves, ?_, trivial⟩
    intro query hquery
    cases hquery
  obtain ⟨hcount, -, -, -, hshown⟩ := Engine.last_visited_on_screen ⟨rfl, rfl, rfl⟩ hadmitted
  have hhistory' : (lampFirst.moved (cellarMoves ++ [{ store := some {}, step := .restore }])
      ).place.history = [1, 2] := by
    rw [hmoved]
    exact hhistory
  obtain ⟨before, m, rest, passage, frame, hsplit, hlast, hs⟩ := hshown (by
    rw [hhistory']
    exact List.cons_ne_nil _ _)
  refine ⟨_, before, m, rest, passage, frame, rfl, hsplit, hlast, hs, ?_, ?_, ?_⟩
  · have hid := hs.last
    rw [hhistory'] at hid
    exact (Option.some.inj hid).symm
  · rw [← hs.fills.header, hmoved]
    exact hheader
  · rw [← hcount, hmoved]
    exact hdisplays

end Hyperfiction
