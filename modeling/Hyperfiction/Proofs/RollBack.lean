import Hyperfiction.Proofs.Navigation
import Hyperfiction.Session

/-! # Rolling back

    Following the browser to an entry changes the reader's place and the variables
    before it is known whether the passage can be shown. For an entry with a progress
    all of it is rolled back when the passage cannot be shown. A blank entry clears the
    variables and the checkpoint of a reader who has visited nothing, and these stay
    cleared when the start of the story cannot be shown.
-/

namespace Hyperfiction

variable {σ S H D : Type}

namespace Engine

/-! ## Section 1: What a failed pop leaves -/

/-- The engine before a blank entry starts the story over. -/
def cleared (e : Engine σ S H D) : Engine σ S H D :=
  { e with
    state := []
    place := { e.place with history := [], checkpoint := "" } }

variable [BrowserHistory H] [Display D]

/-- A blank entry goes to the start of the story if nothing has been visited. -/
theorem handlePop_blank (e : Engine σ S H D) :
    e.handlePop none =
      if e.place.history.isEmpty then e.cleared.goToStart else (.ok (), e) := rfl

/-- An entry with a last passage is taken over, and shown again or rolled back. -/
theorem handlePop_entry (e : Engine σ S H D) {p : Progress} {last : PassageId}
    (hp : p.last? = some last) :
    e.handlePop (some p) =
      match (e.adopt p).goTo (.id last) false .replaceOnly with
      | (.ok _, after) => (.ok (), after)
      | (.error err, after) => (.error err, e.rollBack after) := by
  rcases hgo : (e.adopt p).goTo (.id last) false .replaceOnly with ⟨err | _, after⟩
  · unfold handlePop
    simp only [hp, hgo]
  · unfold handlePop
    simp only [hp, hgo]

/-- An entry without a last passage is refused at once. -/
theorem handlePop_empty (e : Engine σ S H D) {p : Progress} (hp : p.last? = none) :
    e.handlePop (some p) = (.error .emptyHistory, e) := by
  unfold handlePop
  simp only [hp]

variable [KeepsOnRefusal H]

/-- Following an entry that fails has changed what the evaluator remembers and the trace,
    at most. -/
theorem handlePop_entry_error {e after : Engine σ S H D} {p : Progress} {err : EngineError}
    (h : e.handlePop (some p) = (.error err, after)) :
    ∃ m trace, after = { e with memory := m, trace } := by
  cases hp : p.last? with
  | none =>
    rw [handlePop_empty e hp] at h
    obtain ⟨-, rfl⟩ := Prod.mk.inj h
    exact ⟨e.memory, e.trace, rfl⟩
  | some last =>
    rw [handlePop_entry e hp] at h
    rcases hg : (e.adopt p).goTo (.id last) false .replaceOnly with ⟨err' | _, there⟩
    · -- the navigation left what was taken over, and that has been put back
      obtain ⟨m, hm⟩ := goTo_error_eq (congrArg Prod.fst hg)
      rw [hg] at hm h
      obtain rfl : there = _ := hm
      obtain ⟨-, rfl⟩ := Prod.mk.inj h
      exact ⟨m, e.trace ++ [.goingTo (.id last)], rfl⟩
    · rw [hg] at h
      cases (Prod.mk.inj h).1

/-- Following a blank entry that fails has cleared the variables and the checkpoint of a
    reader who has visited nothing. -/
theorem handlePop_blank_error {e after : Engine σ S H D} {err : EngineError}
    (h : e.handlePop none = (.error err, after)) :
    e.place.history = [] ∧
      ∃ m trace, after =
        { e with state := [], place := { e.place with checkpoint := "" }, memory := m, trace } := by
  rw [handlePop_blank] at h
  by_cases hempty : e.place.history.isEmpty = true
  · rw [if_pos hempty] at h
    have hhistory : e.place.history = [] := List.isEmpty_iff.1 hempty
    obtain ⟨m, hm⟩ := goTo_error_eq (e := e.cleared) (congrArg Prod.fst h)
    have hafter : (e.cleared.goTo (.id e.cleared.story.start) true .decide).2 = after :=
      congrArg Prod.snd h
    refine ⟨hhistory, m, e.trace ++ [.goingTo (.id e.story.start)], ?_⟩
    rw [← hafter, hm]
    unfold cleared
    rw [← hhistory]
  · rw [if_neg hempty] at h
    cases (Prod.mk.inj h).1

/-- **What a failed pop changes.** History, place of the checkpoint, variables on entry,
    browser, store and display are what they were before, whichever entry was followed and
    wherever it failed. The variables and the name of the checkpoint are what they were
    exactly when the entry was not blank, or both were empty already; after a blank entry
    both are empty. -/
theorem failed_pop_keeps {e after : Engine σ S H D} {entry : Option Progress}
    {err : EngineError} (h : e.handlePop entry = (.error err, after)) :
    after.place.history = e.place.history ∧ after.place.atCheckpoint = e.place.atCheckpoint ∧
      after.place.entryState = e.place.entryState ∧ after.browser = e.browser ∧
      after.store = e.store ∧ after.display = e.display ∧
      (after.state = e.state ∧ after.place.checkpoint = e.place.checkpoint ↔
        entry ≠ none ∨ (e.state = [] ∧ e.place.checkpoint = "")) ∧
      (entry = none → after.state = [] ∧ after.place.checkpoint = "") := by
  cases entry with
  | some p =>
    obtain ⟨m, trace, rfl⟩ := handlePop_entry_error h
    refine ⟨rfl, rfl, rfl, rfl, rfl, rfl, ?_, ?_⟩
    · exact ⟨fun _ => .inl (Option.some_ne_none p), fun _ => ⟨rfl, rfl⟩⟩
    · intro hblank
      cases hblank
  | none =>
    obtain ⟨-, m, trace, rfl⟩ := handlePop_blank_error h
    refine ⟨rfl, rfl, rfl, rfl, rfl, rfl, ?_, fun _ => ⟨rfl, rfl⟩⟩
    constructor
    · rintro ⟨hstate, hcheckpoint⟩
      exact .inr ⟨hstate.symm, hcheckpoint.symm⟩
    · rintro (hentry | ⟨hstate, hcheckpoint⟩)
      · exact absurd rfl hentry
      · exact ⟨hstate.symm, hcheckpoint.symm⟩

end Engine

/-! ## Section 2: A camp that is lost -/

/-- A story whose only passage closes a block that was never opened. -/
def campStory : Story where
  name := "Camp"
  ifid := none
  creator := none
  creatorVersion := none
  start := 1
  passages := .ofList [{ id := 1, name := "Start", tags := [], source := "&lt;% end %&gt;" }]
  config := {}
  passages_agree := PassageIndex.agrees_ofList _
  start_exists := by decide

/-- A reader of that story who has visited nothing, but has been given wood and has named
    a checkpoint. -/
def campReader : Engine Unit MemoryStore MemoryHistory Screen :=
  { lampReader with story := campStory, state := [] }.run
    [.setVariable "wood" (.int 1), .checkpoint "Camp"]

/-- A blank entry that cannot be followed takes the wood and the checkpoint away. -/
theorem camp_lost : ∃ after,
    campReader.handlePop none = (.error (.template (.parse .closingWithoutIf)), after) ∧
      campReader.state = [("wood", .int 1)] ∧ after.state = [] ∧
      campReader.place.checkpoint = "Camp" ∧ after.place.checkpoint = "" := by
  have hpop : ((campReader.handlePop none).1, (campReader.handlePop none).2.state,
      (campReader.handlePop none).2.place.checkpoint)
      = (.error (.template (.parse .closingWithoutIf)), [], "") := by cbv
  obtain ⟨hfails, hrest⟩ := Prod.mk.inj hpop
  obtain ⟨hstate, hcheckpoint⟩ := Prod.mk.inj hrest
  exact ⟨_, Prod.ext hfails rfl, rfl, hstate, rfl, hcheckpoint⟩

/-- An entry that names no passage of that story is rolled back. -/
theorem failed_pop_keeps_camp : ∃ err after,
    campReader.handlePop (some { state := [], history := [7], checkpoint := "" })
        = (.error err, after) ∧
      after.state = [("wood", .int 1)] ∧ after.place.checkpoint = "Camp" := by
  have hfails : (campReader.handlePop (some { state := [], history := [7], checkpoint := "" })).1
      = .error (.passageNotFound (.id 7)) := by cbv
  obtain ⟨-, -, -, -, -, -, hkept, -⟩ := Engine.failed_pop_keeps (Prod.ext hfails rfl)
  obtain ⟨hstate, hcheckpoint⟩ := hkept.2 (.inl (Option.some_ne_none _))
  exact ⟨_, _, Prod.ext hfails rfl, hstate, hcheckpoint⟩

end Hyperfiction
