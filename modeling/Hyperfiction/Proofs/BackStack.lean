import Hyperfiction.Proofs.Travel

/-! # The back stack

    A reader who only goes ahead leaves an entry in the browser for every stretch of
    passages between two checkpoints. What they did is a `Journey`: the visits in order,
    each with the entry that belongs to it. The visits fall into spans, and the back
    stack is the blank entry followed by the last entry of every span. The flag that
    decides between a new entry and a changed one is the only thing that ties the two
    together, and every step keeps it in line with the journey.
-/

namespace Hyperfiction

variable {σ S : Type}

/-! ## Section 1: Journeys -/

/-- A visit of a passage. -/
structure Visit where
  passage : Passage
  /-- The variables before the visit, and the history and the checkpoint with it. -/
  entry : Progress
  /-- Whether a checkpoint was named by hand since the visit before. -/
  named : Bool

/-- What a reader has done so far. -/
structure Journey where
  visits : List Visit := []
  /-- The name of the last checkpoint, visited or named by hand. -/
  checkpoint : String := ""
  /-- Whether a checkpoint has been named by hand since the last visit. -/
  named : Bool := false

namespace Journey

/-- The ids of the passages visited. -/
def ids (j : Journey) : List PassageId :=
  j.visits.map fun v => v.passage.id

/-- The visit of a passage that comes next, from the variables `state`. -/
def next (state : StateBag) (passage : Passage) (j : Journey) : Visit where
  passage := passage
  entry :=
    { state
      history := j.ids ++ [passage.id]
      checkpoint := if checkpointTag ∈ passage.tags then passage.name else j.checkpoint }
  named := j.named

/-- A passage is visited, from the variables `state`. -/
def visit (state : StateBag) (passage : Passage) (j : Journey) : Journey where
  visits := j.visits ++ [j.next state passage]
  checkpoint := (j.next state passage).entry.checkpoint

/-- A checkpoint is named by hand. -/
def mark (name : String) (j : Journey) : Journey :=
  { j with checkpoint := name, named := true }

@[simp] theorem ids_visit (state : StateBag) (passage : Passage) (j : Journey) :
    (j.visit state passage).ids = j.ids ++ [passage.id] := by
  simp [ids, visit, next]

@[simp] theorem ids_mark (name : String) (j : Journey) : (j.mark name).ids = j.ids := rfl

@[simp] theorem visits_mark (name : String) (j : Journey) : (j.mark name).visits = j.visits := rfl

/-- The entry of every visit ends its history there. -/
def Dated (j : Journey) : Prop :=
  ∀ k v, j.visits[k]? = some v → v.entry.history = j.ids.take (k + 1)

theorem Dated.visit {j : Journey} (h : j.Dated) (state : StateBag) (passage : Passage) :
    (j.visit state passage).Dated := by
  intro k v hv
  have hlen : j.ids.length = j.visits.length := List.length_map _
  rw [ids_visit]
  unfold Journey.visit at hv
  -- the new visit is the last one, and the histories of the older ones end before it
  by_cases hk : k < j.visits.length
  · rw [List.getElem?_append_left hk] at hv
    rw [h k v hv, List.take_append_of_le_length (by omega)]
  · rw [List.getElem?_append_right (by omega)] at hv
    obtain ⟨hone, hget⟩ := List.getElem?_eq_some_iff.1 hv
    simp only [List.length_cons, List.length_nil] at hone
    obtain rfl : k = j.visits.length := by omega
    rw [List.take_of_length_le (by simp; omega)]
    simp only [Nat.sub_self, List.getElem_cons_zero] at hget
    rw [← hget]
    rfl

end Journey

/-! ## Section 2: Spans -/

/-- Whether the visit with the number `k`, counted from zero, begins a span: the first
    two do, and every visit of a checkpoint, and the first one after a checkpoint was
    named by hand. -/
def Visit.Opens (k : Nat) (v : Visit) : Prop :=
  k < 2 ∨ checkpointTag ∈ v.passage.tags ∨ v.named = true

/-- Visits cut into spans: a span begins exactly at the visits that open one. -/
inductive Cut : List Visit → List (List Visit) → Prop where
  | nil : Cut [] []
  | opens {visits : List Visit} {spans : List (List Visit)} {v : Visit} :
      Cut visits spans → v.Opens visits.length → Cut (visits ++ [v]) (spans ++ [[v]])
  | goesOn {visits : List Visit} {spans : List (List Visit)} {span : List Visit} {v : Visit} :
      Cut visits (spans ++ [span]) → ¬ v.Opens visits.length →
      Cut (visits ++ [v]) (spans ++ [span ++ [v]])

/-- The spans are consecutive, and nothing is left out. -/
theorem Cut.flatten {visits : List Visit} {spans : List (List Visit)} (h : Cut visits spans) :
    spans.flatten = visits := by
  induction h with
  | nil => rfl
  | opens _ _ ih => simp [ih]
  | goesOn _ _ ih =>
    rw [← ih]
    simp

theorem Cut.ne_nil {visits : List Visit} {spans : List (List Visit)} (h : Cut visits spans) :
    ∀ span ∈ spans, span ≠ [] := by
  induction h with
  | nil => simp
  | opens _ _ ih =>
    intro span hspan
    rcases List.mem_append.1 hspan with hold | hnew
    · exact ih span hold
    · simp only [List.mem_singleton] at hnew
      rw [hnew]
      exact List.cons_ne_nil _ _
  | goesOn _ _ ih =>
    intro span hspan
    rcases List.mem_append.1 hspan with hold | hnew
    · exact ih span (List.mem_append_left _ hold)
    · simp only [List.mem_singleton] at hnew
      rw [hnew]
      exact List.append_ne_nil_of_right_ne_nil _ (List.cons_ne_nil _ _)

/-- The entry that a span leaves in the browser: that of its last visit. -/
def spanEntry (span : List Visit) : Option Progress :=
  span.getLast?.map Visit.entry

theorem spanEntry_concat (span : List Visit) (v : Visit) :
    spanEntry (span ++ [v]) = some v.entry := by
  simp [spanEntry]

/-! ## Section 3: The browser at its last entry -/

namespace MemoryHistory

/-- A new entry after the last one. -/
theorem entries_push {h : MemoryHistory} {stack : List (Option Progress)} (p : Progress)
    (hentries : h.entries = none :: stack) (hindex : h.index = stack.length) :
    (h.push p).entries = none :: (stack ++ [some p]) ∧ (h.push p).index = stack.length + 1 := by
  have hpush : (h.push p).entries = h.entries.take (h.index + 1) ++ [some p] := rfl
  constructor
  · rw [hpush, hentries, List.take_of_length_le (by simp [hindex]), List.cons_append]
  · show h.index + 1 = _
    rw [hindex]

/-- A changed entry in place of the last one. -/
theorem entries_replace {h : MemoryHistory} {stack : List (Option Progress)}
    {last : Option Progress} (p : Progress) (hentries : h.entries = none :: (stack ++ [last]))
    (hindex : h.index = stack.length + 1) :
    (h.replace p).entries = none :: (stack ++ [some p]) ∧
      (h.replace p).index = stack.length + 1 := by
  have hreplace : (h.replace p).entries = h.entries.set h.index (some p) := rfl
  constructor
  · rw [hreplace, hentries, hindex, List.set_cons_succ,
      List.set_append_right _ _ (Nat.le_refl _), Nat.sub_self]
    rfl
  · exact hindex

end MemoryHistory

/-! ## Section 4: Going ahead -/

/-- A step that goes ahead: visits add to the history, and what is done between them
    moves neither the reader nor the browser. -/
def Step.isAhead : Step → Bool
  | .goTo _ addToHistory => addToHistory
  | .follow _ | .click _ | .showPassage _ | .checkpoint _ | .save | .reset
  | .setVariable _ _ | .write _ => true
  | .play | .restore | .back | .forward | .pop _ => false

namespace Engine

/-- The passage that a step of a session asks for, as it is asked for. -/
def query? {H : Type} (e : Engine σ S H Screen) : Step → Option Query
  | .play => some (.id e.story.start)
  | .goTo query _ => some query
  | .follow target => some (.name target)
  | .click n => (e.display.link? n).map fun link => .name link.target
  | _ => none

variable [Storage S]

/-- A journey with one more step: a visit if the step goes to a passage and is done. -/
def journeyAfter (e : Engine σ S MemoryHistory Screen) (s : Step) (j : Journey) : Journey :=
  match s with
  | .checkpoint name => j.mark name
  | s =>
    match (e.query? s).bind e.story.resolve with
    | some passage => if (e.step s).1 = .done then j.visit e.state passage else j
    | none => j

/-- A journey with more steps. -/
def journey (e : Engine σ S MemoryHistory Screen) : List Step → Journey → Journey
  | [], j => j
  | s :: rest, j => (e.step s).2.journey rest (e.journeyAfter s j)

/-- The browser holds the entries of the spans, and the place is that of the journey. -/
structure Mirrors (j : Journey) (spans : List (List Visit))
    (e : Engine σ S MemoryHistory Screen) : Prop where
  cut : Cut j.visits spans
  dated : j.Dated
  history : e.place.history = j.ids
  checkpoint : e.place.checkpoint = j.checkpoint
  entries : e.browser.entries = none :: spans.map spanEntry
  index : e.browser.index = spans.length

/-- Whether the next visit is a new entry, whatever the passage. -/
def Flagged (j : Journey) (e : Engine σ S MemoryHistory Screen) : Prop :=
  e.place.atCheckpoint = true ↔ j.visits.length < 2 ∨ j.named = true

omit [Storage S] in
/-- The browser after a navigation has recorded the entry of the next visit. -/
theorem Commits.records_next {j : Journey} {e after : Engine σ S MemoryHistory Screen}
    (hhistory : e.place.history = j.ids) (hcheckpoint : e.place.checkpoint = j.checkpoint)
    {query : Query} {action : HistoryAction} {passage : Passage} {frame : Frame}
    (hc : e.Commits query true action passage frame after) :
    after.place.history = j.ids ++ [passage.id] ∧
      after.place.checkpoint = (j.next e.state passage).entry.checkpoint ∧
      BrowserHistory.record e.browser action (j.next e.state passage).entry
        = (.ok (), after.browser) := by
  have hids : after.place.history = j.ids ++ [passage.id] := by
    rw [hc.history, if_pos rfl, hhistory]
  have hname : after.place.checkpoint = (j.next e.state passage).entry.checkpoint := by
    rw [hc.checkpoint, hcheckpoint]
    rfl
  refine ⟨hids, hname, ?_⟩
  have hrecorded := hc.recorded
  rw [hids, hname] at hrecorded
  exact hrecorded

omit [Storage S] in
/-- A navigation adds a visit to the journey, and its entry makes a new span or takes the
    place of the entry of the last one. -/
theorem Mirrors.visit {j : Journey} {spans : List (List Visit)}
    {e after : Engine σ S MemoryHistory Screen} (h : Mirrors j spans e) (hf : Flagged j e)
    {query : Query} {passage : Passage} {frame : Frame}
    (hc : e.Commits query true (e.actionTo passage .decide) passage frame after) :
    ∃ spans', Mirrors (j.visit e.state passage) spans' after := by
  obtain ⟨hids, hname, hrecorded⟩ := hc.records_next h.history h.checkpoint
  have hhistory : after.place.history = (j.visit e.state passage).ids := by
    rw [hids, Journey.ids_visit]
  have hdated := h.dated.visit e.state passage
  have hiff : (e.place.atCheckpoint = true ∨ checkpointTag ∈ passage.tags) ↔
      (j.next e.state passage).Opens j.visits.length := by
    unfold Flagged at hf
    unfold Visit.Opens
    rw [hf, or_assoc, or_comm (a := j.named = true)]
    rfl
  rw [actionTo_decide] at hrecorded
  by_cases hopens : (j.next e.state passage).Opens j.visits.length
  · rw [if_pos (hiff.2 hopens)] at hrecorded
    have hpush : e.browser.push (j.next e.state passage).entry = after.browser :=
      congrArg Prod.snd hrecorded
    obtain ⟨hentries, hindex⟩ := MemoryHistory.entries_push (j.next e.state passage).entry
      h.entries (by rw [h.index, List.length_map])
    refine ⟨spans ++ [[j.next e.state passage]], .opens h.cut hopens, hdated, hhistory, hname,
      ?_, ?_⟩
    · rw [← hpush, hentries, List.map_append]
      rfl
    · rw [← hpush, hindex]
      simp
  · rw [if_neg (fun hpush => hopens (hiff.1 hpush))] at hrecorded
    have hreplace : e.browser.replace (j.next e.state passage).entry = after.browser :=
      congrArg Prod.snd hrecorded
    -- a visit that opens no span is not the first one, so there is a span to go on with
    rcases List.eq_nil_or_concat spans with rfl | ⟨older, span, rfl⟩
    · have hnone : j.visits = [] := h.cut.flatten.symm
      exact absurd (.inl (by simp [hnone])) hopens
    · rw [List.concat_eq_append] at h
      have hentries := h.entries
      have hindex := h.index
      rw [List.map_append] at hentries
      obtain ⟨hentries', hindex'⟩ := MemoryHistory.entries_replace
        (j.next e.state passage).entry hentries (by simpa using hindex)
      refine ⟨older ++ [span ++ [j.next e.state passage]], .goesOn h.cut hopens, hdated,
        hhistory, hname, ?_, ?_⟩
      · rw [← hreplace, hentries', List.map_append, List.map_singleton, spanEntry_concat]
      · rw [← hreplace, hindex']
        simp

/-! ## Section 5: Every step ahead -/

/-- Neither the reader nor the browser has moved. -/
structure Waits (e after : Engine σ S MemoryHistory Screen) : Prop where
  story : after.story = e.story
  place : after.place = e.place
  browser : after.browser = e.browser

omit [Storage S] in
theorem waits_showPassage (e : Engine σ S MemoryHistory Screen) (query : Query) :
    e.Waits (e.showPassage query).2 := by
  obtain ⟨state, m, trace, hleaves⟩ := e.showPassage_leaves query
  rw [hleaves]
  exact ⟨rfl, rfl, rfl⟩

theorem waits_save (e : Engine σ S MemoryHistory Screen) : e.Waits e.save.2 := by
  obtain ⟨store, trace, hleaves⟩ := e.save_leaves
  rw [hleaves]
  exact ⟨rfl, rfl, rfl⟩

theorem waits_reset (e : Engine σ S MemoryHistory Screen) : e.Waits e.reset.2 := by
  obtain ⟨store, trace, hleaves⟩ := e.reset_leaves
  rw [hleaves]
  exact ⟨rfl, rfl, rfl⟩

/-- The browser is in line with the journey of a reader who has visited `start` first. -/
structure Ahead (start : PassageId) (j : Journey) (e : Engine σ S MemoryHistory Screen) :
    Prop where
  mirrored : ∃ spans, Mirrors j spans e
  flagged : Flagged j e
  started : j.ids.head? = some start

omit [Storage S] in
theorem Ahead.waits {start : PassageId} {j : Journey} {e after : Engine σ S MemoryHistory Screen}
    (h : Ahead start j e) (hw : e.Waits after) : Ahead start j after := by
  obtain ⟨spans, hs⟩ := h.mirrored
  refine ⟨⟨spans, hs.cut, hs.dated, ?_, ?_, ?_, ?_⟩, ?_, h.started⟩
  · rw [hw.place, hs.history]
  · rw [hw.place, hs.checkpoint]
  · rw [hw.browser, hs.entries]
  · rw [hw.browser, hs.index]
  · have hf := h.flagged
    unfold Flagged at hf ⊢
    rw [hw.place]
    exact hf

omit [Storage S] in
theorem Ahead.visit {start : PassageId} {j : Journey} {e after : Engine σ S MemoryHistory Screen}
    (h : Ahead start j e) {query : Query} {passage : Passage} {frame : Frame}
    (hc : e.Commits query true (e.actionTo passage .decide) passage frame after) :
    Ahead start (j.visit e.state passage) after := by
  obtain ⟨spans, hs⟩ := h.mirrored
  have hne : j.visits ≠ [] := by
    intro hnone
    have hstarted := h.started
    unfold Journey.ids at hstarted
    rw [hnone] at hstarted
    cases hstarted
  have hlen : 0 < j.visits.length := List.length_pos_iff.2 hne
  refine ⟨hs.visit h.flagged hc, ?_, ?_⟩
  · -- the checkpoint is left, and two visits have been made by now
    unfold Flagged
    rw [hc.left]
    simp [Journey.visit]
    omega
  · rw [Journey.ids_visit, List.head?_append, h.started]
    rfl

omit [Storage S] in
theorem Ahead.mark {start : PassageId} {j : Journey} {e : Engine σ S MemoryHistory Screen}
    (h : Ahead start j e) (name : String) : Ahead start (j.mark name) (e.checkpoint name) := by
  obtain ⟨spans, hs⟩ := h.mirrored
  refine ⟨⟨spans, hs.cut, hs.dated, hs.history, rfl, hs.entries, hs.index⟩, ?_, h.started⟩
  exact ⟨fun _ => .inr rfl, fun _ => rfl⟩

/-- A step that goes to a passage adds a visit to the journey if it is done, and leaves
    the reader where they are if it fails. -/
theorem Ahead.goes {start : PassageId} {j : Journey} {e : Engine σ S MemoryHistory Screen}
    (h : Ahead start j e) {s : Step} {query : Query} (hq : e.query? s = some query)
    (hmark : ∀ name, s ≠ .checkpoint name)
    (hs : e.step s = (.of (e.goToPassage query true).1, (e.goToPassage query true).2)) :
    Ahead start (e.journeyAfter s j) (e.step s).2 := by
  have hjourney : e.journeyAfter s j =
      match e.story.resolve query with
      | some passage => if (e.step s).1 = .done then j.visit e.state passage else j
      | none => j := by
    cases s with
    | checkpoint name => exact absurd rfl (hmark name)
    | _ => simp only [journeyAfter, hq, Option.bind_some]
  rw [hjourney, hs]
  unfold goToPassage
  rcases hg : e.goTo query true .decide with ⟨err | _, after⟩
  · obtain ⟨m, hm⟩ := goTo_error_eq (congrArg Prod.fst hg)
    rw [hg] at hm
    have hw : e.Waits after := by
      obtain rfl : after = _ := hm
      exact ⟨rfl, rfl, rfl⟩
    cases e.story.resolve query with
    | none => exact h.waits hw
    | some passage => exact h.waits hw
  · obtain ⟨passage, frame, hc⟩ := goTo_ok_commits hg
    rw [hc.resolved]
    exact h.visit hc

theorem Ahead.step {start : PassageId} {j : Journey} {e : Engine σ S MemoryHistory Screen}
    (h : Ahead start j e) {s : Step} (hs : s.isAhead = true) :
    Ahead start (e.journeyAfter s j) (e.step s).2 := by
  cases s with
  | goTo query addToHistory =>
    obtain rfl : addToHistory = true := hs
    exact h.goes rfl (by simp) rfl
  | follow target => exact h.goes rfl (by simp) rfl
  | click n =>
    cases hlink : e.display.link? n with
    | none =>
      have hjourney : e.journeyAfter (.click n) j = j := by
        unfold journeyAfter query?
        simp [hlink]
      rw [step_click_none hlink, hjourney]
      exact h
    | some link =>
      have hquery : e.query? (.click n) = some (.name link.target) := by
        unfold query?
        simp [hlink]
      refine h.goes hquery (by simp) ?_
      rw [step_click_some hlink]
      rfl
  | showPassage query =>
    rw [step_showPassage]
    exact h.waits (e.waits_showPassage query)
  | checkpoint name => exact h.mark name
  | save => exact h.waits e.waits_save
  | reset => exact h.waits e.waits_reset
  | setVariable name value => exact h.waits ⟨rfl, rfl, rfl⟩
  | write state => exact h.waits ⟨rfl, rfl, rfl⟩
  | play => cases hs
  | restore => cases hs
  | back => cases hs
  | forward => cases hs
  | pop entry => cases hs

theorem Ahead.run {start : PassageId} {j : Journey} {e : Engine σ S MemoryHistory Screen}
    (h : Ahead start j e) (steps : List Step) (hs : ∀ s ∈ steps, s.isAhead = true) :
    Ahead start (e.journey steps j) (e.run steps) := by
  induction steps generalizing j e with
  | nil => exact h
  | cons s rest ih =>
    have hstep := h.step (hs s (by simp))
    exact ih hstep fun t ht => hs t (List.mem_cons_of_mem _ ht)

/-! ## Section 6: The start -/

/-- The first play of a new reader who has nothing saved is the first visit. -/
theorem ahead_play {first played : Engine σ S MemoryHistory Screen} (hf : IsFresh first)
    (hb : first.browser = .fresh) (hsave : Storage.hasSave first.store first.saveKey = .ok false)
    (hp : first.step .play = (.done, played)) :
    Ahead first.story.start (first.journeyAfter .play {}) played := by
  have hfresh : Mirrors {} [] first.configured := by
    refine ⟨.nil, ?_, ?_, ?_, ?_, ?_⟩
    · intro k v hv
      cases hv
    · show first.place.history = _
      rw [hf.place]
      rfl
    · show first.place.checkpoint = _
      rw [hf.place]
    · show first.browser.entries = _
      rw [hb]
      rfl
    · show first.browser.index = _
      rw [hb]
      rfl
  have hflagged : Flagged {} first.configured := by
    show first.place.atCheckpoint = true ↔ _
    rw [hf.place]
    simp
  have hplay : (.of first.play.1, first.play.2) = (StepResult.done, played) := hp
  rw [play_unsaved hsave] at hplay
  unfold begin goToStart goToPassage at hplay
  rcases hg : first.configured.goTo (.id first.configured.story.start) true .decide with
    ⟨err | _, after⟩
  · rw [hg] at hplay
    cases (Prod.mk.inj hplay).1
  · rw [hg] at hplay
    obtain ⟨-, rfl⟩ := Prod.mk.inj hplay
    obtain ⟨passage, frame, hc⟩ := goTo_ok_commits hg
    obtain ⟨spans, hs⟩ := hfresh.visit hflagged hc
    have hjourney : first.journeyAfter .play {} = Journey.visit first.state passage {} := by
      have hresolved : first.story.resolve (.id first.story.start) = some passage := hc.resolved
      unfold journeyAfter query?
      simp only [Option.bind_some, hresolved, hp, if_true]
    rw [hjourney]
    refine ⟨⟨spans, hs.cut, hs.dated, hs.history, hs.checkpoint, hs.entries, hs.index⟩, ?_, ?_⟩
    · -- play puts the reader at a checkpoint, and the next visit is only the second one
      exact ⟨fun _ => .inl (by simp [Journey.visit]), fun _ => rfl⟩
    · have hid : passage.id = first.story.start := Story.id_of_passage? hc.resolved
      rw [Journey.ids_visit, hid]
      rfl

/-- **The back stack is the visits cut at checkpoints.** Let a new reader with nothing
    saved play, and go ahead in any way. The history is that of the visits, and begins
    with the start of the story. The visits are cut into spans, of which a new one begins
    exactly at the first two visits, at every visit of a checkpoint and at the first
    visit after a checkpoint was named by hand. The browser holds the blank entry and,
    for every span, the entry of its last visit, whose history ends there; and it is at
    the last of them. -/
theorem back_stack_of_spans {first played : Engine σ S MemoryHistory Screen} (hf : IsFresh first)
    (hb : first.browser = .fresh) (hsave : Storage.hasSave first.store first.saveKey = .ok false)
    (hp : first.step .play = (.done, played)) (steps : List Step)
    (hs : ∀ s ∈ steps, s.isAhead = true) :
    ∃ j spans, j = first.journey (.play :: steps) {} ∧ Cut j.visits spans ∧
      spans.flatten = j.visits ∧ (∀ span ∈ spans, span ≠ []) ∧
      (played.run steps).place.history = j.ids ∧ j.ids.head? = some first.story.start ∧
      (played.run steps).browser.entries = none :: spans.map spanEntry ∧
      (played.run steps).browser.index = spans.length ∧
      ∀ k v, j.visits[k]? = some v → v.entry.history = j.ids.take (k + 1) := by
  have hplayed := ahead_play hf hb hsave hp
  have h := hplayed.run steps hs
  have hjourney : first.journey (.play :: steps) {}
      = played.journey steps (first.journeyAfter .play {}) := by
    show (first.step .play).2.journey steps _ = _
    rw [hp]
  obtain ⟨spans, hmirrors⟩ := h.mirrored
  rw [← hjourney] at hmirrors
  have hstarted := h.started
  rw [← hjourney] at hstarted
  exact ⟨_, spans, rfl, hmirrors.cut, hmirrors.cut.flatten, hmirrors.cut.ne_nil, hmirrors.history,
    hstarted, hmirrors.entries, hmirrors.index, hmirrors.dated⟩

end Engine

/-! ## Section 7: A walk through a house -/

/-- A house of three rooms, of which the cellar is a checkpoint. -/
def houseStory : Story where
  name := "House"
  ifid := none
  creator := none
  creatorVersion := none
  start := 1
  passages :=
    .ofList
      [{ id := 1, name := "Door", tags := [], source := "A door." },
        { id := 2, name := "Hall", tags := [], source := "A hall." },
        { id := 3, name := "Cellar", tags := [checkpointTag], source := "A cellar." }]
  config := {}
  passages_agree := PassageIndex.agrees_ofList _
  start_exists := by decide

/-- A reader of that story before anything has been done. -/
def houseFirst : Engine Unit MemoryStore MemoryHistory Screen :=
  { lampReader with story := houseStory, state := [] }

/-- Through the hall and back, and on in the night until the cellar. -/
def houseSteps : List Step :=
  [.goTo (.name "Hall") true, .goTo (.name "Door") true, .checkpoint "Night",
    .goTo (.name "Hall") true, .goTo (.name "Cellar") true]

/-- The entries end where a checkpoint was left: at the door, at the door again, in the
    hall; and the last one, with the cellar in it, at the end. -/
theorem back_stack_of_spans_house : ∃ played spans, houseFirst.step .play = (.done, played) ∧
    Cut (houseFirst.journey (.play :: houseSteps) {}).visits spans ∧
    (played.run houseSteps).browser.entries = none :: spans.map spanEntry ∧
    (played.run houseSteps).browser.entries.map (fun entry => entry.map Progress.history)
      = [none, some [1], some [1, 2, 1], some [1, 2, 1, 2], some [1, 2, 1, 2, 3]] := by
  have hrun : ((houseFirst.step .play).1,
      ((houseFirst.step .play).2.run houseSteps).browser.entries.map
        (fun entry => entry.map Progress.history))
      = (.done, [none, some [1], some [1, 2, 1], some [1, 2, 1, 2], some [1, 2, 1, 2, 3]]) := by
    cbv
  obtain ⟨hdone, hhistories⟩ := Prod.mk.inj hrun
  have hplay : houseFirst.step .play = (.done, (houseFirst.step .play).2) := Prod.ext hdone rfl
  obtain ⟨_, spans, rfl, hcut, -, -, -, -, hentries, -⟩ :=
    Engine.back_stack_of_spans ⟨rfl, rfl, rfl⟩ rfl rfl hplay houseSteps (by decide)
  exact ⟨_, spans, hplay, hcut, hentries, hhistories⟩

end Hyperfiction
