import Mathlib.Data.List.Induction
import Hyperfiction.Proofs.Arrival
import Hyperfiction.Session

/-! # Going back and forward

    A reader who only visits passages and goes back and forward through the browser
    finds everything as it was. Every entry that the browser holds was recorded by a
    visit, and replays to what was on screen right after that visit; a step that
    records keeps this for the entries it leaves alone and makes it true of its own,
    and going back or forward writes an entry over itself.
-/

namespace Hyperfiction

variable {σ S : Type}

/-! ## Section 1: Entries in memory -/

namespace MemoryHistory

theorem ext {h h' : MemoryHistory} (entries : h.entries = h'.entries) (index : h.index = h'.index) :
    h = h' := by
  cases h
  cases h'
  cases entries
  cases index
  rfl

theorem getElem?_index (h : MemoryHistory) : h.entries[h.index]? = some h.current :=
  List.getElem?_eq_getElem h.index_lt

theorem accepts (h : MemoryHistory) (action : HistoryAction) (p : Progress) :
    (BrowserHistory.record h action p).1 = .ok () := by
  cases action <;> rfl

/-- What is recorded stands at the current place, and nothing else is new. -/
theorem record_entries {h h' : MemoryHistory} {action : HistoryAction} {p : Progress}
    (hr : BrowserHistory.record h action p = (.ok (), h')) :
    h'.entries[h'.index]? = some (some p) ∧
      ∀ k q, h'.entries[k]? = some q → k = h'.index ∨ h.entries[k]? = some q := by
  have hlt := h.index_lt
  cases action with
  | push =>
    obtain rfl : h.push p = h' := congrArg Prod.snd hr
    have hlen : (h.entries.take (h.index + 1)).length = h.index + 1 := by
      rw [List.length_take]
      omega
    have hentries : (h.push p).entries = h.entries.take (h.index + 1) ++ [some p] := rfl
    have hindex : (h.push p).index = h.index + 1 := rfl
    rw [hentries, hindex]
    -- what lay forward is dropped, so the new entry is the last one
    constructor
    · rw [List.getElem?_append_right (by omega), hlen]
      simp
    · intro k q hk
      by_cases hle : k < h.index + 1
      · rw [List.getElem?_append_left (by omega), List.getElem?_take_of_lt hle] at hk
        exact .inr hk
      · rw [List.getElem?_append_right (by omega), hlen] at hk
        have hone := (List.getElem?_eq_some_iff.1 hk).1
        simp only [List.length_cons, List.length_nil] at hone
        exact .inl (by omega)
  | replace =>
    obtain rfl : h.replace p = h' := congrArg Prod.snd hr
    have hentries : (h.replace p).entries = h.entries.set h.index (some p) := rfl
    have hindex : (h.replace p).index = h.index := rfl
    rw [hentries, hindex]
    constructor
    · simp [hlt]
    · intro k q hk
      by_cases hki : k = h.index
      · exact .inl hki
      · rw [List.getElem?_set_ne (fun heq => hki heq.symm)] at hk
        exact .inr hk

/-- Writing an entry over itself changes nothing. -/
theorem replace_self {h : MemoryHistory} {p : Progress}
    (hp : h.entries[h.index]? = some (some p)) : h.replace p = h := by
  refine ext ?_ rfl
  have hentries : (h.replace p).entries = h.entries.set h.index (some p) := rfl
  rw [hentries]
  obtain ⟨hlt, hget⟩ := List.getElem?_eq_some_iff.1 hp
  rw [← hget]
  exact List.set_getElem_self hlt

end MemoryHistory

/-- One step through the browser, either way: the entry there and the browser there. -/
inductive Travels (browser : MemoryHistory) : Option Progress → MemoryHistory → Prop where
  | back {entry : Option Progress} {there : MemoryHistory} :
      Travel.back? browser = some (entry, there) → Travels browser entry there
  | forward {entry : Option Progress} {there : MemoryHistory} :
      Travel.forward? browser = some (entry, there) → Travels browser entry there

/-- Going through the browser changes no entry, and leads to one of at least two. -/
theorem Travels.spec {browser there : MemoryHistory} {entry : Option Progress}
    (h : Travels browser entry there) :
    there.entries = browser.entries ∧ there.entries[there.index]? = some entry ∧
      1 < there.entries.length := by
  have hlt := browser.index_lt
  cases h with
  | back hb =>
    obtain ⟨b, hmoved, hpair⟩ := Option.map_eq_some_iff.1 hb
    obtain ⟨rfl, rfl⟩ := Prod.mk.inj hpair
    unfold MemoryHistory.back? at hmoved
    split at hmoved
    · obtain rfl := Option.some.inj hmoved
      refine ⟨rfl, MemoryHistory.getElem?_index _, ?_⟩
      dsimp only
      omega
    · cases hmoved
  | forward hf =>
    obtain ⟨b, hmoved, hpair⟩ := Option.map_eq_some_iff.1 hf
    obtain ⟨rfl, rfl⟩ := Prod.mk.inj hpair
    unfold MemoryHistory.forward? at hmoved
    split at hmoved
    · obtain rfl := Option.some.inj hmoved
      refine ⟨rfl, MemoryHistory.getElem?_index _, ?_⟩
      dsimp only
      omega
    · cases hmoved

/-! ## Section 2: Readers -/

/-- A step that visits passages only to add them to the history, and leaves it to the
    browser which entries it reports. -/
def Step.isReaders : Step → Bool
  | .goTo _ addToHistory => addToHistory
  | .pop _ => false
  | _ => true

/-- A step that goes to a passage, other than back or forward. -/
def Step.visits : Step → Bool
  | .play | .goTo _ _ | .follow _ | .click _ | .restore => true
  | _ => false

/-- Before anything has been done: an engine with nothing visited, no variables and an
    empty screen. The saved game, if there is one, may be any text. -/
structure IsFresh {H : Type} (e : Engine σ S H Screen) : Prop where
  place : e.place = {}
  state : e.state = []
  screen : e.display = {}

namespace Engine

theorem tidy_of_isFresh {H : Type} {e : Engine σ S H Screen} (hf : IsFresh e) : e.Tidy := by
  unfold Tidy
  rw [hf.screen]
  exact ⟨fun _ => rfl, fun _ => rfl⟩

variable [Storage S]

/-- `visit` is the engine right after the visit that recorded the entry which, after
    `steps`, is at the place `k` of the browser's entries: the last step that recorded
    an entry there. -/
inductive RecordedBy (first : Engine σ S MemoryHistory Screen) :
    List Step → Nat → Engine σ S MemoryHistory Screen → Prop where
  | visited {steps : List Step} {s : Step} {visit : Engine σ S MemoryHistory Screen} :
      s.visits = true → (first.run steps).step s = (.done, visit) →
      RecordedBy first (steps ++ [s]) visit.browser.index visit
  | kept {steps : List Step} {s : Step} {k : Nat} {visit : Engine σ S MemoryHistory Screen} :
      RecordedBy first steps k visit →
      ¬ (s.visits = true ∧ ((first.run steps).step s).1 = .done ∧
        ((first.run steps).step s).2.browser.index = k) →
      RecordedBy first (steps ++ [s]) k visit

theorem run_snoc {H : Type} [BrowserHistory H] [Travel H] (first : Engine σ S H Screen)
    (steps : List Step) (s : Step) :
    first.run (steps ++ [s]) = ((first.run steps).step s).2 := by
  unfold run
  rw [List.foldl_append]
  rfl

/-! ## Section 3: Steps other than back and forward -/

section

variable {H : Type} [BrowserHistory H] [Travel H] [KeepsOnRefusal H]

/-- A step that visits a passage lands, if it is done; any other one leaves the reader
    where they are. -/
def StepLandsOrStays (e : Engine σ S H Screen) (s : Step) : Prop :=
  (s.visits = true ∧ (e.step s).1 = .done ∧ e.Lands e.browser (e.step s).2) ∨
    (¬ (s.visits = true ∧ (e.step s).1 = .done) ∧ e.Stays (e.step s).2)

omit [KeepsOnRefusal H] in
theorem stepLandsOrStays_of_visit {e : Engine σ S H Screen} {s : Step}
    {result : Except EngineError Unit × Engine σ S H Screen} (hv : s.visits = true)
    (hs : e.step s = (.of result.1, result.2)) (h : e.LandsOrStays result) :
    e.StepLandsOrStays s := by
  cases h with
  | lands hl =>
    refine .inl ⟨hv, ?_, ?_⟩
    · rw [hs]
      rfl
    · rw [hs]
      exact hl
  | stays hst =>
    refine .inr ⟨?_, ?_⟩
    · rintro ⟨-, hdone⟩
      rw [hs] at hdone
      cases hdone
    · rw [hs]
      exact hst

omit [KeepsOnRefusal H] in
theorem stepLandsOrStays_of_stays {e : Engine σ S H Screen} {s : Step} (hv : s.visits = false)
    (h : e.Stays (e.step s).2) : e.StepLandsOrStays s := by
  refine .inr ⟨?_, h⟩
  rintro ⟨hv', -⟩
  rw [hv] at hv'
  cases hv'

omit [BrowserHistory H] [Travel H] [KeepsOnRefusal H] [Storage S] in
theorem stays_showPassage (e : Engine σ S H Screen) (query : Query) :
    e.Stays (e.showPassage query).2 := by
  obtain ⟨state, m, trace, hleaves⟩ := e.showPassage_leaves query
  rw [hleaves]
  exact ⟨rfl, rfl, rfl, rfl, rfl, rfl, rfl⟩

omit [BrowserHistory H] [Travel H] [KeepsOnRefusal H] in
theorem stays_save (e : Engine σ S H Screen) : e.Stays e.save.2 := by
  obtain ⟨store, trace, hleaves⟩ := e.save_leaves
  rw [hleaves]
  exact ⟨rfl, rfl, rfl, rfl, rfl, rfl, rfl⟩

omit [BrowserHistory H] [Travel H] [KeepsOnRefusal H] in
theorem stays_reset (e : Engine σ S H Screen) : e.Stays e.reset.2 := by
  obtain ⟨store, trace, hleaves⟩ := e.reset_leaves
  rw [hleaves]
  exact ⟨rfl, rfl, rfl, rfl, rfl, rfl, rfl⟩

omit [KeepsOnRefusal H] in
theorem step_showPassage (e : Engine σ S H Screen) (query : Query) :
    (e.step (.showPassage query)).2 = (e.showPassage query).2 := by
  unfold step
  dsimp only
  rcases e.showPassage query with ⟨err | p, after⟩ <;> rfl

omit [KeepsOnRefusal H] in
theorem step_click_none {e : Engine σ S H Screen} {n : Nat} (h : e.display.link? n = none) :
    e.step (.click n) = (.noLink, e) := by
  unfold step
  simp only [h]

omit [KeepsOnRefusal H] in
theorem step_click_some {e : Engine σ S H Screen} {n : Nat} {link : Link}
    (h : e.display.link? n = some link) :
    e.step (.click n) = (.of (e.followLink link.target).1, (e.followLink link.target).2) := by
  unfold step
  simp only [h]

/-- What every reader's step does that is not one through the browser. -/
theorem step_landsOrStays {e : Engine σ S H Screen} (ht : e.Tidy)
    (hd : e.renderer.DeterminedOn e.story) (s : Step) (hs : s.isReaders = true)
    (hback : s ≠ .back) (hforward : s ≠ .forward) : e.StepLandsOrStays s := by
  cases s with
  | play => exact stepLandsOrStays_of_visit rfl rfl (e.play_arrivesOrKeeps.landsOrStays ht hd)
  | goTo query addToHistory =>
    obtain rfl : addToHistory = true := hs
    exact stepLandsOrStays_of_visit rfl rfl
      ((e.goToPassage_arrivesOrKeeps query).landsOrStays ht hd)
  | follow target =>
    exact stepLandsOrStays_of_visit rfl rfl
      ((e.goToPassage_arrivesOrKeeps (.name target)).landsOrStays ht hd)
  | click n =>
    -- a click is a visit only if the screen has a link of this number
    cases hlink : e.display.link? n with
    | none =>
      have hstep := step_click_none hlink
      refine .inr ⟨?_, ?_⟩
      · rw [hstep]
        rintro ⟨-, hdone⟩
        cases hdone
      · rw [hstep]
        exact .refl e
    | some link =>
      exact stepLandsOrStays_of_visit rfl (step_click_some hlink)
        ((e.goToPassage_arrivesOrKeeps (.name link.target)).landsOrStays ht hd)
  | showPassage query =>
    refine stepLandsOrStays_of_stays rfl ?_
    rw [step_showPassage]
    exact e.stays_showPassage query
  | checkpoint name =>
    exact stepLandsOrStays_of_stays rfl ⟨rfl, rfl, rfl, rfl, rfl, rfl, rfl⟩
  | save => exact stepLandsOrStays_of_stays rfl e.stays_save
  | restore => exact stepLandsOrStays_of_visit rfl rfl (e.restore_arrivesOrKeeps.landsOrStays ht hd)
  | reset => exact stepLandsOrStays_of_stays rfl e.stays_reset
  | back => exact absurd rfl hback
  | forward => exact absurd rfl hforward
  | pop entry => cases hs
  | setVariable name value =>
    exact stepLandsOrStays_of_stays rfl ⟨rfl, rfl, rfl, rfl, rfl, rfl, rfl⟩
  | write state =>
    exact stepLandsOrStays_of_stays rfl ⟨rfl, rfl, rfl, rfl, rfl, rfl, rfl⟩

end

/-! ## Section 4: The invariant -/

/-- After steps of a reader: every entry was recorded by a visit, and replays to what was
    then on screen; and a browser that can be gone through belongs to a reader who has
    visited something. -/
structure Replayable (first : Engine σ S MemoryHistory Screen) (steps : List Step) : Prop where
  story : (first.run steps).story = first.story
  renderer : (first.run steps).renderer = first.renderer
  tidy : (first.run steps).Tidy
  visited : 1 < (first.run steps).browser.entries.length → (first.run steps).place.history ≠ []
  entries : ∀ k p, (first.run steps).browser.entries[k]? = some (some p) →
    ∃ visit, first.RecordedBy steps k visit ∧ visit.browser.current = some p ∧
      Replays first.story first.renderer p visit.view

theorem replayable_fresh {first : Engine σ S MemoryHistory Screen} (hf : IsFresh first)
    (hb : first.browser = .fresh) : first.Replayable [] where
  story := rfl
  renderer := rfl
  tidy := tidy_of_isFresh hf
  visited := by
    have hbrowser : (first.run []).browser = .fresh := hb
    rw [hbrowser]
    intro h
    exact absurd h (by decide)
  entries := by
    have hbrowser : (first.run []).browser = .fresh := hb
    rw [hbrowser]
    intro k p h
    -- the only entry is blank
    cases k with
    | zero => cases h
    | succ k => cases h

/-- A step that lands records an entry of its own and keeps the others. -/
theorem Replayable.of_lands {first : Engine σ S MemoryHistory Screen} {steps : List Step}
    {s : Step} (h : first.Replayable steps) (hv : s.visits = true)
    (hdone : ((first.run steps).step s).1 = .done)
    (hl : (first.run steps).Lands (first.run steps).browser ((first.run steps).step s).2) :
    first.Replayable (steps ++ [s]) := by
  obtain ⟨action, hrecords⟩ := hl.records
  obtain ⟨hown, hothers⟩ := MemoryHistory.record_entries hrecords
  have hreplays := hl.replays
  rw [h.story, h.renderer] at hreplays
  constructor
  · rw [run_snoc, hl.story, h.story]
  · rw [run_snoc, hl.renderer, h.renderer]
  · rw [run_snoc]
    exact hl.tidy
  · rw [run_snoc]
    intro _
    exact hreplays.history_ne_nil
  · rw [run_snoc]
    intro k p hk
    -- the entry where the browser is now is the one this step recorded, and the others are older
    by_cases hplace : k = ((first.run steps).step s).2.browser.index
    · subst hplace
      have hcurrent := hk
      rw [MemoryHistory.getElem?_index] at hcurrent
      rw [hown] at hk
      obtain rfl := Option.some.inj (Option.some.inj hk)
      exact ⟨_, .visited hv (Prod.ext hdone rfl), Option.some.inj hcurrent, hreplays⟩
    · rcases hothers k _ hk with hk' | hk'
      · exact absurd hk' hplace
      · obtain ⟨visit, hrecorded, hcurrent, hvisit⟩ := h.entries k p hk'
        refine ⟨visit, .kept hrecorded ?_, hcurrent, hvisit⟩
        rintro ⟨-, -, hindex⟩
        exact hplace hindex.symm

/-- A step that records nothing and keeps every entry. -/
theorem Replayable.of_same {first : Engine σ S MemoryHistory Screen} {steps : List Step}
    {s : Step} (h : first.Replayable steps)
    (hrecords : ¬ (s.visits = true ∧ ((first.run steps).step s).1 = .done))
    (hstory : ((first.run steps).step s).2.story = (first.run steps).story)
    (hrenderer : ((first.run steps).step s).2.renderer = (first.run steps).renderer)
    (hentries : ((first.run steps).step s).2.browser.entries = (first.run steps).browser.entries)
    (htidy : ((first.run steps).step s).2.Tidy)
    (hhistory : (first.run steps).place.history ≠ [] →
      ((first.run steps).step s).2.place.history ≠ []) :
    first.Replayable (steps ++ [s]) := by
  constructor
  · rw [run_snoc, hstory, h.story]
  · rw [run_snoc, hrenderer, h.renderer]
  · rw [run_snoc]
    exact htidy
  · rw [run_snoc, hentries]
    intro hlen
    exact hhistory (h.visited hlen)
  · rw [run_snoc, hentries]
    intro k p hk
    obtain ⟨visit, hrecorded, hcurrent, hvisit⟩ := h.entries k p hk
    refine ⟨visit, .kept hrecorded ?_, hcurrent, hvisit⟩
    rintro ⟨hv, hdone, -⟩
    exact hrecords ⟨hv, hdone⟩

/-! ## Section 5: Back and forward -/

/-- The browser has gone to `there`, and the engine follows it: that succeeds, changes no
    entry, and an entry that was recorded comes with the view it was recorded with. -/
theorem Replayable.travel {first : Engine σ S MemoryHistory Screen} {steps : List Step}
    (h : first.Replayable steps) {entry : Option Progress} {there : MemoryHistory}
    (ht : Travels (first.run steps).browser entry there) :
    ∃ after, { first.run steps with browser := there }.handlePop entry = (.ok (), after) ∧
      after.story = (first.run steps).story ∧ after.renderer = (first.run steps).renderer ∧
      after.browser = there ∧ after.Tidy ∧ after.place.history ≠ [] ∧
      ∀ p, entry = some p → after.progress = p ∧
        ∃ visit, first.RecordedBy steps there.index visit ∧ visit.browser.current = some p ∧
          after.view = visit.view := by
  obtain ⟨hentries, hcurrent, hlen⟩ := ht.spec
  cases entry with
  | none =>
    have hvisited : (first.run steps).place.history ≠ [] := by
      rw [hentries] at hlen
      exact h.visited hlen
    -- a reader who has visited something stays there when the browser leaves the story
    have hempty : (first.run steps).place.history.isEmpty = false := by
      rw [List.isEmpty_eq_false_iff]
      exact hvisited
    refine ⟨{ first.run steps with browser := there }, ?_, rfl, rfl, rfl, h.tidy, hvisited, ?_⟩
    · unfold handlePop
      dsimp only
      rw [hempty]
      rfl
    · intro p hp
      cases hp
  | some p =>
    -- the invariant speaks of the browser before it moved, which has the same entries
    have hentry := hcurrent
    rw [hentries] at hentry
    obtain ⟨visit, hrecorded, hvisit, hreplays⟩ := h.entries _ _ hentry
    rw [← h.story, ← h.renderer] at hreplays
    obtain ⟨last, passage, after, hlast, -, hgo, hrecord, hafter, hview, htidy, hstory,
        hrenderer, -⟩ :=
      goTo_replayed (e := { first.run steps with browser := there }) h.tidy hreplays .replaceOnly
        fun action => there.accepts action p
    refine ⟨after, ?_, hstory, hrenderer, ?_, htidy, ?_, ?_⟩
    · unfold handlePop
      simp only [hlast]
      rw [hgo]
    · -- the entry is written over itself
      have hreplace : there.replace p = after.browser := congrArg Prod.snd hrecord
      rw [← hreplace, MemoryHistory.replace_self hcurrent]
    · rw [← hafter] at hreplays
      exact hreplays.history_ne_nil
    · intro q hq
      obtain rfl := Option.some.inj hq
      exact ⟨hafter, visit, hrecorded, hvisit, hview⟩

omit [Storage S] in
theorem travel_none {e : Engine σ S MemoryHistory Screen} : e.travel none = (.edge, e) := rfl

omit [Storage S] in
theorem travel_some {e after : Engine σ S MemoryHistory Screen} {entry : Option Progress}
    {there : MemoryHistory}
    (h : { e with browser := there }.handlePop entry = (.ok (), after)) :
    e.travel (some (entry, there)) = (.done, after) := by
  unfold travel
  dsimp only
  rw [h]
  rfl

/-- Going back or forward as a step of a session. -/
theorem Replayable.of_travel {first : Engine σ S MemoryHistory Screen} {steps : List Step}
    {s : Step} (h : first.Replayable steps) {moved : Option (Option Progress × MemoryHistory)}
    (hstep : (first.run steps).step s = (first.run steps).travel moved) (hv : s.visits = false)
    (hmoved : ∀ entry there, moved = some (entry, there) →
      Travels (first.run steps).browser entry there) :
    first.Replayable (steps ++ [s]) := by
  have hrecords : ¬ (s.visits = true ∧ ((first.run steps).step s).1 = .done) := by
    rw [hv]
    rintro ⟨hv', -⟩
    cases hv'
  cases moved with
  | none =>
    rw [travel_none] at hstep
    refine h.of_same hrecords ?_ ?_ ?_ ?_ ?_ <;> rw [hstep]
    · exact h.tidy
    · exact id
  | some move =>
    obtain ⟨entry, there⟩ := move
    have ht := hmoved entry there rfl
    obtain ⟨after, hpop, hstory, hrenderer, hbrowser, htidy, hhistory, -⟩ := h.travel ht
    rw [travel_some hpop] at hstep
    refine h.of_same hrecords ?_ ?_ ?_ ?_ ?_ <;> rw [hstep]
    · exact hstory
    · exact hrenderer
    · dsimp only
      rw [hbrowser, ht.spec.1]
    · exact htidy
    · exact fun _ => hhistory

/-- Every step of a reader keeps the invariant. -/
theorem Replayable.step {first : Engine σ S MemoryHistory Screen} {steps : List Step}
    (h : first.Replayable steps) (hd : first.renderer.DeterminedOn first.story) (s : Step)
    (hs : s.isReaders = true) : first.Replayable (steps ++ [s]) := by
  by_cases hback : s = .back
  · subst hback
    exact h.of_travel rfl rfl fun entry there hm => .back hm
  by_cases hforward : s = .forward
  · subst hforward
    exact h.of_travel rfl rfl fun entry there hm => .forward hm
  rw [← h.story, ← h.renderer] at hd
  rcases step_landsOrStays h.tidy hd s hs hback hforward with
    ⟨hv, hdone, hl⟩ | ⟨hrecords, hst⟩
  · exact h.of_lands hv hdone hl
  · refine h.of_same hrecords hst.story hst.renderer ?_ (hst.tidy h.tidy) ?_
    · rw [hst.browser]
    · rw [hst.history]
      exact id

/-- So it holds after every session of a reader. -/
theorem replayable_run {first : Engine σ S MemoryHistory Screen} (hf : IsFresh first)
    (hb : first.browser = .fresh) (hd : first.renderer.DeterminedOn first.story)
    (steps : List Step) (hs : ∀ s ∈ steps, s.isReaders = true) : first.Replayable steps := by
  -- the invariant is kept at the end of a session, so the session is taken apart there
  induction steps using List.reverseRecOn with
  | nil => exact replayable_fresh hf hb
  | append_singleton steps s ih =>
    have hsteps := ih fun t ht => hs t (List.mem_append_left _ ht)
    exact hsteps.step hd s (hs s (by simp))

/-- **Back and forward replay faithfully.** Whenever the browser goes back or forward
    during a session of a reader, following it to the entry there succeeds and leaves the
    entries and the place among them as they are. An entry that is not blank brings back
    its history, its checkpoint and its variables on entry, and the variables and the
    screen are what they were right after the visit that recorded it. -/
theorem back_and_forward_replay {first : Engine σ S MemoryHistory Screen} (hf : IsFresh first)
    (hb : first.browser = .fresh) (hd : first.renderer.evaluator.IsDetermined)
    (steps : List Step) (hs : ∀ s ∈ steps, s.isReaders = true)
    {entry : Option Progress} {there : MemoryHistory}
    (ht : Travels (first.run steps).browser entry there) :
    ∃ after, { first.run steps with browser := there }.handlePop entry = (.ok (), after) ∧
      after.browser = there ∧ there.entries = (first.run steps).browser.entries ∧
      ∀ p, entry = some p →
        after.place.history = p.history ∧ after.place.checkpoint = p.checkpoint ∧
        after.place.entryState = p.state ∧
        ∃ visit, first.RecordedBy steps there.index visit ∧ visit.browser.current = some p ∧
          after.view = visit.view := by
  have h := replayable_run hf hb (Renderer.determinedOn hd _) steps hs
  obtain ⟨after, hpop, -, -, hbrowser, -, -, hreplay⟩ := h.travel ht
  refine ⟨after, hpop, hbrowser, ht.spec.1, ?_⟩
  intro p hp
  obtain ⟨rfl, hvisit⟩ := hreplay p hp
  exact ⟨rfl, rfl, rfl, hvisit⟩

end Engine

/-! ## Section 6: The lamp goes dark again -/

theorem Evaluator.switches_isDetermined : (Evaluator.switches : Evaluator σ).IsDetermined := by
  intro scene code state m m'
  cases hget : Table.get? code state with
  | some v =>
    have hok : ∀ m, ((Evaluator.switches : Evaluator σ).evaluate scene code).outcome ⟨state, m⟩
        = (.ok v, ⟨state, m⟩) := by
      intro m
      refine Action.bind_eq_ok.2 ⟨⟨state, m⟩, _, rfl, ?_⟩
      dsimp only
      rw [hget]
      rfl
    rw [hok, hok]
    exact ⟨rfl, rfl, rfl, rfl⟩
  | none =>
    have herror : ∀ m, ((Evaluator.switches : Evaluator σ).evaluate scene code).outcome ⟨state, m⟩
        = (.error (.unknownIdentifier code), ⟨state, m⟩) := by
      intro m
      refine Action.bind_eq_error.2 (.inr ⟨⟨state, m⟩, _, rfl, ?_⟩)
      dsimp only
      rw [hget]
      rfl
    rw [herror, herror]
    exact ⟨rfl, rfl, rfl, rfl⟩

/-- A reader of that story before anything has been done. -/
def lampFirst : Engine Unit MemoryStore MemoryHistory Screen :=
  { lampReader with state := [] }

/-- With gold in hand, from the door down to the cellar. -/
def lampSteps : List Step :=
  [.write [("gold", .int 3), ("lamp", .bool false)], .play, .goTo (.name "Cellar") true]

/-- The entry that was recorded at the door. -/
def lampDoor : Progress where
  state := [("gold", .int 3), ("lamp", .bool false)]
  history := [1]
  checkpoint := ""

/-- Back at the door, the lamp that the cellar lit is as it was when the door was shown. -/
theorem back_and_forward_replay_door :
    (lampFirst.run lampSteps).state = [("gold", .int 3), ("lamp", .bool true)] ∧
      ∃ there after, Travels (lampFirst.run lampSteps).browser (some lampDoor) there ∧
        { lampFirst.run lampSteps with browser := there }.handlePop (some lampDoor)
          = (.ok (), after) ∧
        after.place.history = [1] ∧ after.place.entryState = lampDoor.state ∧
        ∃ visit, lampFirst.RecordedBy lampSteps there.index visit ∧ after.view = visit.view := by
  have hrun : ((lampFirst.run lampSteps).state,
        (Travel.back? (lampFirst.run lampSteps).browser).map Prod.fst)
      = ([("gold", .int 3), ("lamp", .bool true)], some (some lampDoor)) := by cbv
  obtain ⟨hstate, hback⟩ := Prod.mk.inj hrun
  obtain ⟨⟨entry, there⟩, hmoved, hentry⟩ := Option.map_eq_some_iff.1 hback
  obtain rfl : entry = some lampDoor := hentry
  have ht := Travels.back hmoved
  obtain ⟨after, hpop, -, -, hreplay⟩ :=
    Engine.back_and_forward_replay ⟨rfl, rfl, rfl⟩ rfl Evaluator.switches_isDetermined lampSteps
      (by decide) ht
  obtain ⟨hhistory, -, hentered, visit, hrecorded, -, hview⟩ := hreplay _ rfl
  exact ⟨hstate, there, after, ht, hpop, hhistory, hentered, visit, hrecorded, hview⟩

end Hyperfiction
