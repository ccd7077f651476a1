import Hyperfiction.Proofs.SavedGame
import Hyperfiction.Proofs.Travel

/-! # Resuming a saved game

    A saved game holds the entry that the last navigation recorded, not the variables
    that its passage left. They come back because the passage is shown again: from the
    same variables on entry, with the same history and the same checkpoint. So a save
    made right after a navigation, whatever went before it, resumes where it was made,
    both in the same session and in a new one.
-/

namespace Hyperfiction

variable {σ S H : Type}

/-! ## Section 1: Stores and histories that work -/

/-- A store that gives back under a key the text that it has taken under that key. -/
class ReadsBack (S : Type) [Storage S] : Prop where
  get_set : ∀ (store after : S) (key text : String),
    Storage.set store key text = (.ok (), after) → Storage.get after key = .ok (some text)

instance : ReadsBack MemoryStore where
  get_set := by
    intro store after key text h
    obtain ⟨-, rfl⟩ := Prod.mk.inj h
    show Except.ok (Table.get? key (Table.insert key text store.entries)) = _
    rw [Table.get?_insert_self]

/-- A history that refuses no entry. -/
class Accepting (H : Type) [BrowserHistory H] : Prop where
  accepts : ∀ (history : H) (action : HistoryAction) (p : Progress),
    (BrowserHistory.record history action p).1 = .ok ()

instance : Accepting MemoryHistory := ⟨MemoryHistory.accepts⟩

instance [BrowserHistory H] [Accepting H] : KeepsOnRefusal H where
  keeps := by
    intro history action p e refused
    rw [Accepting.accepts] at refused
    cases refused

/-! ## Section 2: Whatever went before -/

namespace Engine

variable [Storage S] [BrowserHistory H] [Travel H]

omit [Storage S] [Travel H] in
/-- The story and the renderer stay what they are, and the screen stays tidy. -/
def Keeps (e after : Engine σ S H Screen) : Prop :=
  after.story = e.story ∧ after.renderer = e.renderer ∧ (e.Tidy → after.Tidy)

omit [Storage S] [BrowserHistory H] [Travel H] in
theorem Stays.keeps {e after : Engine σ S H Screen} (h : e.Stays after) : e.Keeps after :=
  ⟨h.story, h.renderer, h.tidy⟩

omit [Storage S] [Travel H] in
theorem LandsOrStays.keeps {ε : Type} {e : Engine σ S H Screen}
    {result : Except ε Unit × Engine σ S H Screen} (h : e.LandsOrStays result) :
    e.Keeps result.2 := by
  cases h with
  | lands hl => exact ⟨hl.story, hl.renderer, fun _ => hl.tidy⟩
  | stays hs => exact hs.keeps

omit [Storage S] [Travel H] in
theorem goTo_keeps [KeepsOnRefusal H] (e : Engine σ S H Screen) (query : Query)
    (addToHistory : Bool) (recording : Recording) :
    e.Keeps (e.goTo query addToHistory recording).2 := by
  rcases hg : e.goTo query addToHistory recording with ⟨err | _, after⟩
  · have hs := stays_of_goTo_error (e := e) (congrArg Prod.fst hg)
    rw [hg] at hs
    exact hs.keeps
  · obtain ⟨passage, frame, hc⟩ := goTo_ok_commits hg
    exact ⟨hc.same_story, hc.same_renderer, fun ht => (hc.view ht).2⟩

omit [Storage S] [Travel H] in
/-- Following the browser, to an entry of any kind. -/
theorem handlePop_keeps [KeepsOnRefusal H] (e : Engine σ S H Screen) (entry : Option Progress) :
    e.Keeps (e.handlePop entry).2 := by
  cases entry with
  | none =>
    unfold handlePop
    dsimp only
    split
    · exact goTo_keeps _ _ _ _
    · exact (Stays.refl e).keeps
  | some p =>
    unfold handlePop
    cases hp : p.last? with
    | none =>
      simp only [hp]
      exact (Stays.refl e).keeps
    | some last =>
      simp only [hp]
      have hk := goTo_keeps (e.adopt p) (.id last) false .replaceOnly
      rcases hg : (e.adopt p).goTo (.id last) false .replaceOnly with ⟨err | _, after⟩
      · rw [hg] at hk
        exact hk
      · rw [hg] at hk
        exact hk

/-- Every step of a session, of whatever kind, keeps the story and a tidy screen. -/
theorem step_keeps [KeepsOnRefusal H] {e : Engine σ S H Screen} (ht : e.Tidy)
    (hd : e.renderer.DeterminedOn e.story) (s : Step) : e.Keeps (e.step s).2 := by
  have htravel : ∀ moved : Option (Option Progress × H), e.Keeps (e.travel moved).2 := by
    intro moved
    cases moved with
    | none => exact (Stays.refl e).keeps
    | some move => exact handlePop_keeps { e with browser := move.2 } move.1
  by_cases hback : s = .back
  · subst hback
    exact htravel _
  by_cases hforward : s = .forward
  · subst hforward
    exact htravel _
  by_cases hs : s.isReaders = true
  · rcases step_landsOrStays ht hd s hs hback hforward with ⟨-, -, hl⟩ | ⟨-, hst⟩
    · exact ⟨hl.story, hl.renderer, fun _ => hl.tidy⟩
    · exact hst.keeps
  · -- what is left goes to a passage without adding it, or reports an entry
    cases s with
    | goTo query addToHistory => exact goTo_keeps e query addToHistory .decide
    | pop entry => exact handlePop_keeps e entry
    | _ => exact absurd rfl hs

theorem run_keeps [KeepsOnRefusal H] {first : Engine σ S H Screen} (ht : first.Tidy)
    (hd : first.renderer.DeterminedOn first.story) (steps : List Step) :
    first.Keeps (first.run steps) := by
  induction steps using List.reverseRecOn with
  | nil => exact (Stays.refl first).keeps
  | append_singleton steps s ih =>
    obtain ⟨hstory, hrenderer, htidy⟩ := ih
    have hd' : (first.run steps).renderer.DeterminedOn (first.run steps).story := by
      rw [hstory, hrenderer]
      exact hd
    obtain ⟨hstory', hrenderer', htidy'⟩ := step_keeps (htidy ht) hd' s
    rw [run_snoc]
    exact ⟨hstory'.trans hstory, hrenderer'.trans hrenderer, fun ht => htidy' (htidy ht)⟩

end Engine

/-! ## Section 3: The last navigation -/

/-- A step that goes to a passage and ends the history with it. The entry it makes is
    recorded in the second browser, which is the one before the step, or the one to which
    the browser went back or forward. -/
inductive Step.Navigates [Travel H] (browser : H) : Step → H → Prop where
  | play : Navigates browser .play browser
  | goTo (query : Query) : Navigates browser (.goTo query true) browser
  | follow (target : String) : Navigates browser (.follow target) browser
  | click (n : Nat) : Navigates browser (.click n) browser
  | restore : Navigates browser .restore browser
  | pop (p : Progress) : Navigates browser (.pop (some p)) browser
  | back {p : Progress} {there : H} :
      Travel.back? browser = some (some p, there) → Navigates browser .back there
  | forward {p : Progress} {there : H} :
      Travel.forward? browser = some (some p, there) → Navigates browser .forward there

namespace Engine

variable [Storage S] [BrowserHistory H] [Travel H]

omit [Storage S] [Travel H] in
theorem lands_of_handlePop [KeepsOnRefusal H] {e after : Engine σ S H Screen} (ht : e.Tidy)
    (hd : e.renderer.DeterminedOn e.story) {p : Progress} {result : StepResult}
    (h : (let (result, e) := e.handlePop (some p); (StepResult.of result, e)) = (result, after))
    (hdone : result = .done) : e.Lands e.browser after := by
  have hpop := (e.handlePop_entry_arrivesOrKeeps p).landsOrStays ht hd
  rcases hr : e.handlePop (some p) with ⟨err | _, after'⟩
  · rw [hr] at h
    obtain ⟨rfl, -⟩ := Prod.mk.inj h
    cases hdone
  · rw [hr] at h hpop
    obtain ⟨-, rfl⟩ := Prod.mk.inj h
    cases hpop with
    | lands hl => exact hl

/-- A navigation that is done has landed. -/
theorem lands_of_navigates [KeepsOnRefusal H] {e after : Engine σ S H Screen} (ht : e.Tidy)
    (hd : e.renderer.DeterminedOn e.story) {s : Step} {browser : H}
    (hs : s.Navigates e.browser browser) (h : e.step s = (.done, after)) :
    e.Lands browser after := by
  -- what a reader can do by visiting lands already, for the step was done
  have hvisit : s.isReaders = true → s ≠ .back → s ≠ .forward → s.visits = true →
      e.Lands e.browser after := by
    intro hreaders hback hforward hv
    rcases step_landsOrStays ht hd s hreaders hback hforward with ⟨-, -, hl⟩ | ⟨hnot, -⟩
    · rw [h] at hl
      exact hl
    · exact absurd ⟨hv, congrArg Prod.fst h⟩ hnot
  -- what goes through the browser follows an entry that it reports
  have htravel : ∀ (p : Progress) (there : H),
      e.travel (some (some p, there)) = (.done, after) → e.Lands there after := by
    intro p there htr
    have hl := lands_of_handlePop (e := { e with browser := there }) ht hd htr rfl
    exact hl.of_same rfl rfl
  cases hs with
  | play => exact hvisit rfl (by simp) (by simp) rfl
  | goTo query => exact hvisit rfl (by simp) (by simp) rfl
  | follow target => exact hvisit rfl (by simp) (by simp) rfl
  | click n => exact hvisit rfl (by simp) (by simp) rfl
  | restore => exact hvisit rfl (by simp) (by simp) rfl
  | pop p => exact lands_of_handlePop ht hd h rfl
  | @back p _ hmoved =>
    refine htravel p _ ?_
    rw [← hmoved]
    exact h
  | @forward p _ hmoved =>
    refine htravel p _ ?_
    rw [← hmoved]
    exact h

/-- Whatever a session has done before, a navigation lands, and its entry replays. -/
theorem arrives_of_navigates [KeepsOnRefusal H] {first a : Engine σ S H Screen}
    (hf : IsFresh first) (hd : first.renderer.DeterminedOn first.story) {steps : List Step}
    {s : Step} {browser : H} (hs : s.Navigates (first.run steps).browser browser)
    (ha : (first.run steps).step s = (.done, a)) :
    (first.run steps).Lands browser a ∧ a.renderer.DeterminedOn a.story ∧
      Replays a.story a.renderer a.progress a.view := by
  -- of all that went before only the story, the renderer and a tidy screen matter
  obtain ⟨hstory, hrenderer, htidy⟩ := run_keeps (tidy_of_isFresh hf) hd steps
  have ht := htidy (tidy_of_isFresh hf)
  rw [← hstory, ← hrenderer] at hd
  have hl := lands_of_navigates ht hd hs ha
  have hreplays := hl.replays
  rw [← hl.story, ← hl.renderer] at hreplays hd
  exact ⟨hl, hd, hreplays⟩

/-! ## Section 4: Restoring -/

omit [Travel H] in
/-- A saved game that replays to a view is restored to that view. -/
theorem restore_replayed [Accepting H] {e : Engine σ S H Screen} (ht : e.Tidy) {p : Progress}
    {view : View} (hp : Replays e.story e.renderer p view)
    (hload : Storage.load e.store e.saveKey = .ok p) :
    ∃ after passage, e.restore = (.ok (), after) ∧ after.progress = p ∧ after.view = view ∧
      BrowserHistory.record e.browser (e.actionTo passage .decide) p = (.ok (), after.browser) := by
  obtain ⟨last, passage, after, hlast, -, hgo, hrecord, hprogress, hview, -⟩ :=
    goTo_replayed (e := e.notify .restoring) ht hp .decide
      fun action => Accepting.accepts _ action p
  refine ⟨after.notify .restored, passage, ?_, hprogress, hview, hrecord⟩
  rw [restore_loaded hload hlast, hgo]

omit [Travel H] in
/-- Play restores a saved game that replays. -/
theorem play_replayed [Accepting H] {e : Engine σ S H Screen} (ht : e.Tidy) {p : Progress}
    {view : View} (hp : Replays e.story e.renderer p view)
    (hsave : Storage.hasSave e.store e.saveKey = .ok true)
    (hload : Storage.load e.store e.saveKey = .ok p) :
    ∃ after passage, e.play = (.ok (), after) ∧ after.progress = p ∧ after.view = view ∧
      BrowserHistory.record e.browser (e.actionTo passage .decide) p = (.ok (), after.browser) := by
  obtain ⟨after, passage, hrestore, hprogress, hview, hrecord⟩ :=
    restore_replayed (e := e.configured) (e.stays_configured.tidy ht) hp hload
  refine ⟨after, passage, ?_, hprogress, hview, hrecord⟩
  rw [play_eq, hsave]
  unfold startFrom
  dsimp only
  rw [hrestore]

/-- What saving wrote is loaded as the text says. -/
theorem load_saved [ReadsBack S] {store after : S} {key text : String}
    (hset : Storage.set store key text = (.ok (), after)) (p : Progress) :
    Storage.load after key = .ok p ↔ Progress.ofSavedText text = .ok p := by
  rw [Storage.load_of_get (ReadsBack.get_set _ _ _ _ hset)]
  cases Progress.ofSavedText text with
  | error err => simp [Except.mapError]
  | ok q => simp [Except.mapError]

/-- What saving wrote is there, and is loaded as it was. -/
theorem loads_saved [ReadsBack S] {store after : S} {key : String} {p : Progress}
    (hset : Storage.set store key p.savedText = (.ok (), after))
    (hs : StateBag.Survives p.state) (hne : p.history ≠ []) :
    Storage.hasSave after key = .ok true ∧ Storage.load after key = .ok p := by
  have hget := ReadsBack.get_set _ _ _ _ hset
  constructor
  · unfold Storage.hasSave
    rw [hget]
    rfl
  · exact (load_saved hset p).2 (Progress.ofSavedText_savedText hs hne)

omit [BrowserHistory H] [Travel H] in
/-- Saving writes the progress, and changes nothing else that a reader sees. -/
theorem save_eq {D : Type} (e : Engine σ S H D) :
    e.save = match Storage.set e.store e.saveKey e.progress.savedText with
      | (.ok _, store) => (.ok (), { e.notify .saving with store }.notify .saved)
      | (.error err, store) =>
        (.error (.persistence (.store err)), { e.notify .saving with store }) := by
  unfold save Storage.save
  have hset : Storage.set (e.notify .saving).store (e.notify .saving).saveKey
      (e.notify .saving).progress.savedText
      = Storage.set e.store e.saveKey e.progress.savedText := rfl
  dsimp only
  rw [hset]
  rcases Storage.set e.store e.saveKey e.progress.savedText with ⟨err | _, store⟩ <;> rfl

omit [BrowserHistory H] [Travel H] in
/-- A save that succeeds has written the progress, and done nothing else. -/
theorem saved_of_save {D : Type} {e saved : Engine σ S H D} (h : e.save = (.ok (), saved)) :
    ∃ store, Storage.set e.store e.saveKey e.progress.savedText = (.ok (), store) ∧
      { e.notify .saving with store }.notify .saved = saved := by
  rw [save_eq] at h
  rcases hset : Storage.set e.store e.saveKey e.progress.savedText with ⟨err | _, store⟩
  · simp [hset] at h
  · rw [hset] at h
    exact ⟨store, rfl, (Prod.mk.inj h).2⟩

/-! ## Section 5: A save resumes where it was made -/

/-- Both engines stand at the same place, with the same variables and the same screen. -/
structure SameReading {S' H' : Type} (e : Engine σ S H Screen) (after : Engine σ S' H' Screen) :
    Prop where
  history : after.place.history = e.place.history
  checkpoint : after.place.checkpoint = e.place.checkpoint
  entryState : after.place.entryState = e.place.entryState
  view : after.view = e.view

omit [Storage S] [BrowserHistory H] [Travel H] in
theorem sameReading_of_progress {S' H' : Type} {e : Engine σ S H Screen}
    {after : Engine σ S' H' Screen} (hp : after.progress = e.progress)
    (hv : after.view = e.view) : e.SameReading after where
  history := congrArg Progress.history hp
  checkpoint := congrArg Progress.checkpoint hp
  entryState := congrArg Progress.state hp
  view := hv

/-- A history in memory to which a new session has restored a saved game. -/
theorem entries_after_push {browser : MemoryHistory} {p : Progress}
    (h : BrowserHistory.record MemoryHistory.fresh .push p = (.ok (), browser)) :
    browser.entries = [none, some p] := by
  obtain rfl : MemoryHistory.fresh.push p = browser := congrArg Prod.snd h
  rfl

/-- **A save resumes where it was made.** Let the last step of any session have been a
    navigation, and let the variables on its entry survive as JSON. The progress of the
    engine is then the entry which that navigation recorded. Saving writes this entry, and
    succeeds if the store takes it. Then restoring it in the same session, and playing in a
    new session of the same story over the same store, both succeed and come to the same
    place, variables and screen; and the new session has recorded that one entry. -/
theorem save_resumes [ReadsBack S] [Accepting H] {first : Engine σ S H Screen}
    (hf : IsFresh first) (hd : first.renderer.evaluator.IsDetermined) (steps : List Step)
    {s : Step} {browser : H} (hs : s.Navigates (first.run steps).browser browser)
    {a : Engine σ S H Screen} (ha : (first.run steps).step s = (.done, a))
    (hsurvives : StateBag.Survives a.place.entryState) :
    (∃ action, BrowserHistory.record browser action a.progress = (.ok (), a.browser)) ∧
      (∀ err store, Storage.set a.store a.saveKey a.progress.savedText = (.error err, store) →
        a.save.1 = .error (.persistence (.store err))) ∧
      ∀ store, Storage.set a.store a.saveKey a.progress.savedText = (.ok (), store) →
        ∃ saved, a.save = (.ok (), saved) ∧ saved.store = store ∧
          (∃ restored, saved.restore = (.ok (), restored) ∧ a.SameReading restored) ∧
          ∀ b : Engine σ S MemoryHistory Screen, IsFresh b → b.story = a.story →
            b.renderer = a.renderer → b.store = store → b.browser = .fresh →
            ∃ played, b.play = (.ok (), played) ∧ a.SameReading played ∧
              played.browser.entries = [none, some a.progress] := by
  have hdet := Renderer.determinedOn hd first.story
  obtain ⟨hl, -, hreplays⟩ := arrives_of_navigates hf hdet hs ha
  refine ⟨hl.records, ?_, ?_⟩
  · intro err store hset
    rw [save_eq, hset]
  · intro store hset
    obtain ⟨hsave, hload⟩ := loads_saved hset hsurvives hreplays.history_ne_nil
    refine ⟨{ a.notify .saving with store }.notify .saved, ?_, rfl, ?_, ?_⟩
    · rw [save_eq, hset]
    · obtain ⟨restored, -, hrestore, hprogress, hview, -⟩ :=
        restore_replayed (e := { a.notify .saving with store }.notify .saved) hl.tidy hreplays
          hload
      exact ⟨restored, hrestore, sameReading_of_progress hprogress hview⟩
    · -- a new session of the same story looks under the same key of the same store
      intro b hfresh hbstory hbrenderer hbstore hbbrowser
      have hkey : b.saveKey = a.saveKey := by
        unfold saveKey
        rw [hbstory]
      rw [← hbstore, ← hkey] at hsave hload
      rw [← hbstory, ← hbrenderer] at hreplays
      obtain ⟨played, passage, hplay, hprogress, hview, hrecord⟩ :=
        play_replayed (tidy_of_isFresh hfresh) hreplays hsave hload
      refine ⟨played, hplay, sameReading_of_progress hprogress hview, ?_⟩
      -- a new session stands at a checkpoint, so the entry is a new one
      have haction : b.actionTo passage .decide = .push := by
        rw [actionTo_decide, hfresh.place]
        rfl
      rw [haction, hbbrowser] at hrecord
      exact entries_after_push hrecord

end Engine

/-! ## Section 6: A save in the cellar -/

theorem lampDoor_survives : StateBag.Survives lampDoor.state := by
  have hexact : Json.IsExact (.obj lampDoor.state) := by
    simp [lampDoor, Json.IsExact, Json.FieldsExact, Json.IsWord, Word.half]
  exact ⟨_, (Json.writes_write _ hexact).parse, rfl⟩

/-- In the cellar, with the lamp lit: the saved game says that the lamp is dark, and a new
    session finds it lit. -/
theorem save_resumes_cellar :
    ∃ saved played, (lampFirst.run lampSteps).save = (.ok (), saved) ∧
      { lampFirst with store := saved.store }.play = (.ok (), played) ∧
      played.place.entryState = lampDoor.state ∧
      played.state = [("gold", .int 3), ("lamp", .bool true)] ∧
      played.browser.entries = [none, some (lampFirst.run lampSteps).progress] := by
  have hrun : (((lampFirst.run (lampSteps.take 2)).step (.goTo (.name "Cellar") true)).1,
        (lampFirst.run lampSteps).place.entryState, (lampFirst.run lampSteps).state)
      = (.done, lampDoor.state, [("gold", .int 3), ("lamp", .bool true)]) := by cbv
  obtain ⟨hdone, hrest⟩ := Prod.mk.inj hrun
  obtain ⟨hentry, hstate⟩ := Prod.mk.inj hrest
  have hstep : (lampFirst.run (lampSteps.take 2)).step (.goTo (.name "Cellar") true)
      = (.done, lampFirst.run lampSteps) := Prod.ext hdone rfl
  have hsurvives := lampDoor_survives
  rw [← hentry] at hsurvives
  have hfresh : IsFresh lampFirst := ⟨rfl, rfl, rfl⟩
  obtain ⟨-, -, hsaves⟩ :=
    Engine.save_resumes hfresh Evaluator.switches_isDetermined (lampSteps.take 2)
      (.goTo _) hstep hsurvives
  obtain ⟨saved, hsave, hstore, -, hplays⟩ := hsaves _ rfl
  obtain ⟨hstory, hrenderer, -⟩ := Engine.run_keeps (Engine.tidy_of_isFresh hfresh)
    (Renderer.determinedOn Evaluator.switches_isDetermined _) lampSteps
  obtain ⟨played, hplay, hsame, hentries⟩ :=
    hplays { lampFirst with store := saved.store } ⟨rfl, rfl, rfl⟩ hstory.symm hrenderer.symm
      hstore rfl
  refine ⟨saved, played, hsave, hplay, ?_, ?_, hentries⟩
  · rw [hsame.entryState, hentry]
  · rw [← hstate]
    exact congrArg View.state hsame.view

end Hyperfiction
