import Hyperfiction.Proofs.Restoring
import Hyperfiction.Proofs.SideBySide

/-! # Bad saves

    A text under the key of a story may be no saved game, or a saved game that the story
    cannot show any more. `CannotRestore` lists the ways. Play tries to restore it, which
    may get as far as rendering all three parts of a frame, and then begins the story; and
    a session that has begun so is the one that begins where nothing was saved.
-/

namespace Hyperfiction

variable {σ S H D : Type}

namespace Engine

/-! ## Section 1: What cannot be restored -/

/-- The ways in which a text is a bad save. -/
inductive CannotRestore (e : Engine σ S H D) (text : String) : Prop where
  /-- The text is no saved game. -/
  | malformed : Progress.ofText? Progress.savedField text = none → CannotRestore e text
  /-- Nothing was visited in it. -/
  | unvisited {p : Progress} : Progress.ofText? Progress.savedField text = some p →
      p.history = [] → CannotRestore e text
  /-- The story has no passage like the last one. -/
  | unknown {p : Progress} {last : PassageId} :
      Progress.ofText? Progress.savedField text = some p → p.history.getLast? = some last →
      e.story.passage? last = none → CannotRestore e text
  /-- The passage, the header or the footer fails from its variables. -/
  | unrendered {p : Progress} {passage : Passage} {err : TemplateError} :
      Progress.ofText? Progress.savedField text = some p →
      p.history.getLast?.bind e.story.passage? = some passage →
      FrameFails e.renderer (e.sceneOfSaved p passage) ⟨p.state, e.memory⟩ err →
      CannotRestore e text

section

variable [Storage S] [BrowserHistory H]

/-- What is no bad save can be restored, where the history refuses nothing. -/
theorem canRestore_or_cannotRestore [Accepting H] {e : Engine σ S H D} {text : String}
    (hkept : Storage.get e.store e.saveKey = .ok (some text)) :
    (∃ p passage frame w browser, e.CanRestore p passage frame w browser) ∨
      e.CannotRestore text := by
  cases hread : Progress.ofText? Progress.savedField text with
  | none => exact .inr (.malformed hread)
  | some p =>
    cases hlast : p.history.getLast? with
    | none => exact .inr (.unvisited hread (List.getLast?_eq_none_iff.1 hlast))
    | some last =>
      have hvisited : p.history ≠ [] := by
        intro hempty
        rw [hempty] at hlast
        cases hlast
      cases hfound : e.story.passage? last with
      | none => exact .inr (.unknown hread hlast hfound)
      | some passage =>
        have hpassage : p.history.getLast?.bind e.story.passage? = some passage :=
          Option.bind_eq_some_iff.2 ⟨last, hlast, hfound⟩
        rcases hframe : (frameOf e.renderer (e.sceneOfSaved p passage)).outcome
          ⟨p.state, e.memory⟩ with ⟨err | frame, w⟩
        · exact .inr (.unrendered hread hpassage (frameOf_fails.1 ⟨w, hframe⟩))
        · exact .inl ⟨p, passage, frame, w, _, ⟨text, hkept, hread⟩, hvisited, hpassage,
            frameOf_eq_ok.1 hframe, Prod.ext (Accepting.accepts _ _ _) rfl⟩

/-- A bad save cannot be restored. -/
theorem CannotRestore.not_canRestore {e : Engine σ S H D} {text : String}
    (h : e.CannotRestore text) (hkept : Storage.get e.store e.saveKey = .ok (some text))
    {p : Progress} {passage : Passage} {frame : Frame} {w : World σ} {browser : H} :
    ¬ e.CanRestore p passage frame w browser := by
  intro hcan
  obtain ⟨text', hkept', hread'⟩ := hcan.kept
  obtain rfl : text = text' := Option.some.inj (Except.ok.inj (hkept.symm.trans hkept'))
  cases h with
  | malformed hread =>
    rw [hread] at hread'
    cases hread'
  | unvisited hread hempty =>
    obtain rfl := Option.some.inj (hread.symm.trans hread')
    exact hcan.visited hempty
  | unknown hread hlast hmissing =>
    obtain rfl := Option.some.inj (hread.symm.trans hread')
    have hfound := hcan.found
    rw [hlast, Option.bind_some, hmissing] at hfound
    cases hfound
  | unrendered hread hpassage hfails =>
    obtain rfl := Option.some.inj (hread.symm.trans hread')
    obtain rfl := Option.some.inj (hpassage.symm.trans hcan.found)
    -- a frame that fails is not rendered as well
    obtain ⟨w', hframe⟩ := frameOf_fails.2 hfails
    have hrendered := hframe.symm.trans (frameOf_eq_ok.2 hcan.rendered)
    cases (Prod.mk.inj hrendered).1

variable [Display D]

/-- Restoring fails exactly for bad saves. -/
theorem restore_fails_iff [Accepting H] {e : Engine σ S H D} {text : String}
    (hkept : Storage.get e.store e.saveKey = .ok (some text)) :
    (∃ err, e.restore.1 = .error err) ↔ e.CannotRestore text := by
  have hsucceeds := (restore_all_or_nothing e).1
  constructor
  · rintro ⟨err, hfails⟩
    rcases canRestore_or_cannotRestore hkept with hcan | hbad
    · have hdone := hsucceeds.2 hcan
      rw [hfails] at hdone
      cases hdone
    · exact hbad
  · intro hbad
    rcases hr : e.restore with ⟨err | _, after⟩
    · exact ⟨err, rfl⟩
    · obtain ⟨p, passage, frame, w, browser, hcan⟩ := hsucceeds.1 (congrArg Prod.fst hr)
      exact absurd hcan (hbad.not_canRestore hkept)

/-! ## Section 2: The start -/

/-- Play after a restore that fails begins as if only the evaluator's memory and the trace
    were different. -/
theorem play_of_restore_fails [KeepsOnRefusal H] {e : Engine σ S H D} {err : EngineError}
    (h : e.configured.restore.1 = .error err) :
    ∃ m trace, e.play = { e.configured with memory := m, trace }.begin := by
  rcases e.play_cases with hplay | ⟨after, hrestore, -⟩ | ⟨err', after, hrestore, hplay⟩
  · exact ⟨e.memory, e.trace, hplay⟩
  · rw [hrestore] at h
    cases h
  · obtain ⟨reason, m, told, -, hafter⟩ := restore_error_eq hrestore
    rw [hafter] at hplay
    exact ⟨m, _, hplay⟩

omit [Storage S] in
/-- Beginning shows the same whatever the evaluator remembers and whatever is in the store,
    and does nothing to the store. -/
theorem begin_alike {e : Engine σ S H D} (hd : e.renderer.evaluator.IsDetermined) (m : σ)
    (store : S) (trace : List Event) :
    { e with memory := m, trace }.begin.1 = { e with store }.begin.1 ∧
      Alike .any (fun s s' => s = e.store ∧ s' = store)
        { e with memory := m, trace }.begin.2 { e with store }.begin.2 := by
  have hagrees : e.renderer.AgreesOn .any e.story :=
    Renderer.agreesOn_any_iff.2 (Renderer.determinedOn hd _)
  have halike : Alike .any (fun s s' => s = e.store ∧ s' = store)
      { e with memory := m, trace } { e with store } :=
    ⟨rfl, rfl, rfl, rfl, rfl, rfl, trivial, rfl, rfl⟩
  rcases parallel_begin.follows { e with memory := m, trace } { e with store } hagrees halike with
    hpast | hsame
  · cases hpast
  · exact hsame

/-- **A bad save changes nothing about the start.** Restoring fails exactly for bad saves.
    With a bad save under the story's key play comes to the same result as with nothing
    under it, and leaves the same place, variables, history and display; and the store is
    left as it was. -/
theorem bad_save_starts_anew [Accepting H] {e : Engine σ S H D} {text : String} {empty : S}
    (hd : e.renderer.evaluator.IsDetermined)
    (hkept : Storage.get e.store e.saveKey = .ok (some text))
    (hempty : Storage.get empty e.saveKey = .ok none) :
    ((∃ err, e.restore.1 = .error err) ↔ e.CannotRestore text) ∧
      (e.CannotRestore text →
        e.play.1 = { e with store := empty }.play.1 ∧
        e.play.2.place = { e with store := empty }.play.2.place ∧
        e.play.2.state = { e with store := empty }.play.2.state ∧
        e.play.2.browser = { e with store := empty }.play.2.browser ∧
        e.play.2.display = { e with store := empty }.play.2.display ∧
        e.play.2.store = e.store) := by
  refine ⟨restore_fails_iff hkept, ?_⟩
  intro hbad
  -- the display is no part of a save that is bad
  have hbad' : e.configured.CannotRestore text := by
    cases hbad with
    | malformed hread => exact .malformed hread
    | unvisited hread hnone => exact .unvisited hread hnone
    | unknown hread hlast hmissing => exact .unknown hread hlast hmissing
    | unrendered hread hpassage hfails => exact .unrendered hread hpassage hfails
  obtain ⟨err, hfails⟩ := (restore_fails_iff (e := e.configured) hkept).2 hbad'
  obtain ⟨m, trace, hplay⟩ := play_of_restore_fails hfails
  have hunsaved : Storage.hasSave empty e.saveKey = .ok false := by
    unfold Storage.hasSave
    rw [hempty]
    rfl
  have hplay' : { e with store := empty }.play = { e.configured with store := empty }.begin :=
    play_unsaved hunsaved
  have hsame := begin_alike (e := e.configured) hd m empty trace
  rw [hplay, hplay']
  obtain ⟨hresult, halike⟩ := hsame
  exact ⟨hresult, halike.place.symm, halike.state.symm, halike.browser.symm, halike.display.symm,
    halike.store.1⟩

end

end Engine

/-- The cellar cannot be shown from a saved game without gold in it, and the story begins as
    it does for a reader without a saved game. -/
theorem bad_save_starts_anew_cellar : ∃ text,
    Storage.get (cellarSaver []).store (cellarSaver []).saveKey = .ok (some text) ∧
      (cellarSaver []).CannotRestore text ∧
      (cellarSaver []).play.1 = lampReader.play.1 ∧
      (cellarSaver []).play.2.place = lampReader.play.2.place ∧
      (cellarSaver []).play.2.display = lampReader.play.2.display ∧
      (cellarSaver []).play.2.store = (cellarSaver []).store := by
  obtain ⟨text, hkept, -⟩ := Storage.load_eq_ok_iff.1 (load_cellarSaver survives_nil)
  have hempty : Storage.get lampReader.store (cellarSaver []).saveKey = .ok none := rfl
  obtain ⟨hiff, hsame⟩ :=
    Engine.bad_save_starts_anew Evaluator.switches_isDetermined hkept hempty
  have hbad := hiff.1 ⟨_, restore_poor_cellarSaver⟩
  obtain ⟨hresult, hplace, -, -, hdisplay, hstore⟩ := hsame hbad
  exact ⟨text, hkept, hbad, hresult, hplace, hdisplay, hstore⟩

end Hyperfiction
