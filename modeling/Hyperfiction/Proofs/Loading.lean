import Hyperfiction.Proofs.Resume
import Hyperfiction.Proofs.Storage.Folder

/-! # Loading what was saved

    A save that succeeds has written the progress of the reader, whatever it is. Loading
    is choosier: it wants a passage visited, and variables that nest less than it takes
    and come back from their text. So a save is loaded as it was exactly under these
    conditions, which nobody checks when it is made.
-/

namespace Hyperfiction

variable {σ S H D : Type}

/-! ## Section 1: Folders read back -/

instance : ReadsBack FolderStore where
  get_set := by
    intro store after key text h
    cases hkey : FolderStore.isKey key with
    | false =>
      rw [FolderStore.set_of_not_isKey hkey] at h
      cases (Prod.mk.inj h).1
    | true =>
      rw [FolderStore.set_of_isKey hkey] at h
      cases hwrite : store.tree.write (store.pathOf key) text with
      | error fault =>
        rw [hwrite] at h
        cases (Prod.mk.inj h).1
      | ok tree =>
        rw [hwrite] at h
        obtain ⟨-, rfl⟩ := Prod.mk.inj h
        -- a file that was written stands in a folder that is there
        obtain ⟨hfolder, hname, rfl⟩ := FileTree.write_concat_eq_ok hwrite
        have hread := FileTree.read_put_concat hfolder hname text
        rw [FolderStore.get_of_isKey hkey]
        unfold FolderStore.pathOf at hread ⊢
        dsimp only
        rw [hread]

/-! ## Section 2: What a saved game is loaded as -/

namespace Engine

variable [Storage S] [ReadsBack S]

/-- What was saved is loaded as its text is read. -/
theorem load_eq_of_save {e saved : Engine σ S H D} (h : e.save = (.ok (), saved)) :
    Storage.load saved.store saved.saveKey
      = (Progress.ofSavedText e.progress.savedText).mapError .record := by
  obtain ⟨store, hset, rfl⟩ := saved_of_save h
  exact Storage.load_of_get (ReadsBack.get_set _ _ _ _ hset)

/-- **Which saves can be loaded.** A save that succeeds is loaded as exactly the progress
    that was written if and only if a passage has been visited, and the variables on entry
    nest less than the limit of the reader and are faithful. Variables that nest deeper make
    the saved game malformed, and without a visit its history is refused as empty. -/
theorem load_after_save_iff {e saved : Engine σ S H D} (h : e.save = (.ok (), saved)) :
    (Storage.load saved.store saved.saveKey = .ok e.progress ↔
        e.place.history ≠ [] ∧ (Value.obj e.place.entryState).depth < Json.maxDepth ∧
          Json.Faithful (.obj e.place.entryState)) ∧
      (Json.maxDepth ≤ (Value.obj e.place.entryState).depth →
        Storage.load saved.store saved.saveKey = .error (.record .malformed)) ∧
      (e.place.history = [] → (Value.obj e.place.entryState).depth < Json.maxDepth →
        Json.Faithful (.obj e.place.entryState) →
        Storage.load saved.store saved.saveKey = .error (.record .emptyHistory)) := by
  rw [load_eq_of_save h]
  refine ⟨⟨fun hload => ?_, ?_⟩, fun hdeep => ?_, fun hnil hdepth hfaithful => ?_⟩
  · have hread : Progress.ofSavedText e.progress.savedText = .ok e.progress := by
      cases hread : Progress.ofSavedText e.progress.savedText with
      | error err => rw [hread] at hload; cases hload
      | ok p =>
        rw [hread] at hload
        exact congrArg Except.ok (Except.ok.inj hload)
    -- the text came back as it was written, so its variables did
    obtain ⟨hsurvives, hne⟩ := Progress.survives_of_ofSavedText hread
    exact ⟨hne, survives_iff.1 hsurvives⟩
  · rintro ⟨hne, hsurvives⟩
    have hread : Progress.ofSavedText e.progress.savedText = .ok e.progress :=
      Progress.ofSavedText_savedText (survives_iff.2 hsurvives) hne
    rw [hread]
    rfl
  · have hread : Progress.ofSavedText e.progress.savedText = .error .malformed :=
      Progress.ofSavedText_of_deep hdeep
    rw [hread]
    rfl
  · have hread : Progress.ofSavedText e.progress.savedText = .error .emptyHistory :=
      Progress.ofSavedText_of_unvisited (survives_iff.2 ⟨hdepth, hfaithful⟩) hnil
    rw [hread]
    rfl

end Engine

/-! ## Section 3: Saves that cannot be loaded -/

/-- Lists within each other, `n` of them. -/
def Value.nested : Nat → Value
  | 0 => .null
  | n + 1 => .arr [nested n]

theorem Value.depth_nested (n : Nat) : (Value.nested n).depth = n := by
  induction n with
  | zero => rfl
  | succ n ih =>
    unfold nested depth itemsDepth itemsDepth
    rw [ih, Nat.max_zero]

theorem Value.faithful_nested (n : Nat) : Json.Faithful (Value.nested n) := by
  induction n with
  | zero => trivial
  | succ n ih => exact ⟨ih, trivial⟩

/-- At the door, with something in the chest. -/
def chestReader (content : Value) : Engine Unit MemoryStore MemoryHistory Screen :=
  lampFirst.run [.write [("chest", content), ("lamp", .bool false)], .play]

theorem chestReader_place (content : Value) :
    (chestReader content).place.history = [1] ∧
      (chestReader content).place.entryState = [("chest", content), ("lamp", .bool false)] := by
  have hplace : ((chestReader content).place.history, (chestReader content).place.entryState)
      = ([1], [("chest", content), ("lamp", .bool false)]) := by cbv
  exact Prod.mk.inj hplace

/-- The variables at the door nest one deeper than what is in the chest. -/
theorem chestReader_depth (n : Nat) :
    (Value.obj (chestReader (.nested n)).place.entryState).depth = n + 1 := by
  have hrest : Value.fieldsDepth [("lamp", .bool false)] = 0 := rfl
  rw [(chestReader_place _).2]
  unfold Value.depth Value.fieldsDepth
  rw [Value.depth_nested, hrest, Nat.max_zero]

/-- Memory takes every save. -/
theorem save_in_memory (e : Engine σ MemoryStore H D) : ∃ saved, e.save = (.ok (), saved) := by
  rw [Engine.save_eq]
  exact ⟨_, rfl⟩

/-- A save before anything is shown, and one with 126 lists in each other in the chest:
    both succeed, and neither can be loaded. -/
theorem saves_not_loaded :
    (∃ saved, lampFirst.save = (.ok (), saved) ∧
      Storage.load saved.store saved.saveKey = .error (.record .emptyHistory)) ∧
    ∃ saved, (chestReader (.nested 126)).save = (.ok (), saved) ∧
      Storage.load saved.store saved.saveKey = .error (.record .malformed) := by
  obtain ⟨early, hearly⟩ := save_in_memory lampFirst
  obtain ⟨deep, hdeep⟩ := save_in_memory (chestReader (.nested 126))
  refine ⟨⟨early, hearly, ?_⟩, deep, hdeep, ?_⟩
  · have hread : Progress.ofSavedText lampFirst.progress.savedText = .error .emptyHistory :=
      Progress.ofSavedText_of_unvisited survives_nil rfl
    rw [Engine.load_eq_of_save hearly, hread]
    rfl
  · have hread : Progress.ofSavedText (chestReader (.nested 126)).progress.savedText
        = .error .malformed := by
      refine Progress.ofSavedText_of_deep ?_
      show Json.maxDepth ≤ (Value.obj (chestReader (.nested 126)).place.entryState).depth
      rw [chestReader_depth]
      decide
    rw [Engine.load_eq_of_save hdeep, hread]
    rfl

/-- With one list less in the chest the save is loaded as it was. -/
theorem load_after_save_iff_chest :
    ∃ saved, (chestReader (.nested 125)).save = (.ok (), saved) ∧
      Storage.load saved.store saved.saveKey = .ok (chestReader (.nested 125)).progress := by
  obtain ⟨saved, hsave⟩ := save_in_memory (chestReader (.nested 125))
  refine ⟨saved, hsave, (Engine.load_after_save_iff hsave).1.2 ⟨?_, ?_, ?_⟩⟩
  · rw [(chestReader_place _).1]
    exact List.cons_ne_nil _ _
  · rw [chestReader_depth]
    decide
  · rw [(chestReader_place _).2]
    have hchest : ("chest" : String) < "lamp" := by decide
    refine ⟨?_, Value.faithful_nested 125, trivial, trivial⟩
    exact List.Pairwise.cons (by simpa using hchest) (List.pairwise_singleton _ _)

end Hyperfiction
