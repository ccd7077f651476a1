import Hyperfiction.Proofs.SavedGame
import Hyperfiction.Proofs.Storage.Key

/-! # Saved games in a folder

    A file that is written in a folder is read back, and the folder stays what it
    was. So a saved game is kept in a folder whenever its key is the name of a file,
    which it is for every story whose name leaves something in it. A name that leaves
    nothing has a key that the folder refuses, to save under and to load from.
-/

namespace Hyperfiction

/-! ## Section 1: Files of a folder -/

namespace FileTree

theorem lookup_filter_ne {path other : Path} (h : other ≠ path)
    (entries : List (Path × FileEntry)) :
    (entries.filter fun p => p.1 ≠ path).lookup other = entries.lookup other := by
  induction entries with
  | nil => rfl
  | cons p entries ih =>
    obtain ⟨q, entry⟩ := p
    rw [List.filter_cons, List.lookup_cons]
    by_cases hq : q = path
    · -- the pair that the filter drops is not the one looked for
      subst hq
      have hne : (other == q) = false := by simpa using h
      simp only [ne_eq, not_true_eq_false, decide_false, Bool.false_eq_true, if_false, hne]
      exact ih
    · simp only [ne_eq, hq, not_false_eq_true, decide_true, if_true, List.lookup_cons]
      cases other == q
      · exact ih
      · rfl

/-- Setting a path changes no other one. -/
theorem entry_put_of_ne {path other : Path} (h : other ≠ path) (entry : FileEntry)
    (tree : FileTree) : entry? other (tree.put path entry) = entry? other tree := by
  unfold entry? put
  have hne : (other == path) = false := by simpa using h
  by_cases hempty : other.isEmpty
  · rw [if_pos hempty, if_pos hempty]
  · rw [if_neg hempty, if_neg hempty, List.lookup_cons, hne]
    exact lookup_filter_ne h tree.entries

theorem entry_put_self {path : Path} (h : path ≠ []) (entry : FileEntry) (tree : FileTree) :
    entry? path (tree.put path entry) = some entry := by
  unfold entry? put
  rw [if_neg (by simpa using h), List.lookup_cons_self]

/-- A way is the same in two trees that have the same entries on it. -/
theorem followFrom_congr {tree tree' : FileTree} {passed rest : Path}
    (h : ∀ path, path.length ≤ passed.length + rest.length →
      tree'.entry? path = tree.entry? path) :
    followFrom tree' passed rest = followFrom tree passed rest := by
  have hpassed : tree'.entry? passed = tree.entry? passed := h passed (Nat.le_add_right _ _)
  -- what has been passed and what is left keep their length together
  induction rest generalizing passed with
  | nil =>
    unfold followFrom
    rw [hpassed]
  | cons name rest ih =>
    have hnext : ∀ path : Path, path.length ≤ (passed ++ [name]).length + rest.length →
        tree'.entry? path = tree.entry? path := by
      intro path hpath
      refine h path ?_
      simp only [List.length_append, List.length_cons, List.length_nil] at hpath ⊢
      omega
    unfold followFrom
    rw [hpassed, ih hnext (hnext _ (Nat.le_add_right _ _))]

/-- Setting a path changes no way that is shorter. -/
theorem followFrom_put {path : Path} (entry : FileEntry) (tree : FileTree) {passed rest : Path}
    (h : passed.length + rest.length < path.length) :
    followFrom (tree.put path entry) passed rest = followFrom tree passed rest := by
  refine followFrom_congr fun other hother => entry_put_of_ne ?_ entry tree
  rintro rfl
  omega

theorem followFrom_folder {tree : FileTree} {passed : Path} {name : String}
    (hpassed : tree.entry? passed = some .folder) (hname : isName name = true) (rest : Path) :
    followFrom tree passed (name :: rest) = followFrom tree (passed ++ [name]) rest := by
  rw [followFrom.eq_def tree passed (name :: rest)]
  dsimp only
  rw [hpassed]
  dsimp only
  rw [if_pos hname]

/-- A way that leads somewhere goes through folders. -/
theorem folder_of_followFrom {tree : FileTree} {passed rest : Path} {name : String}
    {entry : FileEntry} (h : followFrom tree passed (name :: rest) = .ok entry) :
    tree.entry? passed = some .folder ∧ isName name = true ∧
      followFrom tree (passed ++ [name]) rest = .ok entry := by
  rw [followFrom.eq_def] at h
  dsimp only at h
  split at h
  · next hpassed =>
    split at h
    · next hname => exact ⟨hpassed, hname, h⟩
    · cases h
  · cases h
  · cases h

/-- What a way of no names leads to is where it starts. -/
theorem followFrom_nil_eq_ok {tree : FileTree} {passed : Path} {entry : FileEntry} :
    followFrom tree passed [] = .ok entry ↔ tree.entry? passed = some entry := by
  rw [followFrom.eq_def]
  dsimp only
  cases tree.entry? passed <;> simp

/-- The way into a folder and on from it goes on from the folder. -/
theorem followFrom_append {tree : FileTree} {passed rest : Path}
    (hfolder : followFrom tree passed rest = .ok .folder) (more : Path) :
    followFrom tree passed (rest ++ more) = followFrom tree (passed ++ rest) more := by
  induction rest generalizing passed with
  | nil => rw [List.nil_append, List.append_nil]
  | cons next rest ih =>
    obtain ⟨hpassed, hnext, hrest⟩ := folder_of_followFrom hfolder
    rw [List.cons_append, followFrom_folder hpassed hnext, ih hrest,
      List.append_assoc passed [next] rest]
    rfl

/-- What the way into a folder leads to is a folder in the tree. -/
theorem entry_of_followFrom {tree : FileTree} {passed rest : Path} {entry : FileEntry}
    (h : followFrom tree passed rest = .ok entry) :
    tree.entry? (passed ++ rest) = some entry := by
  induction rest generalizing passed with
  | nil =>
    rw [List.append_nil]
    exact followFrom_nil_eq_ok.1 h
  | cons next rest ih =>
    obtain ⟨-, -, hrest⟩ := folder_of_followFrom h
    rw [← ih hrest, List.append_assoc]
    rfl

/-- The way into a folder and on to a name in it ends with what is there. -/
theorem followFrom_concat {tree : FileTree} {passed rest : Path} {name : String}
    (hfolder : followFrom tree passed rest = .ok .folder) (hname : isName name = true) :
    followFrom tree passed (rest ++ [name]) = followFrom tree (passed ++ rest ++ [name]) [] := by
  rw [followFrom_append hfolder, followFrom_folder (entry_of_followFrom hfolder) hname]

variable {tree : FileTree} {folder : Path} {name : String}

/-- In a folder a file can be written under every name that is not taken by a folder. -/
theorem write_concat (hfolder : tree.follow folder = .ok .folder) (hname : isName name = true)
    (hfree : tree.entry? (folder ++ [name]) ≠ some .folder) (text : String) :
    tree.write (folder ++ [name]) text = .ok (tree.put (folder ++ [name]) (.file text)) := by
  unfold write
  rw [List.dropLast_concat, hfolder]
  dsimp only
  rw [List.getLast?_concat, if_pos ⟨hname, hfree⟩]

/-- A file that was written stands in a folder, under a name that files may have. -/
theorem write_concat_eq_ok {after : FileTree} {text : String}
    (h : tree.write (folder ++ [name]) text = .ok after) :
    tree.follow folder = .ok .folder ∧ isName name = true ∧
      after = tree.put (folder ++ [name]) (.file text) := by
  unfold write at h
  rw [List.dropLast_concat] at h
  split at h
  · next hfolder =>
    rw [List.getLast?_concat] at h
    split at h
    · next hgiven => exact ⟨hfolder, hgiven.1, (Except.ok.inj h).symm⟩
    · cases h
  · cases h
  · cases h

/-- A file that was written in a folder is read as it was written. -/
theorem read_put_concat (hfolder : tree.follow folder = .ok .folder)
    (hname : isName name = true) (text : String) :
    (tree.put (folder ++ [name]) (.file text)).read (folder ++ [name]) = .ok text := by
  have hthere : (tree.put (folder ++ [name]) (.file text)).follow folder = .ok .folder := by
    unfold follow
    rw [followFrom_put _ _ (by simp)]
    exact hfolder
  have hend : (tree.put (folder ++ [name]) (.file text)).follow (folder ++ [name])
      = .ok (.file text) := by
    unfold follow at hthere ⊢
    rw [followFrom_concat hthere hname, List.nil_append, followFrom_nil_eq_ok]
    exact entry_put_self (by simp) _ _
  unfold read
  rw [hend]

/-- Making folders leaves what is there. -/
theorem entry_makeFoldersFrom {passed rest other : Path} {after : FileTree} {entry : FileEntry}
    (hmade : makeFoldersFrom passed rest tree = .ok after)
    (hentry : tree.entry? other = some entry) : after.entry? other = some entry := by
  induction rest generalizing passed tree with
  | nil =>
    obtain rfl : tree = after := Except.ok.inj hmade
    exact hentry
  | cons name rest ih =>
    rw [makeFoldersFrom.eq_def] at hmade
    dsimp only at hmade
    split at hmade
    · cases hmade
    · split at hmade
      · exact ih hmade hentry
      · cases hmade
      · next hmissing =>
        -- a folder is only made where nothing is, so not in the place of `other`
        refine ih hmade ?_
        rw [entry_put_of_ne ?_]
        · exact hentry
        · rintro rfl
          rw [hmissing] at hentry
          cases hentry

/-- Folders that were made can be followed. -/
theorem followFrom_makeFoldersFrom {passed rest : Path} {after : FileTree}
    (hmade : makeFoldersFrom passed rest tree = .ok after)
    (hpassed : tree.entry? passed = some .folder) :
    followFrom after passed rest = .ok .folder := by
  induction rest generalizing passed tree with
  | nil =>
    obtain rfl : tree = after := Except.ok.inj hmade
    exact followFrom_nil_eq_ok.2 hpassed
  | cons name rest ih =>
    have hstill := entry_makeFoldersFrom hmade hpassed
    rw [makeFoldersFrom.eq_def] at hmade
    dsimp only at hmade
    split at hmade
    · cases hmade
    · next hname =>
      rw [followFrom_folder hstill (by simpa using hname)]
      split at hmade
      · next hfolder => exact ih hmade hfolder
      · cases hmade
      · exact ih hmade (entry_put_self (by simp) _ _)

end FileTree

/-! ## Section 2: Saving in a folder -/

namespace FolderStore

/-- The folder of a store that was opened is there. -/
theorem follow_of_open? {folder : Path} {tree : FileTree} {s : FolderStore}
    (h : open? folder tree = .ok s) : s.tree.follow s.folder = .ok .folder := by
  unfold open? at h
  cases hmade : tree.makeFolders folder with
  | error fault => rw [hmade] at h; cases h
  | ok after =>
    rw [hmade] at h
    obtain rfl : ({ folder, tree := after } : FolderStore) = s := Except.ok.inj h
    exact FileTree.followFrom_makeFoldersFrom hmade rfl

variable {s : FolderStore} {key : String}

theorem set_of_isKey (hkey : isKey key = true) (text : String) :
    Storage.set s key text =
      match s.tree.write (s.pathOf key) text with
      | .ok tree => (.ok (), { s with tree })
      | .error _ => (.error .io, s) :=
  if_pos hkey

theorem get_of_isKey (hkey : isKey key = true) :
    Storage.get s key =
      match s.tree.read (s.pathOf key) with
      | .ok text => .ok (some text)
      | .error .missing => .ok none
      | .error .refused => .error .io :=
  if_pos hkey

/-- A key that names a file is one to save under. -/
theorem save_of_isKey (hfolder : s.tree.follow s.folder = .ok .folder)
    (hkey : isKey key = true) (hname : FileTree.isName key = true)
    (hfree : s.tree.entry? (s.pathOf key) ≠ some .folder) (p : Progress) :
    Storage.save s key p
      = (.ok (), { s with tree := s.tree.put (s.pathOf key) (.file p.savedText) }) := by
  have hwrite : s.tree.write (s.pathOf key) p.savedText
      = .ok (s.tree.put (s.pathOf key) (.file p.savedText)) :=
    FileTree.write_concat hfolder hname hfree p.savedText
  unfold Storage.save
  rw [set_of_isKey hkey, hwrite]

/-- What was saved in a folder is loaded from it. -/
theorem load_saved (hfolder : s.tree.follow s.folder = .ok .folder)
    (hkey : isKey key = true) (hname : FileTree.isName key = true) (p : Progress) :
    Storage.load { s with tree := s.tree.put (s.pathOf key) (.file p.savedText) } key
      = (Progress.ofSavedText p.savedText).mapError .record := by
  have hread : (s.tree.put (s.pathOf key) (.file p.savedText)).read (s.pathOf key)
      = .ok p.savedText :=
    FileTree.read_put_concat hfolder hname p.savedText
  refine Storage.load_of_get ?_
  rw [get_of_isKey hkey]
  unfold pathOf at hread ⊢
  dsimp only
  rw [hread]

/-- A key that names no file is refused. -/
theorem set_of_not_isKey (hkey : isKey key = false) (text : String) :
    Storage.set s key text = (.error (.invalidKey key), s) :=
  if_neg (Bool.eq_false_iff.1 hkey)

theorem save_of_not_isKey (hkey : isKey key = false) (p : Progress) :
    Storage.save s key p = (.error (.store (.invalidKey key)), s) := by
  unfold Storage.save
  rw [set_of_not_isKey hkey]

theorem load_of_not_isKey (hkey : isKey key = false) :
    Storage.load s key = .error (.store (.invalidKey key)) := by
  have hget : Storage.get s key = .error (.invalidKey key) :=
    if_neg (Bool.eq_false_iff.1 hkey)
  unfold Storage.load
  rw [hget]

/-- **Which stories a folder keeps.** In a folder that is there, and under a key that is not
    too long and not taken by another folder, the progress of a story is saved exactly if
    some character of the story's name leaves a mark. What is loaded then is what was saved,
    and no fault of the store. Otherwise the key is the bare ending, which is refused to save
    under and to load from, whatever the progress. -/
theorem keeps_marked_names {s : FolderStore} {name : String}
    (hfolder : s.tree.follow s.folder = .ok .folder)
    (hfits : (SaveKey.ofName name).utf8ByteSize ≤ FileTree.maxNameBytes)
    (hfree : s.tree.entry? (s.pathOf (SaveKey.ofName name)) ≠ some .folder) (p : Progress) :
    (isKey (SaveKey.ofName name) = true ↔
        ∃ c ∈ name.toList, SaveKey.leavesMark c = true) ∧
      ((∃ c ∈ name.toList, SaveKey.leavesMark c = true) →
        ∃ after, Storage.save s (SaveKey.ofName name) p = (.ok (), after) ∧
          (∀ e, Storage.load after (SaveKey.ofName name) ≠ .error (.store e)) ∧
          (StateBag.Survives p.state → p.history ≠ [] →
            Storage.load after (SaveKey.ofName name) = .ok p)) ∧
      ((∀ c ∈ name.toList, SaveKey.leavesMark c = false) →
        Storage.save s (SaveKey.ofName name) p = (.error (.store (.invalidKey ".save")), s) ∧
          Storage.load s (SaveKey.ofName name) = .error (.store (.invalidKey ".save"))) := by
  have hmarked : isKey (SaveKey.ofName name) = true ↔
      ∃ c ∈ name.toList, SaveKey.leavesMark c = true := by
    rw [SaveKey.isKey_ofName, List.any_eq_true]
  refine ⟨hmarked, fun hmark => ?_, fun hbare => ?_⟩
  · have hkey := hmarked.2 hmark
    have hname := SaveKey.isName_ofName hfits
    refine ⟨_, save_of_isKey hfolder hkey hname hfree p, fun e => ?_, fun hsurvives hne => ?_⟩
    · rw [load_saved hfolder hkey hname p]
      cases Progress.ofSavedText p.savedText with
      | error err => simp [Except.mapError]
      | ok q => simp [Except.mapError]
    · rw [load_saved hfolder hkey hname p, Progress.ofSavedText_savedText hsurvives hne]
      rfl
  · have hany : name.toList.any SaveKey.leavesMark = false := by
      rw [List.any_eq_false]
      intro c hc
      rw [hbare c hc]
      exact Bool.false_ne_true
    have hkey : isKey (SaveKey.ofName name) = false := by
      rw [SaveKey.isKey_ofName, hany]
    rw [SaveKey.ofName_bare hany] at hkey ⊢
    exact ⟨save_of_not_isKey hkey p, load_of_not_isKey hkey⟩

end FolderStore

/-! ## Section 3: A cave and three question marks -/

/-- A reader at the start of a story. -/
def startProgress : Progress where
  state := []
  history := [1]
  checkpoint := ""

/-- The folder of saved games, made where nothing is. -/
def newFolder : FolderStore where
  folder := ["saves"]
  tree := { entries := [(["saves"], .folder)] }

theorem newFolder_opened : FolderStore.open? ["saves"] {} = .ok newFolder := by
  decide +kernel

/-- The folder refuses the saved game of a story that is called by question marks, which
    memory keeps. -/
theorem question_marks_refused :
    FolderStore.open? ["saves"] {} = .ok newFolder ∧
      Storage.save newFolder (SaveKey.ofName "???") startProgress
        = (.error (.store (.invalidKey ".save")), newFolder) ∧
      Storage.load newFolder (SaveKey.ofName "???")
        = .error (.store (.invalidKey ".save")) ∧
      ∃ memory, Storage.save ({} : MemoryStore) (SaveKey.ofName "???") startProgress
        = (.ok (), memory) := by
  have hkey : SaveKey.ofName "???" = ".save" := by decide +kernel
  rw [hkey]
  exact ⟨newFolder_opened, FolderStore.save_of_not_isKey (by decide) _,
    FolderStore.load_of_not_isKey (by decide), _, rfl⟩

/-- The folder keeps the saved game of a story about a cave. -/
theorem keeps_marked_names_cave :
    FolderStore.open? ["saves"] {} = .ok newFolder ∧
      ∃ after, Storage.save newFolder (SaveKey.ofName "The Cave") startProgress
          = (.ok (), after) ∧
        Storage.load after (SaveKey.ofName "The Cave") = .ok startProgress := by
  have hkey : SaveKey.ofName "The Cave" = "the-cave.save" := by decide +kernel
  have hfits : (SaveKey.ofName "The Cave").utf8ByteSize ≤ FileTree.maxNameBytes := by
    rw [hkey]
    decide
  have hfree : newFolder.tree.entry? (newFolder.pathOf (SaveKey.ofName "The Cave"))
      ≠ some .folder := by
    rw [hkey]
    decide
  obtain ⟨-, hsaves, -⟩ := FolderStore.keeps_marked_names
    (FolderStore.follow_of_open? newFolder_opened) hfits hfree startProgress
  obtain ⟨after, hsave, -, hload⟩ := hsaves ⟨'T', by decide, by decide⟩
  exact ⟨newFolder_opened, after, hsave, hload survives_nil (by decide)⟩

end Hyperfiction
