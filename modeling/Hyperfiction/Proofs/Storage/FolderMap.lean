import Hyperfiction.Proofs.Storage.Folder

/-! # A folder as a map

    A store in a folder looks at one place for each call: the file of the call's key, right in
    the folder. It keeps one text there or none, as a store in memory keeps one text or none
    under a key. So calls in a row are answered alike by both, as far as their keys are taken.
    A key that is empty, starts with a dot or has a slash or a backslash in it is not taken,
    and neither is one under which the file system can keep no file; calls with such keys fail
    and change nothing.
-/

namespace Hyperfiction

/-! ## Section 1: Files of a folder, one at a time -/

namespace FileTree

theorem entry_drop_of_ne {path other : Path} (h : other ≠ path) (tree : FileTree) :
    entry? other (tree.drop path) = entry? other tree := by
  unfold entry? drop
  by_cases hempty : other.isEmpty
  · rw [if_pos hempty, if_pos hempty]
  · rw [if_neg hempty, if_neg hempty]
    exact lookup_filter_ne h tree.entries

theorem entry_drop_self {path : Path} (h : path ≠ []) (tree : FileTree) :
    entry? path (tree.drop path) = none := by
  unfold entry? drop
  rw [if_neg (by simpa using h), List.lookup_eq_none_iff]
  intro p hp
  have hne : p.1 ≠ path := by simpa using (List.mem_filter.1 hp).2
  simpa using Ne.symm hne

/-- Making folders leaves what is further down than the last of them. -/
theorem entry_makeFoldersFrom_of_lt {passed rest other : Path} {tree after : FileTree}
    (hmade : makeFoldersFrom passed rest tree = .ok after)
    (h : passed.length + rest.length < other.length) :
    after.entry? other = tree.entry? other := by
  induction rest generalizing passed tree with
  | nil =>
    obtain rfl : tree = after := Except.ok.inj hmade
    rfl
  | cons name rest ih =>
    have hnext : (passed ++ [name]).length + rest.length < other.length := by
      simp only [List.length_append, List.length_cons, List.length_nil] at h ⊢
      omega
    have hne : other ≠ passed ++ [name] := by
      rintro rfl
      omega
    rw [makeFoldersFrom.eq_def] at hmade
    dsimp only at hmade
    split at hmade
    · cases hmade
    · split at hmade
      · exact ih hmade hnext
      · cases hmade
      · rw [ih hmade hnext, entry_put_of_ne hne]

variable {tree : FileTree} {folder : Path} {name : String}

/-- The way to a name in a folder that is there. -/
theorem follow_concat (hfolder : tree.follow folder = .ok .folder) :
    tree.follow (folder ++ [name]) =
      if isName name then
        match tree.entry? (folder ++ [name]) with
        | some entry => .ok entry
        | none => .error .missing
      else .error .refused := by
  have hentry : tree.entry? folder = some .folder := entry_of_followFrom hfolder
  have hway : tree.follow (folder ++ [name]) = followFrom tree folder [name] :=
    followFrom_append hfolder [name]
  rw [hway, followFrom.eq_def]
  dsimp only
  rw [hentry]
  rfl

/-- No file can be written under a name that files may not have. -/
theorem write_concat_unnamed (hfolder : tree.follow folder = .ok .folder)
    (hname : isName name = false) (text : String) :
    tree.write (folder ++ [name]) text = .error .refused := by
  unfold write
  rw [List.dropLast_concat, hfolder]
  dsimp only
  rw [List.getLast?_concat, if_neg]
  rintro ⟨hgiven, -⟩
  rw [Option.any_some, hname] at hgiven
  cases hgiven

end FileTree

/-! ## Section 2: Calls -/

/-- A call of a store. -/
inductive StoreCall where
  | get (key : String)
  | set (key text : String)
  | remove (key : String)
deriving DecidableEq, Repr

/-- What comes of a call. -/
inductive StoreReply where
  /-- The text of the key, if it has one. -/
  | found (result : Except StoreError (Option String))
  /-- Whether it has been done. -/
  | done (result : Except StoreError Unit)

namespace StoreCall

/-- The key that the call is about. -/
def key : StoreCall → String
  | .get key | .set key _ | .remove key => key

/-- The reply to a call that fails. -/
def failing (c : StoreCall) (e : StoreError) : StoreReply :=
  match c with
  | .get _ => .found (.error e)
  | .set _ _ | .remove _ => .done (.error e)

/-- The reply to a call whose key has the text, if it has one. -/
def succeeding (c : StoreCall) (text? : Option String) : StoreReply :=
  match c with
  | .get _ => .found (.ok text?)
  | .set _ _ | .remove _ => .done (.ok ())

/-- The text that the key has after the call. -/
def leaves (c : StoreCall) (text? : Option String) : Option String :=
  match c with
  | .get _ => text?
  | .set _ text => some text
  | .remove _ => none

end StoreCall

namespace Storage

variable {S : Type} [Storage S]

/-- Answers a call. -/
def reply (c : StoreCall) (s : S) : StoreReply × S :=
  match c with
  | .get key => (.found (get s key), s)
  | .set key text => (.done (set s key text).1, (set s key text).2)
  | .remove key => (.done (remove s key).1, (remove s key).2)

variable {s left : S} {key text : String}

theorem reply_get {result : Except StoreError (Option String)} (h : get s key = result) :
    reply (.get key) s = (.found result, s) := by
  rw [← h]
  rfl

theorem reply_set {result : Except StoreError Unit} (h : set s key text = (result, left)) :
    reply (.set key text) s = (.done result, left) := by
  unfold reply
  dsimp only
  rw [h]

theorem reply_remove {result : Except StoreError Unit} (h : remove s key = (result, left)) :
    reply (.remove key) s = (.done result, left) := by
  unfold reply
  dsimp only
  rw [h]

/-- The store after calls in a row. -/
def after : List StoreCall → S → S
  | [], s => s
  | c :: calls, s => after calls (reply c s).2

end Storage

open Storage (reply after)

/-- A store in memory keeps under each key what the calls with this key leave. -/
theorem MemoryStore.reply_eq (c : StoreCall) (m : MemoryStore) :
    (reply c m).1 = c.succeeding (Table.get? c.key m.entries) ∧
    ∀ key, Table.get? key (reply c m).2.entries =
      if c.key = key then c.leaves (Table.get? key m.entries) else Table.get? key m.entries := by
  cases c with
  | get key => exact ⟨rfl, fun _ => (ite_self _).symm⟩
  | set key text => exact ⟨rfl, fun other => Table.get?_insert key other text m.entries⟩
  | remove key => exact ⟨rfl, fun other => Table.get?_erase key other m.entries⟩

namespace FolderStore

/-! ## Section 3: Keys that are not taken -/

/-- The key is empty, starts with a dot, or has a slash or a backslash in it. -/
def Improper (key : String) : Prop :=
  key = "" ∨ key.toList.head? = some '.' ∨ '/' ∈ key.toList ∨ '\\' ∈ key.toList

instance (key : String) : Decidable (Improper key) :=
  inferInstanceAs (Decidable (_ ∨ _ ∨ _ ∨ _))

theorem not_isKey_iff {key : String} : isKey key = false ↔ Improper key := by
  have hempty : key = "" ↔ key.toList = [] := by rw [String.toList_eq_nil_iff]
  unfold isKey Improper
  rw [hempty]
  cases key.toList with
  | nil => simp
  | cons c cs =>
    rw [Bool.and_eq_false_iff, List.all_eq_false]
    constructor
    · rintro (hdot | ⟨d, hd, hslash⟩)
      · exact .inr (.inl (by simpa using hdot))
      · simp only [ne_eq, Bool.and_eq_true, decide_eq_true_eq, not_and, Decidable.not_not]
          at hslash
        by_cases hforward : d = '/'
        · exact .inr (.inr (.inl (hforward ▸ hd)))
        · exact .inr (.inr (.inr (hslash hforward ▸ hd)))
    · rintro (h | hdot | hslash | hslash)
      · cases h
      · exact .inl (by simpa using hdot)
      · exact .inr ⟨'/', hslash, by decide⟩
      · exact .inr ⟨'\\', hslash, by decide⟩

variable {s : FolderStore} {c : StoreCall}

/-- A call with a key that is not taken fails and changes nothing. -/
theorem reply_improper (h : isKey c.key = false) :
    reply c s = (c.failing (.invalidKey c.key), s) := by
  have hkey : ¬ isKey c.key = true := Bool.eq_false_iff.1 h
  cases c with
  | get key => exact Storage.reply_get (if_neg hkey)
  | set key text => exact Storage.reply_set (if_neg hkey)
  | remove key => exact Storage.reply_remove (if_neg hkey)

theorem remove_of_isKey {key : String} (hkey : isKey key = true) :
    Storage.remove s key =
      match s.tree.remove (s.pathOf key) with
      | .ok tree => (.ok (), { s with tree })
      | .error .missing => (.ok (), s)
      | .error .refused => (.error .io, s) :=
  if_pos hkey

/-- So does one with a key under which no file can be kept. -/
theorem reply_unnamed (hfolder : s.tree.follow s.folder = .ok .folder)
    (hkey : isKey c.key = true) (hname : FileTree.isName c.key = false) :
    reply c s = (c.failing .io, s) := by
  have hfollow : s.tree.follow (s.pathOf c.key) = .error .refused := by
    unfold pathOf
    rw [FileTree.follow_concat hfolder, hname]
    rfl
  cases c with
  | get key =>
    have hget : Storage.get s key = .error .io := by
      rw [get_of_isKey (show isKey key = true from hkey)]
      unfold FileTree.read
      rw [show s.tree.follow (s.pathOf key) = .error .refused from hfollow]
    exact Storage.reply_get hget
  | set key text =>
    have hset : Storage.set s key text = (.error .io, s) := by
      have hwrite : s.tree.write (s.pathOf key) text = .error .refused :=
        FileTree.write_concat_unnamed hfolder hname text
      rw [set_of_isKey (show isKey key = true from hkey), hwrite]
    exact Storage.reply_set hset
  | remove key =>
    have hremove : Storage.remove s key = (.error .io, s) := by
      rw [remove_of_isKey (show isKey key = true from hkey)]
      unfold FileTree.remove
      rw [show s.tree.follow (s.pathOf key) = .error .refused from hfollow]
    exact Storage.reply_remove hremove

/-! ## Section 4: One place for each key -/

/-- The store with one file written or taken away keeps its folder, and changes no other
    place. -/
structure ChangesOnly (s : FolderStore) (key : String) (text? : Option String)
    (left : FolderStore) : Prop where
  folder : left.folder = s.folder
  there : left.tree.follow s.folder = .ok .folder
  entry : left.tree.entry? (s.pathOf key) = text?.map .file
  others : ∀ path, path ≠ s.pathOf key → left.tree.entry? path = s.tree.entry? path

/-- The folder is there as long as nothing but files in it changes. -/
theorem ChangesOnly.of_others {key : String} {text? : Option String} {tree : FileTree}
    (hfolder : s.tree.follow s.folder = .ok .folder)
    (hentry : tree.entry? (s.pathOf key) = text?.map .file)
    (hothers : ∀ path, path ≠ s.pathOf key → tree.entry? path = s.tree.entry? path) :
    s.ChangesOnly key text? { s with tree } where
  folder := rfl
  there := by
    have hsame : tree.follow s.folder = s.tree.follow s.folder := by
      refine FileTree.followFrom_congr fun path hpath => hothers path ?_
      rintro rfl
      rw [pathOf, List.length_append, List.length_singleton, List.length_nil] at hpath
      omega
    exact hsame.trans hfolder
  entry := hentry
  others := hothers

/-- The way to a file, or to where none is. -/
theorem follow_pathOf {key : String} (hfolder : s.tree.follow s.folder = .ok .folder)
    (hname : FileTree.isName key = true) {text? : Option String}
    (hentry : s.tree.entry? (s.pathOf key) = text?.map .file) :
    s.tree.follow (s.pathOf key) = (text?.map FileEntry.file).elim (.error .missing) .ok := by
  unfold pathOf at hentry ⊢
  rw [FileTree.follow_concat hfolder, if_pos hname, hentry]
  cases text? <;> rfl

theorem get_named {key : String} (hfolder : s.tree.follow s.folder = .ok .folder)
    (hkey : isKey key = true) (hname : FileTree.isName key = true) {text? : Option String}
    (hentry : s.tree.entry? (s.pathOf key) = text?.map .file) : Storage.get s key = .ok text? := by
  rw [get_of_isKey hkey]
  unfold FileTree.read
  rw [follow_pathOf hfolder hname hentry]
  cases text? <;> rfl

theorem set_named {key : String} (hfolder : s.tree.follow s.folder = .ok .folder)
    (hkey : isKey key = true) (hname : FileTree.isName key = true) {text? : Option String}
    (hentry : s.tree.entry? (s.pathOf key) = text?.map .file) (text : String) :
    Storage.set s key text
      = (.ok (), { s with tree := s.tree.put (s.pathOf key) (.file text) }) := by
  have hfree : s.tree.entry? (s.pathOf key) ≠ some .folder := by
    rw [hentry]
    cases text? <;> simp
  have hwrite : s.tree.write (s.pathOf key) text
      = .ok (s.tree.put (s.pathOf key) (.file text)) :=
    FileTree.write_concat hfolder hname hfree text
  rw [set_of_isKey hkey, hwrite]

theorem remove_named {key : String} (hfolder : s.tree.follow s.folder = .ok .folder)
    (hkey : isKey key = true) (hname : FileTree.isName key = true) {text? : Option String}
    (hentry : s.tree.entry? (s.pathOf key) = text?.map .file) :
    ∃ tree, Storage.remove s key = (.ok (), { s with tree }) ∧
      tree.entry? (s.pathOf key) = none ∧
      ∀ path, path ≠ s.pathOf key → tree.entry? path = s.tree.entry? path := by
  rw [remove_of_isKey hkey]
  unfold FileTree.remove
  rw [follow_pathOf hfolder hname hentry]
  cases text? with
  | none => exact ⟨s.tree, rfl, hentry, fun _ _ => rfl⟩
  | some text =>
    refine ⟨s.tree.drop (s.pathOf key), rfl, ?_, ?_⟩
    · exact FileTree.entry_drop_self (by simp [pathOf]) _
    · exact fun path hpath => FileTree.entry_drop_of_ne hpath _

/-- A call with a key that is taken looks at one place: what stands there is what it replies
    by, and all that it changes. -/
theorem reply_taken (hfolder : s.tree.follow s.folder = .ok .folder) (hkey : isKey c.key = true)
    (hname : FileTree.isName c.key = true) {text? : Option String}
    (hentry : s.tree.entry? (s.pathOf c.key) = text?.map .file) :
    (reply c s).1 = c.succeeding text? ∧ s.ChangesOnly c.key (c.leaves text?) (reply c s).2 := by
  cases c with
  | get key =>
    have hget : Storage.get s key = .ok text? := get_named hfolder hkey hname hentry
    rw [Storage.reply_get hget]
    exact ⟨rfl, .of_others hfolder hentry fun _ _ => rfl⟩
  | set key text =>
    have hset : Storage.set s key text
        = (.ok (), { s with tree := s.tree.put (s.pathOf key) (.file text) }) :=
      set_named hfolder hkey hname hentry text
    rw [Storage.reply_set hset]
    refine ⟨rfl, .of_others hfolder ?_ ?_⟩
    · exact FileTree.entry_put_self (by simp [pathOf]) _ _
    · exact fun path hpath => FileTree.entry_put_of_ne hpath _ _
  | remove key =>
    obtain ⟨tree, hremove, hgone, hothers⟩ :
        ∃ tree, Storage.remove s key = (.ok (), { s with tree }) ∧
          tree.entry? (s.pathOf key) = none ∧
          ∀ path, path ≠ s.pathOf key → tree.entry? path = s.tree.entry? path :=
      remove_named hfolder hkey hname hentry
    rw [Storage.reply_remove hremove]
    exact ⟨rfl, .of_others hfolder hgone hothers⟩

/-! ## Section 5: Calls in a row -/

/-- The store in the folder holds what the one in memory does, and no folder among it. -/
structure Mirrors (s : FolderStore) (m : MemoryStore) : Prop where
  there : s.tree.follow s.folder = .ok .folder
  entries : ∀ name, s.tree.entry? (s.pathOf name) = (Table.get? name m.entries).map .file

/-- The key of the call is taken, and a file can be kept under it. -/
def takes (c : StoreCall) : Bool :=
  isKey c.key && FileTree.isName c.key

/-- In a folder that has been opened and in which nothing is, there is as much as in a new
    store in memory. -/
theorem mirrors_of_open? {folder : Path} {tree : FileTree} {s : FolderStore}
    (hopen : open? folder tree = .ok s) (hfresh : ∀ name, tree.entry? (folder ++ [name]) = none) :
    s.folder = folder ∧ s.Mirrors {} := by
  have hthere := follow_of_open? hopen
  unfold open? at hopen
  cases hmade : tree.makeFolders folder with
  | error fault => rw [hmade] at hopen; cases hopen
  | ok made =>
    rw [hmade] at hopen
    obtain rfl : ({ folder, tree := made } : FolderStore) = s := Except.ok.inj hopen
    refine ⟨rfl, hthere, fun name => ?_⟩
    have hlength : ([] : Path).length + folder.length < (folder ++ [name]).length := by simp
    exact (FileTree.entry_makeFoldersFrom_of_lt hmade hlength).trans (hfresh name)

variable {m : MemoryStore}

/-- A call that is taken is answered alike by both stores, and afterwards both hold the same. -/
theorem Mirrors.reply_taken (h : s.Mirrors m) (hc : takes c = true) :
    (reply c s).1 = (reply c m).1 ∧ (reply c s).2.Mirrors (reply c m).2 := by
  obtain ⟨hkey, hname⟩ := Bool.and_eq_true_iff.1 hc
  obtain ⟨hreply, hchange⟩ := FolderStore.reply_taken h.there hkey hname (h.entries c.key)
  obtain ⟨hmemory, hkept⟩ := MemoryStore.reply_eq c m
  refine ⟨hreply.trans hmemory.symm, ?_, fun name => ?_⟩
  · rw [hchange.folder]
    exact hchange.there
  · have hpath : (reply c s).2.pathOf name = s.pathOf name := by
      unfold pathOf
      rw [hchange.folder]
    rw [hpath, hkept]
    by_cases hsame : c.key = name
    · subst hsame
      rw [if_pos rfl]
      exact hchange.entry
    · rw [if_neg hsame, hchange.others _ fun heq => hsame ?_]
      · exact h.entries name
      · simpa [pathOf] using heq.symm

/-- A call that is not taken fails, in one of two ways, and leaves the store in the folder as
    it is. -/
theorem Mirrors.reply_untaken (h : s.Mirrors m) (hc : takes c = false) :
    reply c s = (c.failing (if isKey c.key then .io else .invalidKey c.key), s) := by
  cases hkey : isKey c.key with
  | false => exact reply_improper hkey
  | true =>
    have hname : FileTree.isName c.key = false := by
      unfold takes at hc
      rw [hkey, Bool.true_and] at hc
      exact hc
    exact reply_unnamed h.there hkey hname

/-- What a call is answered is settled by its key and by the text that is under it. -/
theorem Mirrors.reply_fst (h : s.Mirrors m) :
    (reply c s).1 = if takes c then c.succeeding (Table.get? c.key m.entries)
      else c.failing (if isKey c.key then .io else .invalidKey c.key) := by
  cases hc : takes c with
  | true => exact (h.reply_taken hc).1.trans (MemoryStore.reply_eq c m).1
  | false => exact congrArg Prod.fst (h.reply_untaken hc)

/-- After any calls the store in the folder holds what the one in memory does after those of
    them that are taken. -/
theorem Mirrors.after_calls (h : s.Mirrors m) (calls : List StoreCall) :
    (after calls s).Mirrors (after (calls.filter takes) m) := by
  induction calls generalizing s m with
  | nil => exact h
  | cons c calls ih =>
    show (after calls (reply c s).2).Mirrors _
    cases hc : takes c with
    | true =>
      rw [List.filter_cons_of_pos hc]
      exact ih (h.reply_taken hc).2
    | false =>
      rw [List.filter_cons_of_neg (by simp [hc]), h.reply_untaken hc]
      exact ih h

/-- A call changes at most the place of its key. -/
theorem Mirrors.confined (h : s.Mirrors m) (c : StoreCall) :
    (reply c s).2.folder = s.folder ∧
      ∀ path, path ≠ s.pathOf c.key →
        FileTree.entry? path (reply c s).2.tree = s.tree.entry? path := by
  cases hc : takes c with
  | true =>
    obtain ⟨hkey, hname⟩ := Bool.and_eq_true_iff.1 hc
    obtain ⟨-, hchange⟩ := FolderStore.reply_taken h.there hkey hname (h.entries c.key)
    exact ⟨hchange.folder, hchange.others⟩
  | false =>
    rw [h.reply_untaken hc]
    exact ⟨rfl, fun _ _ => rfl⟩

/-- Calls in a row change nothing but what is right in the folder. -/
theorem Mirrors.confined_after (h : s.Mirrors m) (calls : List StoreCall) :
    (after calls s).folder = s.folder ∧
      ∀ path, (∀ name, path ≠ s.pathOf name) →
        FileTree.entry? path (after calls s).tree = s.tree.entry? path := by
  induction calls generalizing s m with
  | nil => exact ⟨rfl, fun _ _ => rfl⟩
  | cons c calls ih =>
    obtain ⟨hfolder, hothers⟩ := h.confined c
    obtain ⟨hfolder', hothers'⟩ := ih (h.after_calls [c])
    refine ⟨hfolder'.trans hfolder, fun path hpath => ?_⟩
    refine (hothers' path fun name => ?_).trans (hothers path (hpath c.key))
    show path ≠ (reply c s).2.folder ++ [name]
    rw [hfolder]
    exact hpath name

/-- A call does not change how a call with another key is answered. -/
theorem Mirrors.reply_other (h : s.Mirrors m) {d : StoreCall} (hne : d.key ≠ c.key) :
    (reply d (reply c s).2).1 = (reply d s).1 := by
  have hafter : (reply c s).2.Mirrors (after ([c].filter takes) m) := h.after_calls [c]
  have htext : Table.get? d.key (after ([c].filter takes) m).entries
      = Table.get? d.key m.entries := by
    cases hc : takes c with
    | true =>
      rw [List.filter_cons_of_pos hc]
      exact ((MemoryStore.reply_eq c m).2 d.key).trans (if_neg (Ne.symm hne))
    | false =>
      rw [List.filter_cons_of_neg (by simp [hc])]
      rfl
  rw [h.reply_fst, hafter.reply_fst, htext]

/-- **A folder is a map.** Let a store be opened in a folder in which nothing is, and let any
    calls be made in a row. A call whose key is empty, starts with a dot or has a slash or a
    backslash in it fails with the key as invalid, and changes nothing. On the assumption that
    every other key is the name of a file (`FileTree.isName`: no more bytes than a file system
    takes, and no null character), every other call is answered as by a store in memory that
    has been given the same calls, those with improper keys left out. Without it, the calls
    whose keys are no names of files are left out as well: they fail and change nothing, and
    all others are answered as in memory. No call changes a place other than that of its key,
    right in the folder, nor how calls with other keys are answered. -/
theorem answers_as_memory {folder : Path} {tree : FileTree} {s : FolderStore}
    (hopen : open? folder tree = .ok s) (hfresh : ∀ name, tree.entry? (folder ++ [name]) = none)
    (calls : List StoreCall) (c : StoreCall) :
    (Improper c.key →
      reply c (after calls s) = (c.failing (.invalidKey c.key), after calls s)) ∧
    ((∀ d ∈ c :: calls, ¬ Improper d.key → FileTree.isName d.key = true) → ¬ Improper c.key →
      (reply c (after calls s)).1
        = (reply c (after (calls.filter fun d => ¬ Improper d.key) ({} : MemoryStore))).1) ∧
    (takes c = true → (reply c (after calls s)).1
        = (reply c (after (calls.filter takes) ({} : MemoryStore))).1) ∧
    (¬ Improper c.key → takes c = false →
      reply c (after calls s) = (c.failing .io, after calls s)) ∧
    (∀ path, path ≠ folder ++ [c.key] →
      FileTree.entry? path (reply c (after calls s)).2.tree
        = FileTree.entry? path (after calls s).tree) ∧
    (∀ path, (∀ name, path ≠ folder ++ [name]) →
      FileTree.entry? path (after calls s).tree = s.tree.entry? path) ∧
    ∀ d : StoreCall, d.key ≠ c.key →
      (reply d (reply c (after calls s)).2).1 = (reply d (after calls s)).1 := by
  obtain ⟨rfl, hopened⟩ := mirrors_of_open? hopen hfresh
  have hnow := hopened.after_calls calls
  obtain ⟨hfolder, hothers⟩ := hopened.confined_after calls
  have hkey : ∀ {d : StoreCall}, ¬ Improper d.key ↔ isKey d.key = true := by
    intro d
    rw [← not_isKey_iff, Bool.not_eq_false]
  have htaken : takes c = true → (reply c (after calls s)).1
      = (reply c (after (calls.filter takes) ({} : MemoryStore))).1 :=
    fun hc => (hnow.reply_taken hc).1
  refine ⟨?_, ?_, htaken, ?_, ?_, hothers, ?_⟩
  · exact fun himproper => reply_improper (not_isKey_iff.2 himproper)
  · intro hnames hproper
    -- all proper keys are those of files, so that they are the ones that are taken
    have hsame : ∀ d ∈ c :: calls, takes d = decide (¬ Improper d.key) := by
      intro d hd
      unfold takes
      by_cases himproper : Improper d.key
      · rw [not_isKey_iff.2 himproper]
        simp [himproper]
      · rw [hkey.1 himproper, hnames d hd himproper]
        simp [himproper]
    rw [← List.filter_congr fun d hd => hsame d (List.mem_cons_of_mem _ hd)]
    exact htaken ((hsame c List.mem_cons_self).trans (decide_eq_true hproper))
  · intro hproper hc
    rw [hnow.reply_untaken hc, if_pos (hkey.1 hproper)]
  · intro path hpath
    refine (hnow.confined c).2 path ?_
    unfold pathOf
    rw [hfolder]
    exact hpath
  · exact fun d hne => hnow.reply_other hne

end FolderStore

/-! ## Section 6: A folder of saved games -/

/-- Two games are saved, one of them again, and a key leads out of the folder in between. -/
def someCalls : List StoreCall :=
  [.set "cave.save" "one", .set "../cave.save" "two", .set "door.save" "three",
    .remove "lamp.save", .set "cave.save" "four"]

/-- The key that led out of the folder has been refused, and the folder has the texts that a
    store in memory has without it. -/
theorem answers_as_memory_games :
    FolderStore.open? ["saves"] {} = .ok newFolder ∧
      reply (.remove "a/b") (after someCalls newFolder)
        = (.done (.error (.invalidKey "a/b")), after someCalls newFolder) ∧
      (reply (.get "cave.save") (after someCalls newFolder)).1
        = .found (.ok (some "four")) ∧
      FileTree.entry? ["cave.save"] (after someCalls newFolder).tree = none := by
  have hfresh : ∀ name, FileTree.entry? (["saves"] ++ [name]) {} = none := fun _ => rfl
  obtain ⟨himproper, -⟩ := FolderStore.answers_as_memory newFolder_opened hfresh someCalls
    (.remove "a/b")
  obtain ⟨-, hmemory, -, -, -, houtside, -⟩ :=
    FolderStore.answers_as_memory newFolder_opened hfresh someCalls (.get "cave.save")
  refine ⟨newFolder_opened, himproper (by decide), ?_, ?_⟩
  · rw [hmemory (by decide) (by decide)]
    rfl
  · exact houtside ["cave.save"] (by simp)

end Hyperfiction
