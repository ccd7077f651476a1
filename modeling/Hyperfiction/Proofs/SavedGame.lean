import Hyperfiction.Proofs.Json.Faithful
import Hyperfiction.Storage.Slot

/-! # Saved games as text

    The text of a progress is read as the same progress exactly if the variables come
    back from their own text: the history and the checkpoint always do, whatever the
    checkpoint is called. The variables come back if they are faithful and nest less
    than a reader takes, and a saved game must have a passage visited besides.
-/

namespace Hyperfiction

/-- The variables come back from their JSON text, with one container, the saved game,
    open around them. -/
def StateBag.Survives (bag : StateBag) : Prop :=
  ∃ d, Json.parse (Json.text (.obj bag)) = some d ∧
    Json.Document.object? (Json.maxDepth - 1) d = some bag

/-- The variables that are read from a text, which may nest so many containers. -/
theorem object?_transcript (limit : Nat) (bag : StateBag) :
    Json.Document.object? limit (Json.transcript (.obj bag)) =
      if (Value.obj bag).depth ≤ limit then
        Json.Document.toFields? [] (Json.fieldTranscripts bag)
      else none := by
  rw [← Json.depth_transcript]
  unfold Json.transcript Json.Document.object?
  rfl

/-- What the variables that survive are read as. -/
theorem survives_iff_object? {bag : StateBag} :
    StateBag.Survives bag ↔
      Json.Document.object? (Json.maxDepth - 1) (Json.transcript (.obj bag)) = some bag := by
  unfold StateBag.Survives
  rw [Json.parse_text]
  simp

/-- The variables that survive are those that are faithful and do not nest too deep. -/
theorem survives_iff {bag : StateBag} :
    StateBag.Survives bag ↔
      (Value.obj bag).depth < Json.maxDepth ∧ Json.Faithful (.obj bag) := by
  have hlimit : (Value.obj bag).depth ≤ Json.maxDepth - 1 ↔
      (Value.obj bag).depth < Json.maxDepth := by
    have : 0 < Json.maxDepth := by decide
    omega
  have hfaithful : Json.Document.toFields? [] (Json.fieldTranscripts bag) = some bag ↔
      Json.Faithful (.obj bag) := by
    rw [Json.toFields?_eq_self, Json.readBack?_eq_self]
    unfold Json.Faithful
    rfl
  rw [survives_iff_object?, object?_transcript]
  split
  · next hdepth => rw [hfaithful, and_iff_right (hlimit.1 hdepth)]
  · next hdepth => exact ⟨fun h => (nomatch h), fun h => absurd (hlimit.2 h.1) hdepth⟩

theorem survives_nil : StateBag.Survives [] := by
  rw [survives_iff]
  exact ⟨by decide, Table.ascending_nil, trivial⟩

namespace Progress

open Json

/-! ## Section 1: The document of a progress -/

theorem itemsExact_history (ids : List PassageId) :
    ItemsExact (ids.map fun id => .int id.toNat) := by
  induction ids with
  | nil =>
    rw [List.map_nil, ItemsExact]
    trivial
  | cons id ids ih =>
    rw [List.map_cons, ItemsExact, IsExact]
    refine ⟨⟨?_, ?_⟩, ih⟩
    · exact Int.le_trans (by decide) (Int.natCast_nonneg _)
    · have hlt := id.toNat_lt
      have hsize : (2 : Nat) ^ 32 < UInt64.size := by decide
      omega

/-- The document that the text of a progress is read as; `d` is that of its variables. -/
def documentWith (checkpointField : String) (d : Document) (p : Progress) : Document :=
  .object [(some "state", d),
    (some "history", documentOf (.arr (p.history.map fun id => .int id.toNat))),
    (some checkpointField, .string (some p.checkpoint))]

/-- The text of a progress, field by field. -/
theorem write_eq (checkpointField : String) (p : Progress) :
    p.write checkpointField =
      '\x7b' :: (writeString "state".toList ++ ':' :: (Json.write (.obj p.state) ++ ',' ::
        (writeString "history".toList ++ ':' ::
          (Json.write (.arr (p.history.map fun id => .int id.toNat)) ++ ',' ::
            (writeString checkpointField.toList ++ ':' ::
              (writeString p.checkpoint.toList ++ ['\x7d'])))))) := by
  have hstate : "\x7b\"state\":".toList = '\x7b' :: (writeString "state".toList ++ [':']) := by
    decide
  have hhistory : ",\"history\":".toList = ',' :: (writeString "history".toList ++ [':']) := by
    decide
  unfold Progress.write
  rw [hstate, hhistory]
  simp only [List.cons_append, List.append_assoc, List.nil_append]

theorem writes_progress (checkpointField : String) (p : Progress) :
    Writes (p.write checkpointField)
      (p.documentWith checkpointField (transcript (.obj p.state))) := by
  have hstate := writes_transcript (.obj p.state)
  have hhistory := writes_write (.arr (p.history.map fun id => .int id.toNat))
    (by rw [IsExact]; exact itemsExact_history p.history)
  have hcheckpoint := writes_string p.checkpoint
  rw [write_eq]
  -- the fields are put together from the last to the first, as the text is
  exact (hstate.field "state"
    (hhistory.field "history" (hcheckpoint.lastField checkpointField))).writes

/-! ## Section 2: Reading it back -/

theorem word?_id (id : PassageId) :
    Document.word? (documentOf (.int id.toNat)) = some id := by
  have hlt := id.toNat_lt
  unfold documentOf Document.word?
  have hin : (0 : Int) ≤ id.toNat ∧ (id.toNat : Int) < UInt32.size := by
    refine ⟨Int.natCast_nonneg _, ?_⟩
    have hsize : UInt32.size = 2 ^ 32 := rfl
    omega
  dsimp only
  rw [if_pos hin, Int.toNat_natCast, UInt32.ofNat_toNat]

theorem list?_history (ids : List PassageId) :
    Document.list? Document.word? (documentOf (.arr (ids.map fun id => .int id.toNat)))
      = some ids := by
  unfold documentOf Document.list?
  induction ids with
  | nil => rfl
  | cons id ids ih =>
    rw [List.map_cons, documentsOf]
    dsimp only at ih ⊢
    rw [List.mapM_cons, word?_id, ih]
    rfl

theorem field?_of_ne {name k : String} {d : Document} {fs : List (Option String × Document)}
    (h : k ≠ name) : Document.field? name ((some k, d) :: fs) = Document.field? name fs := by
  have hne : (some k == some name) = false := by simp [h]
  unfold Document.field?
  rw [List.filter_cons, hne]
  rfl

/-- A field that stands once. -/
theorem field?_of_absent {name : String} {d : Document} {fs : List (Option String × Document)}
    (h : ∀ k d, (k, d) ∈ fs → k ≠ some name) :
    Document.field? name ((some name, d) :: fs) = some (some d) := by
  have hrest : fs.filter (fun p => p.1 == some name) = [] := by
    rw [List.filter_eq_nil_iff]
    rintro ⟨k, d⟩ hmem
    simpa using h k d hmem
  unfold Document.field?
  rw [List.filter_cons, hrest]
  simp

theorem record?_documentWith {checkpointField : String} (hstate : checkpointField ≠ "state")
    (hhistory : checkpointField ≠ "history") (d : Document) (p : Progress) :
    Document.record? ["state", "history", checkpointField] (p.documentWith checkpointField d)
      = some [some d, some (documentOf (.arr (p.history.map fun id => .int id.toNat))),
          some (.string (some p.checkpoint))] := by
  -- each field is found where it stands, and the others have other names
  have h₁ : ∀ ds c, Document.field? "state" [(some "state", d), (some "history", ds),
      (some checkpointField, c)] = some (some d) := by
    intro ds c
    refine field?_of_absent ?_
    rintro k d' hmem rfl
    simp [Ne.symm hstate] at hmem
  have h₂ : ∀ ds c, Document.field? "history" [(some "state", d), (some "history", ds),
      (some checkpointField, c)] = some (some ds) := by
    intro ds c
    rw [field?_of_ne (by decide)]
    refine field?_of_absent ?_
    rintro k d' hmem rfl
    simp [Ne.symm hhistory] at hmem
  have h₃ : ∀ ds c, Document.field? checkpointField [(some "state", d), (some "history", ds),
      (some checkpointField, c)] = some (some c) := by
    intro ds c
    rw [field?_of_ne (Ne.symm hstate), field?_of_ne (Ne.symm hhistory)]
    exact field?_of_absent (by simp)
  unfold documentWith Document.record?
  simp only [List.all_cons, List.all_nil, Option.isSome_some, Bool.and_self, if_true]
  rw [List.mapM_cons, h₁, List.mapM_cons, h₂, List.mapM_cons, h₃]
  rfl

/-- The text of a progress is read as that progress with the variables that come back. -/
theorem ofText?_write_eq {checkpointField : String} (hstate : checkpointField ≠ "state")
    (hhistory : checkpointField ≠ "history") (p : Progress) :
    ofText? checkpointField (String.ofList (p.write checkpointField)) =
      (Document.object? (maxDepth - 1) (transcript (.obj p.state))).map
        fun state => { p with state } := by
  unfold ofText?
  rw [(writes_progress checkpointField p).parse, Option.bind_some]
  unfold ofDocument?
  rw [record?_documentWith hstate hhistory]
  dsimp only
  rw [list?_history]
  cases Document.object? (maxDepth - 1) (transcript (.obj p.state)) <;> rfl

/-- A progress whose variables survive is read from its text as it was written. -/
theorem ofText?_write {checkpointField : String} (hstate : checkpointField ≠ "state")
    (hhistory : checkpointField ≠ "history") {p : Progress} (h : StateBag.Survives p.state) :
    ofText? checkpointField (String.ofList (p.write checkpointField)) = some p := by
  rw [ofText?_write_eq hstate hhistory, survives_iff_object?.1 h]
  rfl

/-- What the text of a saved game is read as. -/
theorem ofSavedText_savedText_eq (p : Progress) :
    ofSavedText p.savedText =
      match Document.object? (maxDepth - 1) (transcript (.obj p.state)) with
      | none => .error .malformed
      | some state => if p.history.isEmpty then .error .emptyHistory else .ok { p with state } := by
  have hread : ofText? savedField p.savedText =
      (Document.object? (maxDepth - 1) (transcript (.obj p.state))).map
        fun state => { p with state } :=
    ofText?_write_eq (by decide) (by decide) p
  unfold ofSavedText
  rw [hread]
  cases Document.object? (maxDepth - 1) (transcript (.obj p.state)) <;> rfl

/-- A saved game whose variables survive, with a passage visited, comes back as it was. -/
theorem ofSavedText_savedText {p : Progress} (h : StateBag.Survives p.state)
    (hne : p.history ≠ []) : ofSavedText p.savedText = .ok p := by
  have hvisited : p.history.isEmpty = false := by
    rw [List.isEmpty_eq_false_iff]
    exact hne
  rw [ofSavedText_savedText_eq, survives_iff_object?.1 h]
  dsimp only
  rw [hvisited]
  rfl

/-- A saved game comes back as it was only if its variables survive and a passage has been
    visited. -/
theorem survives_of_ofSavedText {p : Progress} (h : ofSavedText p.savedText = .ok p) :
    StateBag.Survives p.state ∧ p.history ≠ [] := by
  rw [ofSavedText_savedText_eq] at h
  cases hread : Document.object? (maxDepth - 1) (transcript (.obj p.state)) with
  | none => rw [hread] at h; cases h
  | some state =>
    rw [hread] at h
    dsimp only at h
    split at h
    · cases h
    · next hvisited =>
      have hstate : state = p.state := congrArg Progress.state (Except.ok.inj h)
      rw [hstate] at hread
      exact ⟨survives_iff_object?.2 hread, fun hnil => hvisited (List.isEmpty_iff.2 hnil)⟩

/-- A saved game whose variables nest too deep is malformed. -/
theorem ofSavedText_of_deep {p : Progress} (h : maxDepth ≤ (Value.obj p.state).depth) :
    ofSavedText p.savedText = .error .malformed := by
  have hdeep : ¬ (Value.obj p.state).depth ≤ maxDepth - 1 := by
    have : 0 < maxDepth := by decide
    omega
  rw [ofSavedText_savedText_eq, object?_transcript, if_neg hdeep]

/-- A saved game without a visit is refused, even if its variables survive. -/
theorem ofSavedText_of_unvisited {p : Progress} (h : StateBag.Survives p.state)
    (hnil : p.history = []) : ofSavedText p.savedText = .error .emptyHistory := by
  rw [ofSavedText_savedText_eq, survives_iff_object?.1 h, hnil]
  rfl

end Progress

/-! ## Section 3: Loading a text -/

/-- A text that a store has under a key is loaded as a saved game is read from it. -/
theorem Storage.load_of_get {S : Type} [Storage S] {store : S} {key text : String}
    (h : get store key = .ok (some text)) :
    load store key = (Progress.ofSavedText text).mapError .record := by
  unfold load
  rw [h]
  dsimp only
  cases Progress.ofSavedText text <;> rfl

end Hyperfiction
