import Hyperfiction.Proofs.Loading

/-! # Progress as text and back

    A saved game and an entry of the browser history are read from their texts as they were
    written, if no float is in their variables and the text nests no more than the reader
    takes. Whatever is in a saved game, its text is one of three things to the reader:
    malformed, if it nests deeper or a number in it stands for none; without a visit, if the
    history is empty; or a saved game. The first comes before the second.
-/

namespace Hyperfiction

namespace Json

/-! ## Section 1: Documents that stand for values -/

namespace Document

mutual

/-- Every number and every string stands for one. -/
def Legible : Document → Prop
  | .number n => n.isSome = true
  | .string s => s.isSome = true
  | .array ds => ItemsLegible ds
  | .object fs => FieldsLegible fs
  | _ => True

/-- The same of items. -/
def ItemsLegible : List Document → Prop
  | [] => True
  | d :: ds => Legible d ∧ ItemsLegible ds

/-- The same of fields and their names. -/
def FieldsLegible : List (Option String × Document) → Prop
  | [] => True
  | (k, d) :: fs => k.isSome = true ∧ Legible d ∧ FieldsLegible fs

end

mutual

/-- The documents that stand for values are the legible ones. -/
theorem toValue?_isSome : ∀ d : Document, (toValue? d).isSome = true ↔ d.Legible
  | .null => ⟨fun _ => trivial, fun _ => rfl⟩
  | .bool _ => ⟨fun _ => trivial, fun _ => rfl⟩
  | .number n => by
    unfold toValue? Legible
    rw [Option.isSome_map]
  | .string s => by
    unfold toValue? Legible
    rw [Option.isSome_map]
  | .array ds => by
    unfold toValue? Legible
    rw [Option.isSome_map]
    exact toItems?_isSome ds
  | .object fs => by
    unfold toValue? Legible
    rw [Option.isSome_map]
    exact toFields?_isSome [] fs

theorem toItems?_isSome : ∀ ds : List Document, (toItems? ds).isSome = true ↔ ItemsLegible ds
  | [] => ⟨fun _ => trivial, fun _ => rfl⟩
  | d :: ds => by
    unfold toItems? ItemsLegible
    rw [← toValue?_isSome d, ← toItems?_isSome ds]
    cases toValue? d <;> simp

/-- What has been read before does not matter. -/
theorem toFields?_isSome : ∀ (read : List (String × Value)) (fs : List (Option String × Document)),
    (toFields? read fs).isSome = true ↔ FieldsLegible fs
  | _, [] => ⟨fun _ => trivial, fun _ => rfl⟩
  | _, (none, _) :: _ => by
    unfold toFields? FieldsLegible
    simp
  | read, (some k, d) :: fs => by
    unfold toFields? FieldsLegible
    rw [← toValue?_isSome d]
    cases toValue? d with
    | none => simp
    | some v => simp [toFields?_isSome (Table.insert k v read) fs]

end

end Document

/-! ## Section 2: What can be said of a text -/

/-- The text is a document that nests at most so many containers. -/
def NestsWithin (limit : Nat) (text : String) : Prop :=
  ∃ d, parse text = some d ∧ d.depth ≤ limit

/-- The text is a document in which every number and every string stands for one. -/
def IsLegible (text : String) : Prop :=
  ∃ d, parse text = some d ∧ d.Legible

mutual

/-- In every object of the value the keys ascend. -/
def InOrder : Value → Prop
  | .arr vs => ItemsInOrder vs
  | .obj fs => Table.Ascending fs ∧ FieldsInOrder fs
  | _ => True

/-- The same of items. -/
def ItemsInOrder : List Value → Prop
  | [] => True
  | v :: vs => InOrder v ∧ ItemsInOrder vs

/-- The same of fields, apart from their own order. -/
def FieldsInOrder : List (String × Value) → Prop
  | [] => True
  | (_, v) :: fs => InOrder v ∧ FieldsInOrder fs

end

mutual

/-- Values without floats come back, if the keys of their objects ascend. -/
theorem faithful_of_exact : ∀ v : Value, IsExact v → InOrder v → Faithful v
  | .null, _, _ => trivial
  | .bool _, _, _ => trivial
  | .int n, h, _ => h
  | .float x, h, _ => by
    unfold IsExact at h
    exact h.elim
  | .str _, _, _ => trivial
  | .arr vs, h, ho => by
    unfold IsExact at h
    unfold InOrder at ho
    unfold Faithful
    exact itemsFaithful_of_exact vs h ho
  | .obj fs, h, ho => by
    unfold IsExact at h
    unfold InOrder at ho
    unfold Faithful
    exact ⟨ho.1, fieldsFaithful_of_exact fs h ho.2⟩

theorem itemsFaithful_of_exact :
    ∀ vs : List Value, ItemsExact vs → ItemsInOrder vs → ItemsFaithful vs
  | [], _, _ => trivial
  | v :: vs, h, ho => by
    unfold ItemsExact at h
    unfold ItemsInOrder at ho
    unfold ItemsFaithful
    exact ⟨faithful_of_exact v h.1 ho.1, itemsFaithful_of_exact vs h.2 ho.2⟩

theorem fieldsFaithful_of_exact :
    ∀ fs : List (String × Value), FieldsExact fs → FieldsInOrder fs → FieldsFaithful fs
  | [], _, _ => trivial
  | (_, v) :: fs, h, ho => by
    unfold FieldsExact at h
    unfold FieldsInOrder at ho
    unfold FieldsFaithful
    exact ⟨faithful_of_exact v h.1 ho.1, fieldsFaithful_of_exact fs h.2 ho.2⟩

end

end Json

namespace Progress

open Json

/-! ## Section 3: The texts of a progress -/

section

variable (checkpointField : String) (p : Progress)

/-- The text of a progress, as it is read. -/
theorem parse_write : parse (String.ofList (p.write checkpointField))
    = some (p.documentWith checkpointField (transcript (.obj p.state))) :=
  (writes_progress checkpointField p).parse

theorem depth_history (ids : List PassageId) :
    (documentOf (.arr (ids.map fun id => .int id.toNat))).depth = 1 := by
  have hitems : Document.itemsDepth (documentsOf (ids.map fun id => .int id.toNat)) = 0 := by
    induction ids with
    | nil => rfl
    | cons id ids ih =>
      rw [List.map_cons, documentsOf, Document.itemsDepth, ih]
      rfl
  rw [documentOf, Document.depth, hitems]

theorem legible_history (ids : List PassageId) :
    (documentOf (.arr (ids.map fun id => .int id.toNat))).Legible := by
  rw [documentOf, Document.Legible]
  induction ids with
  | nil => trivial
  | cons id ids ih => exact ⟨rfl, ih⟩

/-- The text nests one deeper than the variables, which are an object themselves. -/
theorem depth_documentWith :
    (p.documentWith checkpointField (transcript (.obj p.state))).depth
      = (Value.obj p.state).depth + 1 := by
  have hpos : 1 ≤ (Value.obj p.state).depth := Nat.le_add_left 1 _
  have hcheckpoint : (Document.string (some p.checkpoint)).depth = 0 := rfl
  unfold documentWith
  rw [Document.depth]
  simp only [Document.fieldsDepth]
  rw [depth_transcript, depth_history, hcheckpoint]
  omega

theorem nestsWithin_write_iff :
    NestsWithin maxDepth (String.ofList (p.write checkpointField)) ↔
      (Value.obj p.state).depth ≤ maxDepth - 1 := by
  have hpos : 0 < maxDepth := by decide
  unfold NestsWithin
  rw [parse_write]
  simp only [Option.some.injEq, exists_eq_left', depth_documentWith]
  omega

/-- What is legible of the text depends on the variables only. -/
theorem isLegible_write_iff :
    IsLegible (String.ofList (p.write checkpointField)) ↔
      (Document.toFields? [] (fieldTranscripts p.state)).isSome = true := by
  unfold IsLegible
  rw [parse_write, Document.toFields?_isSome]
  simp only [Option.some.injEq, exists_eq_left']
  unfold documentWith
  constructor
  · rintro ⟨-, hstate, -⟩
    exact hstate
  · intro hstate
    exact ⟨rfl, hstate, rfl, legible_history p.history, rfl, rfl, trivial⟩

/-- Variables that come back are legible, whatever their text nests. -/
theorem isLegible_write_of_faithful (h : Faithful (.obj p.state)) :
    IsLegible (String.ofList (p.write checkpointField)) := by
  rw [Faithful, ← readBack?_eq_self, ← toFields?_eq_self] at h
  rw [isLegible_write_iff, h]
  rfl

/-- Variables without floats survive in a text that does not nest too deep. -/
theorem survives_of_nestsWithin (hexact : IsExact (.obj p.state)) (horder : InOrder (.obj p.state))
    (hnests : NestsWithin maxDepth (String.ofList (p.write checkpointField))) :
    StateBag.Survives p.state := by
  have hdepth := (nestsWithin_write_iff checkpointField p).1 hnests
  have hpos : 0 < maxDepth := by decide
  exact survives_iff.2 ⟨by omega, faithful_of_exact _ hexact horder⟩

end

/-- What the reader makes of a saved game without a visit: it first has to make sense of the
    variables. -/
theorem ofSavedText_unvisited {p : Progress} (hnil : p.history = []) :
    (NestsWithin maxDepth p.savedText ∧ IsLegible p.savedText →
        ofSavedText p.savedText = .error .emptyHistory) ∧
      (¬ (NestsWithin maxDepth p.savedText ∧ IsLegible p.savedText) →
        ofSavedText p.savedText = .error .malformed) := by
  have hnests := nestsWithin_write_iff savedField p
  have hlegible := isLegible_write_iff savedField p
  change NestsWithin maxDepth p.savedText ↔ _ at hnests
  change IsLegible p.savedText ↔ _ at hlegible
  rw [ofSavedText_savedText_eq, object?_transcript, hnests, hlegible]
  -- the reader looks at the nesting, then at the variables, and at the history last
  constructor
  · rintro ⟨hdepth, hread⟩
    obtain ⟨state, hstate⟩ := Option.isSome_iff_exists.1 hread
    rw [if_pos hdepth, hstate, hnil]
    rfl
  · intro h
    by_cases hdepth : (Value.obj p.state).depth ≤ maxDepth - 1
    · have hnone : Document.toFields? [] (fieldTranscripts p.state) = none := by
        rw [← Option.not_isSome_iff_eq_none]
        exact fun hread => h ⟨hdepth, hread⟩
      rw [if_pos hdepth, hnone]
    · rw [if_neg hdepth]

/-- **Progress survives its text.** Where the variables hold no float, in a text that nests
    at most 127 containers, a saved game with a visit and every entry of the browser history
    are read as they were written, whatever characters are in keys, strings and checkpoint.
    A saved game without a visit, whatever is in it, is refused for that, exactly if its text
    nests at most 127 containers and all its numbers can be read; else it is malformed. -/
theorem texts_read_back (p : Progress) :
    (IsExact (.obj p.state) → InOrder (.obj p.state) →
      (p.history ≠ [] → NestsWithin 127 p.savedText → ofSavedText p.savedText = .ok p) ∧
      (NestsWithin 127 p.entryText → ofEntryText? p.entryText = some p)) ∧
    (p.history = [] →
      (NestsWithin 127 p.savedText ∧ IsLegible p.savedText →
        ofSavedText p.savedText = .error .emptyHistory) ∧
      (¬ (NestsWithin 127 p.savedText ∧ IsLegible p.savedText) →
        ofSavedText p.savedText = .error .malformed)) := by
  refine ⟨fun hexact horder => ⟨fun hvisited hnests => ?_, fun hnests => ?_⟩, ?_⟩
  · have hsurvives := survives_of_nestsWithin savedField p hexact horder hnests
    exact ofSavedText_savedText hsurvives hvisited
  · have hsurvives := survives_of_nestsWithin entryField p hexact horder hnests
    exact ofText?_write (by decide) (by decide) hsurvives
  · intro hnil
    exact ofSavedText_unvisited hnil

end Progress

/-! ## Section 4: Two records -/

/-- A progress with quotes, backslashes, control characters and an old letter in its texts. -/
def oddProgress : Progress where
  state := [("\"\\\n", .str "\u0001 \u007f \\\" 𐍈"),
    ("a", .obj [("", .null), ("𐍈", .arr [.int (-9223372036854775808), .int 18446744073709551615])])]
  history := [4294967295, 0]
  checkpoint := "\t\"𐍈\\"

theorem oddProgress_exact : Json.IsExact (.obj oddProgress.state) := by
  refine ⟨trivial, ⟨trivial, ⟨?_, ?_, trivial⟩, trivial⟩, trivial⟩
  · constructor <;> decide
  · constructor <;> decide

theorem oddProgress_inOrder : Json.InOrder (.obj oddProgress.state) := by
  have houter : ("\"\\\n" : String) < "a" := by decide
  have hinner : ("" : String) < "𐍈" := by decide
  refine ⟨?_, trivial, ⟨?_, trivial, ⟨trivial, trivial, trivial⟩, trivial⟩, trivial⟩
  · exact List.Pairwise.cons (by simpa using houter) (List.pairwise_singleton _ _)
  · exact List.Pairwise.cons (by simpa using hinner) (List.pairwise_singleton _ _)

/-- It comes back in both forms, and without its visits as having none. -/
theorem Progress.texts_read_back_odd :
    Progress.ofSavedText oddProgress.savedText = .ok oddProgress ∧
      Progress.ofEntryText? oddProgress.entryText = some oddProgress ∧
      Progress.ofSavedText { oddProgress with history := [] }.savedText
        = .error .emptyHistory := by
  have hback := (Progress.texts_read_back oddProgress).1 oddProgress_exact oddProgress_inOrder
  have hnone := (Progress.texts_read_back { oddProgress with history := [] }).2 rfl
  refine ⟨hback.1 (by decide) ?_, hback.2 ?_, hnone.1 ⟨?_, ?_⟩⟩
  · exact (Progress.nestsWithin_write_iff _ _).2 (by decide)
  · exact (Progress.nestsWithin_write_iff _ _).2 (by decide)
  · exact (Progress.nestsWithin_write_iff _ _).2 (by decide)
  · exact Progress.isLegible_write_of_faithful _ _
      (Json.faithful_of_exact _ oddProgress_exact oddProgress_inOrder)

/-- A progress without a visit, with `n` lists in each other in the chest. -/
def chestProgress (n : Nat) : Progress where
  state := [("chest", .nested n)]
  history := []
  checkpoint := ""

/-- With 126 of them the saved game is malformed before it is without a visit. -/
theorem unvisited_malformed :
    Progress.ofSavedText (chestProgress 126).savedText = .error .malformed ∧
      ¬ ∀ p : Progress, p.history = [] →
        Progress.ofSavedText p.savedText = .error .emptyHistory := by
  have hdepth : (Value.obj (chestProgress 126).state).depth = 127 := by
    show (Value.obj [("chest", .nested 126)]).depth = 127
    unfold Value.depth Value.fieldsDepth Value.fieldsDepth
    rw [Value.depth_nested, Nat.max_zero]
  have hmalformed : Progress.ofSavedText (chestProgress 126).savedText = .error .malformed := by
    refine Progress.ofSavedText_of_deep ?_
    rw [hdepth]
    decide
  refine ⟨hmalformed, fun hall => ?_⟩
  cases hmalformed.symm.trans (hall _ rfl)

end Hyperfiction
