import Hyperfiction.Proofs.Table
import Hyperfiction.Proofs.Json.Writing

/-! # Values that come back from their text

    A value is read from its text as it was written exactly if its integers are within
    64 bits, the text of each of its floats stands for that float, and the fields of its
    objects are in the order of their keys. How deep a value nests does not matter to
    this, but readers take only so much, and the text nests as deep as the value.
-/

namespace Hyperfiction

/-! ## Section 1: Depth -/

namespace Value

mutual

/-- How many containers are open at once at the deepest place. -/
def depth : Value → Nat
  | .arr vs => itemsDepth vs + 1
  | .obj fs => fieldsDepth fs + 1
  | _ => 0

/-- The greatest depth of an item. -/
def itemsDepth : List Value → Nat
  | [] => 0
  | v :: vs => max (depth v) (itemsDepth vs)

/-- The greatest depth of a field. -/
def fieldsDepth : List (String × Value) → Nat
  | [] => 0
  | (_, v) :: fs => max (depth v) (fieldsDepth fs)

end

end Value

namespace Json

open Document (toValue? toItems? toFields?)

mutual

/-- The text of a value nests as deep as the value. -/
theorem depth_transcript : ∀ v : Value, (transcript v).depth = v.depth
  | .null => rfl
  | .bool _ => rfl
  | .int _ => rfl
  | .float _ => rfl
  | .str _ => rfl
  | .arr vs => by
    unfold transcript Document.depth Value.depth
    rw [itemsDepth_transcripts vs]
  | .obj fs => by
    unfold transcript Document.depth Value.depth
    rw [fieldsDepth_transcripts fs]

theorem itemsDepth_transcripts :
    ∀ vs : List Value, Document.itemsDepth (transcripts vs) = Value.itemsDepth vs
  | [] => rfl
  | v :: vs => by
    unfold transcripts Document.itemsDepth Value.itemsDepth
    rw [depth_transcript v, itemsDepth_transcripts vs]

theorem fieldsDepth_transcripts :
    ∀ fs : List (String × Value), Document.fieldsDepth (fieldTranscripts fs) = Value.fieldsDepth fs
  | [] => rfl
  | (k, v) :: fs => by
    unfold fieldTranscripts Document.fieldsDepth Value.fieldsDepth
    rw [depth_transcript v, fieldsDepth_transcripts fs]

end

/-! ## Section 2: Faithful values -/

mutual

/-- The integers are within 64 bits, the text of each float stands for that float, and
    the fields of each object are in the order of their keys. -/
def Faithful : Value → Prop
  | .int n => IsWord n
  | .float x => numberOf (floatLayout.ofFloat x) = some (.float x)
  | .arr vs => ItemsFaithful vs
  | .obj fs => Table.Ascending fs ∧ FieldsFaithful fs
  | _ => True

/-- The same of items. -/
def ItemsFaithful : List Value → Prop
  | [] => True
  | v :: vs => Faithful v ∧ ItemsFaithful vs

/-- The same of fields, apart from their order. -/
def FieldsFaithful : List (String × Value) → Prop
  | [] => True
  | (_, v) :: fs => Faithful v ∧ FieldsFaithful fs

end

/-- The fields as they are read from their texts, in the order of the texts. -/
def readBack? : List (String × Value) → Option (List (String × Value))
  | [] => some []
  | (k, v) :: fs =>
    match toValue? (transcript v) with
    | none => none
    | some w => (readBack? fs).map ((k, w) :: ·)

/-- The fields of an object are read one by one, and each finds its place. -/
theorem toFields?_transcripts (read fs : List (String × Value)) :
    toFields? read (fieldTranscripts fs) = (readBack? fs).map (Table.merge read) := by
  induction fs generalizing read with
  | nil => rfl
  | cons f fs ih =>
    obtain ⟨k, v⟩ := f
    unfold fieldTranscripts toFields? readBack?
    cases toValue? (transcript v) with
    | none => rfl
    | some w =>
      dsimp only
      rw [ih, Option.map_map]
      rfl

theorem keys_readBack? {fs ps : List (String × Value)} (h : readBack? fs = some ps) :
    ps.map Prod.fst = fs.map Prod.fst := by
  induction fs generalizing ps with
  | nil =>
    obtain rfl := Option.some.inj h
    rfl
  | cons f fs ih =>
    obtain ⟨k, v⟩ := f
    unfold readBack? at h
    cases hv : toValue? (transcript v) with
    | none => rw [hv] at h; cases h
    | some w =>
      rw [hv] at h
      obtain ⟨rest, hrest, rfl⟩ := Option.map_eq_some_iff.1 h
      rw [List.map_cons, List.map_cons, ih hrest]

theorem ascending_iff_keys {fs : Fields Value} :
    Table.Ascending fs ↔ (fs.map Prod.fst).Pairwise (· < ·) :=
  List.pairwise_map.symm

/-- Fields are read as they are exactly if they are in order and each is. -/
theorem toFields?_eq_self {fs : List (String × Value)} :
    toFields? [] (fieldTranscripts fs) = some fs ↔
      Table.Ascending fs ∧ readBack? fs = some fs := by
  rw [toFields?_transcripts]
  constructor
  · intro h
    obtain ⟨ps, hps, hmerge⟩ := Option.map_eq_some_iff.1 h
    have hfs : Table.Ascending fs := hmerge ▸ Table.ascending_ofPairs ps
    -- what was read has the same keys, so it was in order before it was put together
    have hpsAscending : Table.Ascending ps := by
      rw [ascending_iff_keys, keys_readBack? hps, ← ascending_iff_keys]
      exact hfs
    have hself : ps = fs := by
      rw [← hmerge]
      exact (Table.ofPairs_of_ascending hpsAscending).symm
    exact ⟨hfs, hself ▸ hps⟩
  · rintro ⟨hfs, hread⟩
    rw [hread, Option.map_some]
    exact congrArg some (Table.ofPairs_of_ascending hfs)

mutual

/-- The values that come back from their text are the faithful ones. -/
theorem toValue?_transcript : ∀ v : Value, toValue? (transcript v) = some v ↔ Faithful v
  | .null => ⟨fun _ => trivial, fun _ => rfl⟩
  | .bool _ => ⟨fun _ => trivial, fun _ => rfl⟩
  | .int n => by
    unfold transcript toValue? Faithful
    rw [← numberOf_ofInt]
    rcases numberOf (Decimal.ofInt n) with _ | m | x <;> simp
  | .float x => by
    unfold transcript toValue? Faithful
    rcases numberOf (floatLayout.ofFloat x) with _ | m | y <;> simp
  | .str _ => ⟨fun _ => trivial, fun _ => rfl⟩
  | .arr vs => by
    unfold transcript toValue? Faithful
    rw [← toItems?_transcripts vs]
    cases toItems? (transcripts vs) <;> simp
  | .obj fs => by
    -- the order of the keys is the one condition that the fields have together
    unfold transcript toValue? Faithful
    rw [← readBack?_eq_self fs, ← toFields?_eq_self]
    cases toFields? [] (fieldTranscripts fs) <;> simp

theorem toItems?_transcripts :
    ∀ vs : List Value, toItems? (transcripts vs) = some vs ↔ ItemsFaithful vs
  | [] => ⟨fun _ => trivial, fun _ => rfl⟩
  | v :: vs => by
    unfold transcripts toItems? ItemsFaithful
    rw [← toValue?_transcript v, ← toItems?_transcripts vs]
    cases toValue? (transcript v) <;> cases toItems? (transcripts vs) <;> simp

theorem readBack?_eq_self :
    ∀ fs : List (String × Value), readBack? fs = some fs ↔ FieldsFaithful fs
  | [] => ⟨fun _ => trivial, fun _ => rfl⟩
  | (k, v) :: fs => by
    unfold readBack? FieldsFaithful
    rw [← toValue?_transcript v, ← readBack?_eq_self fs]
    cases toValue? (transcript v) <;> cases readBack? fs <;> simp

end

end Json

end Hyperfiction
