import Hyperfiction.Proofs.Json.Numeral

/-! # Reading what was written

    The text of every value is read as a document that lists its parts in the order they
    are written, with the numbers that their texts stand for. If no float stands in the
    value, these are the numbers that were written. The fuel of the reader, twice the
    length of the text and two more, is enough for it.
-/

namespace Hyperfiction.Json

/-! ## Section 1: Values and their documents -/

mutual

/-- The document that the text of a value is read as. -/
def transcript : Value → Document
  | .null => .null
  | .bool b => .bool b
  | .int n => .number (numberOf (Decimal.ofInt n))
  | .float x => .number (numberOf (floatLayout.ofFloat x))
  | .str s => .string (some s)
  | .arr vs => .array (transcripts vs)
  | .obj fs => .object (fieldTranscripts fs)

/-- The documents of items. -/
def transcripts : List Value → List Document
  | [] => []
  | v :: vs => transcript v :: transcripts vs

/-- The documents of fields. -/
def fieldTranscripts : List (String × Value) → List (Option String × Document)
  | [] => []
  | (k, v) :: fs => (some k, transcript v) :: fieldTranscripts fs

end

mutual

/-- The document that holds the numbers of a value as they are. -/
def documentOf : Value → Document
  | .null => .null
  | .bool b => .bool b
  | .int n => .number (some (.int n))
  | .float x => .number (some (.float x))
  | .str s => .string (some s)
  | .arr vs => .array (documentsOf vs)
  | .obj fs => .object (fieldDocumentsOf fs)

/-- The documents of items. -/
def documentsOf : List Value → List Document
  | [] => []
  | v :: vs => documentOf v :: documentsOf vs

/-- The documents of fields. -/
def fieldDocumentsOf : List (String × Value) → List (Option String × Document)
  | [] => []
  | (k, v) :: fs => (some k, documentOf v) :: fieldDocumentsOf fs

end

mutual

/-- No float stands in the value, and its integers are those that JSON keeps. -/
def IsExact : Value → Prop
  | .int n => IsWord n
  | .float _ => False
  | .arr vs => ItemsExact vs
  | .obj fs => FieldsExact fs
  | _ => True

/-- The same of items. -/
def ItemsExact : List Value → Prop
  | [] => True
  | v :: vs => IsExact v ∧ ItemsExact vs

/-- The same of fields. -/
def FieldsExact : List (String × Value) → Prop
  | [] => True
  | (_, v) :: fs => IsExact v ∧ FieldsExact fs

end

/-! ## Section 2: Written values -/

/-- The text is read as the document with the fuel that a reader gives it. -/
def Writes (cs : List Char) (d : Document) : Prop :=
  ReadsAt (2 * cs.length + 2) cs d

theorem ReadsAt.writes {n : Nat} {cs : List Char} {d : Document} (h : ReadsAt n cs d)
    (hn : n ≤ 2 * cs.length + 2) : Writes cs d :=
  ReadsAt.mono h hn

theorem noBlanks : ∀ c ∈ ([] : List Char), isSpace c = true := by
  intro c hc
  cases hc

theorem writes_string (s : String) : Writes (writeString s.toList) (.string (some s)) := by
  have h := (stringAt_write s.toList).readsAt
  rw [String.ofList_toList] at h
  exact h.writes (by omega)

theorem writeString_keyed (k : String) (value : List Char) :
    writeString k.toList ++ ':' :: value
      = keyed [] (k.toList.flatMap writeChar ++ ['\"']) [] value := by
  unfold writeString keyed
  simp

theorem stringAt_key (k : String) :
    StringAt (k.toList.flatMap writeChar ++ ['\"']) (some k) := by
  have h := stringAt_write k.toList
  rw [String.ofList_toList] at h
  exact h

section

variable {n m : Nat} {cs rest : List Char} {d : Document}

theorem Writes.lastItem (h : Writes cs d) :
    ItemsAt (2 * (cs ++ [']']).length + 2) (cs ++ [']']) [d] := by
  have hitems := ReadsAt.lastItem h noBlanks
  refine hitems.mono ?_
  simp only [List.length_append, List.length_cons, List.length_nil]
  omega

theorem Writes.item (h : Writes cs d) {ds : List Document}
    (hrest : ItemsAt (2 * rest.length + 2) rest ds) :
    ItemsAt (2 * (cs ++ ',' :: rest).length + 2) (cs ++ ',' :: rest) (d :: ds) := by
  have hitems := ReadsAt.item h noBlanks hrest
  refine hitems.mono ?_
  simp only [List.length_append, List.length_cons]
  omega

theorem Writes.lastField (h : Writes cs d) (k : String) :
    FieldsAt (2 * (writeString k.toList ++ ':' :: (cs ++ ['\x7d'])).length + 2)
      (writeString k.toList ++ ':' :: (cs ++ ['\x7d'])) [(some k, d)] := by
  have hfields := ReadsAt.lastField h noBlanks (stringAt_key k) noBlanks noBlanks
  rw [List.nil_append, ← writeString_keyed] at hfields
  refine hfields.mono ?_
  simp only [List.length_append, List.length_cons, List.length_nil]
  omega

theorem Writes.field (h : Writes cs d) (k : String) {fs : List (Option String × Document)}
    (hrest : FieldsAt (2 * rest.length + 2) rest fs) :
    FieldsAt (2 * (writeString k.toList ++ ':' :: (cs ++ ',' :: rest)).length + 2)
      (writeString k.toList ++ ':' :: (cs ++ ',' :: rest)) ((some k, d) :: fs) := by
  have hfields := ReadsAt.field h noBlanks (stringAt_key k) noBlanks noBlanks hrest
  rw [List.nil_append, ← writeString_keyed] at hfields
  refine hfields.mono ?_
  simp only [List.length_append, List.length_cons]
  omega

theorem ItemsAt.writes {ds : List Document} (h : ItemsAt (2 * cs.length + 2) cs ds) :
    Writes ('[' :: cs) (.array ds) := by
  refine h.readsAt.writes ?_
  simp only [List.length_cons]
  omega

theorem FieldsAt.writes {fs : List (Option String × Document)}
    (h : FieldsAt (2 * cs.length + 2) cs fs) : Writes ('\x7b' :: cs) (.object fs) := by
  refine h.readsAt.writes ?_
  simp only [List.length_cons]
  omega

end

mutual

/-- Every value is read as its transcript. -/
theorem writes_transcript : ∀ v : Value, Writes (write v) (transcript v)
  | .null => by
    unfold write transcript
    exact readsAt_null.writes (by omega)
  | .bool true => by
    unfold write transcript
    exact readsAt_true.writes (by omega)
  | .bool false => by
    unfold write transcript
    exact readsAt_false.writes (by omega)
  | .int n => by
    unfold write transcript
    exact (isNumeral_ofInt n).readsAt.writes (by omega)
  | .float x => by
    unfold write transcript
    exact (isNumeral_ofFloat x).readsAt.writes (by omega)
  | .str s => by
    unfold write transcript
    exact writes_string s
  | .arr [] => by
    unfold write transcript transcripts
    exact (readsAt_emptyArray noBlanks).writes (by omega)
  | .arr (v :: vs) => by
    unfold write transcript transcripts
    exact (itemsAt_transcripts (writes_transcript v) vs).writes
  | .obj [] => by
    unfold write transcript fieldTranscripts
    exact (readsAt_emptyObject noBlanks).writes (by omega)
  | .obj ((k, v) :: fs) => by
    unfold write transcript fieldTranscripts
    exact (fieldsAt_transcripts k (writes_transcript v) fs).writes

theorem itemsAt_transcripts {cs : List Char} {d : Document} (hcs : Writes cs d) :
    ∀ vs : List Value,
      ItemsAt (2 * (cs ++ writeItems vs).length + 2) (cs ++ writeItems vs) (d :: transcripts vs)
  | [] => by
    unfold writeItems transcripts
    exact hcs.lastItem
  | v :: vs => by
    unfold writeItems transcripts
    exact hcs.item (itemsAt_transcripts (writes_transcript v) vs)

theorem fieldsAt_transcripts {cs : List Char} {d : Document} (k : String) (hcs : Writes cs d) :
    ∀ fs : List (String × Value),
      FieldsAt (2 * (writeString k.toList ++ ':' :: (cs ++ writeFields fs)).length + 2)
        (writeString k.toList ++ ':' :: (cs ++ writeFields fs))
        ((some k, d) :: fieldTranscripts fs)
  | [] => by
    unfold writeFields fieldTranscripts
    exact hcs.lastField k
  | (k', v) :: fs => by
    unfold writeFields fieldTranscripts
    exact hcs.field k (fieldsAt_transcripts k' (writes_transcript v) fs)

end

mutual

/-- Without floats the numbers are read as they are. -/
theorem transcript_of_exact : ∀ v : Value, IsExact v → transcript v = documentOf v
  | .null, _ => rfl
  | .bool _, _ => rfl
  | .int n, h => by
    unfold IsExact at h
    unfold transcript documentOf
    rw [(numberOf_ofInt n).2 h]
  | .float x, h => by
    unfold IsExact at h
    exact h.elim
  | .str _, _ => rfl
  | .arr vs, h => by
    unfold IsExact at h
    unfold transcript documentOf
    rw [transcripts_of_exact vs h]
  | .obj fs, h => by
    unfold IsExact at h
    unfold transcript documentOf
    rw [fieldTranscripts_of_exact fs h]

theorem transcripts_of_exact : ∀ vs : List Value, ItemsExact vs → transcripts vs = documentsOf vs
  | [], _ => rfl
  | v :: vs, h => by
    unfold ItemsExact at h
    unfold transcripts documentsOf
    rw [transcript_of_exact v h.1, transcripts_of_exact vs h.2]

theorem fieldTranscripts_of_exact : ∀ fs : List (String × Value), FieldsExact fs →
    fieldTranscripts fs = fieldDocumentsOf fs
  | [], _ => rfl
  | (k, v) :: fs, h => by
    unfold FieldsExact at h
    unfold fieldTranscripts fieldDocumentsOf
    rw [transcript_of_exact v h.1, fieldTranscripts_of_exact fs h.2]

end

/-- A value without floats is read as its document. -/
theorem writes_write (v : Value) (h : IsExact v) : Writes (write v) (documentOf v) := by
  have hwrites := writes_transcript v
  rw [transcript_of_exact v h] at hwrites
  exact hwrites

/-! ## Section 3: Whole texts -/

theorem Writes.parse {cs : List Char} {d : Document} (h : Writes cs d) :
    parse (String.ofList cs) = some d := by
  have hread := h (2 * cs.length + 2) [] (Nat.le_refl _) (by intro c rest hc; cases hc)
  rw [List.append_nil] at hread
  unfold Json.parse parseChars
  rw [String.toList_ofList, hread]
  rfl

/-- The whole text of a value is read as its transcript. -/
theorem parse_text (v : Value) : parse (text v) = some (transcript v) :=
  (writes_transcript v).parse

end Hyperfiction.Json
