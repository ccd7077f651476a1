import Hyperfiction.Proofs.Json.Text
import Mathlib.Data.List.DropRight
import Mathlib.Data.List.TakeWhile

/-! # Reading JSON piece by piece

    A document is read from its own characters, whatever follows them. `ReadsAt n cs d`
    says that `cs` is read as `d` with fuel `n` or more, in front of every text that is
    not more of a number; items and fields have the same. These compose as the grammar
    does, and whatever is read as a number is read from such characters.
-/

namespace Hyperfiction.Json

/-! ## Section 1: Blanks -/

theorem skipSpace_cons {c : Char} (h : isSpace c = false) (cs : List Char) :
    skipSpace (c :: cs) = c :: cs := by
  unfold skipSpace
  rw [List.dropWhile_cons, h]
  rfl

theorem skipSpace_append {blanks : List Char} (h : ∀ c ∈ blanks, isSpace c = true)
    (cs : List Char) : skipSpace (blanks ++ cs) = skipSpace cs := by
  unfold skipSpace
  rw [List.dropWhile_append_of_pos h]

/-! ## Section 2: Characters that are read as something -/

/-- `cs` is read as `d` in front of every text that is not more of a number. -/
def ReadsAt (n : Nat) (cs : List Char) (d : Document) : Prop :=
  ∀ fuel tail, n ≤ fuel → EndsNumber tail → readDocument fuel (cs ++ tail) = some (d, tail)

/-- `cs` is read as the items `ds` and the closing bracket. -/
def ItemsAt (n : Nat) (cs : List Char) (ds : List Document) : Prop :=
  ∀ fuel tail, n ≤ fuel → readItems fuel (cs ++ tail) = some (ds, tail)

/-- `cs` is read as the fields `fs` and the closing brace. -/
def FieldsAt (n : Nat) (cs : List Char) (fs : List (Option String × Document)) : Prop :=
  ∀ fuel tail, n ≤ fuel → readFields fuel (cs ++ tail) = some (fs, tail)

/-- `cs` is read as a string after its opening quote. -/
def StringAt (cs : List Char) (s : Option String) : Prop :=
  ∀ tail, readString (cs ++ tail) = some (s, tail)

theorem stringAt_write (cs : List Char) :
    StringAt (cs.flatMap writeChar ++ ['\"']) (some (String.ofList cs)) := by
  intro tail
  rw [List.append_assoc]
  exact readString_write cs tail

theorem ReadsAt.mono {n m : Nat} {cs : List Char} {d : Document} (h : ReadsAt n cs d)
    (hnm : n ≤ m) : ReadsAt m cs d :=
  fun fuel tail hm ht => h fuel tail (Nat.le_trans hnm hm) ht

theorem ItemsAt.mono {n m : Nat} {cs : List Char} {ds : List Document} (h : ItemsAt n cs ds)
    (hnm : n ≤ m) : ItemsAt m cs ds :=
  fun fuel tail hm => h fuel tail (Nat.le_trans hnm hm)

theorem FieldsAt.mono {n m : Nat} {cs : List Char} {fs : List (Option String × Document)}
    (h : FieldsAt n cs fs) (hnm : n ≤ m) : FieldsAt m cs fs :=
  fun fuel tail hm => h fuel tail (Nat.le_trans hnm hm)

/-- Reading starts after the blanks. -/
theorem readDocument_skipSpace (fuel : Nat) (cs : List Char) :
    readDocument fuel (skipSpace cs) = readDocument fuel cs := by
  have htwice : skipSpace (skipSpace cs) = skipSpace cs := by
    unfold skipSpace
    exact List.dropWhile_idempotent _ _
  cases fuel with
  | zero => rfl
  | succ fuel =>
    unfold readDocument
    rw [htwice]

/-! ## Section 3: Composing -/

theorem ReadsAt.blank {n : Nat} {cs blanks : List Char} {d : Document}
    (hb : ∀ c ∈ blanks, isSpace c = true) (h : ReadsAt n cs d) : ReadsAt n (blanks ++ cs) d := by
  intro fuel tail hn ht
  rw [← readDocument_skipSpace, List.append_assoc, skipSpace_append hb, readDocument_skipSpace]
  exact h fuel tail hn ht

theorem readsAt_null : ReadsAt 1 ['n', 'u', 'l', 'l'] .null := by
  intro fuel tail hn _
  obtain ⟨fuel, rfl⟩ := Nat.exists_eq_add_of_le' hn
  rfl

theorem readsAt_true : ReadsAt 1 ['t', 'r', 'u', 'e'] (.bool true) := by
  intro fuel tail hn _
  obtain ⟨fuel, rfl⟩ := Nat.exists_eq_add_of_le' hn
  rfl

theorem readsAt_false : ReadsAt 1 ['f', 'a', 'l', 's', 'e'] (.bool false) := by
  intro fuel tail hn _
  obtain ⟨fuel, rfl⟩ := Nat.exists_eq_add_of_le' hn
  rfl

theorem StringAt.readsAt {cs : List Char} {s : Option String} (h : StringAt cs s) :
    ReadsAt 1 ('\"' :: cs) (.string s) := by
  intro fuel tail hn _
  obtain ⟨fuel, rfl⟩ := Nat.exists_eq_add_of_le' hn
  show (readString (cs ++ tail)).map (fun p => (Document.string p.1, p.2)) = _
  rw [h tail]
  rfl

/-- A character that a number starts with. -/
def StartsNumber (c : Char) : Prop :=
  isDigit c = true ∨ c = '-'

theorem readDocument_number {c : Char} (h : StartsNumber c) (fuel : Nat) (cs : List Char) :
    readDocument (fuel + 1) (c :: cs)
      = (readNumber (c :: cs)).map fun p => (.number p.1, p.2) := by
  have hspace : isSpace c = false := by
    rcases h with h | rfl
    · cases hs : isSpace c with
      | false => rfl
      | true =>
        unfold isSpace at hs
        simp only [Bool.or_eq_true, decide_eq_true_eq] at hs
        rcases hs with ((rfl | rfl) | rfl) | rfl <;> exact absurd h (by decide)
    · rfl
  -- no other document starts with this character
  have hother : ∀ c' ∈ ['n', 't', 'f', '\"', '[', '\x7b'], c ≠ c' := by
    rintro c' hc' rfl
    rcases h with h | rfl
    · simp only [List.mem_cons, List.not_mem_nil, or_false] at hc'
      rcases hc' with rfl | rfl | rfl | rfl | rfl | rfl <;> exact absurd h (by decide)
    · exact absurd hc' (by decide)
  unfold readDocument
  rw [skipSpace_cons hspace]
  split
  case h_7 => rfl
  all_goals
    rename_i heq
    exact absurd (List.cons.inj heq).1 (hother _ (by simp))

/-- Items do not start with the closing bracket, and fields not with the closing brace. -/
theorem skipSpace_of_readItems {fuel : Nat} {cs : List Char} {r : List Document × List Char}
    (h : readItems fuel cs = some r) (rest : List Char) : skipSpace cs ≠ ']' :: rest := by
  intro hs
  cases fuel with
  | zero => cases h
  | succ fuel =>
    -- an item is a document, and none starts with the closing bracket
    unfold readItems at h
    rw [← readDocument_skipSpace, hs] at h
    cases fuel with
    | zero => cases h
    | succ fuel =>
      have hclose : readDocument (fuel + 1) (']' :: rest) = none := rfl
      rw [hclose] at h
      cases h

theorem skipSpace_of_readFields {fuel : Nat} {cs : List Char}
    {r : List (Option String × Document) × List Char} (h : readFields fuel cs = some r)
    (rest : List Char) : skipSpace cs ≠ '\x7d' :: rest := by
  intro hs
  cases fuel with
  | zero => cases h
  | succ fuel =>
    unfold readFields at h
    rw [hs] at h
    cases h

theorem readDocument_bracket (fuel : Nat) (cs : List Char) :
    readDocument (fuel + 1) ('[' :: cs) =
      match skipSpace cs with
      | ']' :: cs => some (.array [], cs)
      | _ => (readItems fuel cs).map fun p : List Document × List Char => (.array p.1, p.2) := by
  rw [readDocument, skipSpace_cons rfl]
  rfl

theorem readDocument_brace (fuel : Nat) (cs : List Char) :
    readDocument (fuel + 1) ('\x7b' :: cs) =
      match skipSpace cs with
      | '\x7d' :: cs => some (.object [], cs)
      | _ => (readFields fuel cs).map fun p : List (Option String × Document) × List Char =>
          (.object p.1, p.2) := by
  rw [readDocument, skipSpace_cons rfl]
  rfl

theorem readsAt_emptyArray {blanks : List Char} (hb : ∀ c ∈ blanks, isSpace c = true) :
    ReadsAt 1 ('[' :: (blanks ++ [']'])) (.array []) := by
  intro fuel tail hn _
  obtain ⟨fuel, rfl⟩ := Nat.exists_eq_add_of_le' hn
  rw [List.cons_append, readDocument_bracket, List.append_assoc, skipSpace_append hb]
  rfl

theorem readsAt_emptyObject {blanks : List Char} (hb : ∀ c ∈ blanks, isSpace c = true) :
    ReadsAt 1 ('\x7b' :: (blanks ++ ['\x7d'])) (.object []) := by
  intro fuel tail hn _
  obtain ⟨fuel, rfl⟩ := Nat.exists_eq_add_of_le' hn
  rw [List.cons_append, readDocument_brace, List.append_assoc, skipSpace_append hb]
  rfl

theorem ItemsAt.readsAt {n : Nat} {cs : List Char} {ds : List Document} (h : ItemsAt n cs ds) :
    ReadsAt (n + 1) ('[' :: cs) (.array ds) := by
  intro fuel tail hn _
  obtain ⟨fuel, rfl⟩ := Nat.exists_eq_add_of_le' (Nat.le_trans (Nat.le_add_left 1 n) hn)
  have hread := h fuel tail (by omega)
  rw [List.cons_append, readDocument_bracket]
  split
  · rename_i hs
    exact absurd hs (skipSpace_of_readItems hread _)
  · rw [hread]
    rfl

theorem FieldsAt.readsAt {n : Nat} {cs : List Char} {fs : List (Option String × Document)}
    (h : FieldsAt n cs fs) : ReadsAt (n + 1) ('\x7b' :: cs) (.object fs) := by
  intro fuel tail hn _
  obtain ⟨fuel, rfl⟩ := Nat.exists_eq_add_of_le' (Nat.le_trans (Nat.le_add_left 1 n) hn)
  have hread := h fuel tail (by omega)
  rw [List.cons_append, readDocument_brace]
  split
  · rename_i hs
    exact absurd hs (skipSpace_of_readFields hread _)
  · rw [hread]
    rfl

/-- No number goes on over a blank or the given character. -/
theorem endsNumber_blanks {blanks : List Char} (hb : ∀ c ∈ blanks, isSpace c = true) {c : Char}
    (hc : isDigit c = false ∧ c ≠ '.' ∧ c ≠ 'e' ∧ c ≠ 'E') (tail : List Char) :
    EndsNumber (blanks ++ c :: tail) := by
  intro c' rest heq
  cases blanks with
  | nil =>
    obtain ⟨rfl, -⟩ := List.cons.inj heq
    exact hc
  | cons b bs =>
    obtain ⟨rfl, -⟩ := List.cons.inj heq
    have hspace := hb b (by simp)
    unfold isSpace at hspace
    simp only [Bool.or_eq_true, decide_eq_true_eq] at hspace
    rcases hspace with ((rfl | rfl) | rfl) | rfl <;> decide

section

variable {n m : Nat} {cs blanks : List Char} {d : Document}

theorem ReadsAt.lastItem (h : ReadsAt n cs d) (hb : ∀ c ∈ blanks, isSpace c = true) :
    ItemsAt (n + 1) (cs ++ (blanks ++ [']'])) [d] := by
  intro fuel tail hn
  obtain ⟨fuel, rfl⟩ := Nat.exists_eq_add_of_le' (Nat.le_trans (Nat.le_add_left 1 n) hn)
  have hread := h fuel _ (by omega) (endsNumber_blanks hb (c := ']') (by decide) tail)
  have htext : cs ++ (blanks ++ [']']) ++ tail = cs ++ (blanks ++ ']' :: tail) := by simp
  rw [htext, readItems, hread]
  dsimp only
  rw [skipSpace_append hb, skipSpace_cons rfl]
  rfl

theorem ReadsAt.item (h : ReadsAt n cs d) (hb : ∀ c ∈ blanks, isSpace c = true)
    {rest : List Char} {ds : List Document} (hrest : ItemsAt m rest ds) :
    ItemsAt (max n m + 1) (cs ++ (blanks ++ ',' :: rest)) (d :: ds) := by
  intro fuel tail hn
  obtain ⟨fuel, rfl⟩ := Nat.exists_eq_add_of_le' (Nat.le_trans (Nat.le_add_left 1 _) hn)
  have hread := h fuel _ (by omega) (endsNumber_blanks hb (c := ',') (by decide) (rest ++ tail))
  have hmore := hrest fuel tail (by omega)
  have htext : cs ++ (blanks ++ ',' :: rest) ++ tail = cs ++ (blanks ++ ',' :: (rest ++ tail)) := by
    simp
  rw [htext, readItems, hread]
  dsimp only
  rw [skipSpace_append hb, skipSpace_cons rfl]
  show (readItems fuel (rest ++ tail)).map
    (fun p : List Document × List Char => (d :: p.1, p.2)) = _
  rw [hmore]
  rfl

/-- A key with its quote and the colon, blanks before either, in front of its value; the
    closing quote is the last character of `key`. -/
def keyed (before key between value : List Char) : List Char :=
  before ++ '\"' :: (key ++ (between ++ ':' :: value))

theorem keyed_append (before key between value tail : List Char) :
    keyed before key between value ++ tail = keyed before key between (value ++ tail) := by
  unfold keyed
  simp only [List.append_assoc, List.cons_append]

variable {before key between : List Char} {k : Option String}

/-- What is read of a field before its value. -/
theorem readFields_keyed (hbefore : ∀ c ∈ before, isSpace c = true) (hkey : StringAt key k)
    (hbetween : ∀ c ∈ between, isSpace c = true) (fuel : Nat) (value : List Char) :
    readFields (fuel + 1) (keyed before key between value) =
      match readDocument fuel value with
      | none => none
      | some (d, cs) =>
        match skipSpace cs with
        | '\x7d' :: cs => some ([(k, d)], cs)
        | ',' :: cs => (readFields fuel cs).map
            fun p : List (Option String × Document) × List Char => ((k, d) :: p.1, p.2)
        | _ => none := by
  unfold keyed
  rw [readFields, skipSpace_append hbefore, skipSpace_cons rfl]
  split
  · rename_i rest heq
    obtain ⟨-, rfl⟩ := List.cons.inj heq
    rw [hkey]
    dsimp only
    rw [skipSpace_append hbetween, skipSpace_cons rfl]
    rfl
  · rename_i hother
    exact absurd rfl (hother _)

theorem ReadsAt.lastField (h : ReadsAt n cs d) (hbefore : ∀ c ∈ before, isSpace c = true)
    (hkey : StringAt key k) (hbetween : ∀ c ∈ between, isSpace c = true)
    (hb : ∀ c ∈ blanks, isSpace c = true) :
    FieldsAt (n + 1) (keyed before key between (cs ++ (blanks ++ ['\x7d']))) [(k, d)] := by
  intro fuel tail hn
  obtain ⟨fuel, rfl⟩ := Nat.exists_eq_add_of_le' (Nat.le_trans (Nat.le_add_left 1 n) hn)
  have hread := h fuel _ (by omega) (endsNumber_blanks hb (c := '\x7d') (by decide) tail)
  have htext : cs ++ (blanks ++ ['\x7d']) ++ tail = cs ++ (blanks ++ '\x7d' :: tail) := by simp
  rw [keyed_append, readFields_keyed hbefore hkey hbetween, htext, hread]
  dsimp only
  rw [skipSpace_append hb, skipSpace_cons rfl]
  rfl

theorem ReadsAt.field (h : ReadsAt n cs d) (hbefore : ∀ c ∈ before, isSpace c = true)
    (hkey : StringAt key k) (hbetween : ∀ c ∈ between, isSpace c = true)
    (hb : ∀ c ∈ blanks, isSpace c = true) {rest : List Char}
    {fs : List (Option String × Document)} (hrest : FieldsAt m rest fs) :
    FieldsAt (max n m + 1) (keyed before key between (cs ++ (blanks ++ ',' :: rest)))
      ((k, d) :: fs) := by
  intro fuel tail hn
  obtain ⟨fuel, rfl⟩ := Nat.exists_eq_add_of_le' (Nat.le_trans (Nat.le_add_left 1 _) hn)
  have hread := h fuel _ (by omega) (endsNumber_blanks hb (c := ',') (by decide) (rest ++ tail))
  have hmore := hrest fuel tail (by omega)
  have htext : cs ++ (blanks ++ ',' :: rest) ++ tail = cs ++ (blanks ++ ',' :: (rest ++ tail)) := by
    simp
  rw [keyed_append, readFields_keyed hbefore hkey hbetween, htext, hread]
  dsimp only
  rw [skipSpace_append hb, skipSpace_cons rfl]
  show (readFields fuel (rest ++ tail)).map
    (fun p : List (Option String × Document) × List Char => ((k, d) :: p.1, p.2)) = _
  rw [hmore]
  rfl

end

/-! ## Section 4: Numbers that are read -/

theorem readDigits_uses {cs ds rest : List Char} (h : readDigits cs = some (ds, rest)) :
    cs = ds ++ rest ∧ (∃ d ds', ds = d :: ds' ∧ isDigit d = true) ∧
      ∀ tail, EndsDigits tail → readDigits (ds ++ tail) = some (ds, tail) := by
  unfold readDigits at h
  cases htake : cs.takeWhile isDigit with
  | nil =>
    rw [htake] at h
    cases h
  | cons d ds' =>
    rw [htake] at h
    obtain ⟨rfl, rfl⟩ := Prod.mk.inj (Option.some.inj h)
    have hdigits : ∀ c ∈ d :: ds', isDigit c = true := by
      intro c hc
      rw [← htake] at hc
      exact List.mem_takeWhile_imp hc
    refine ⟨?_, ⟨d, ds', rfl, hdigits d (by simp)⟩, ?_⟩
    · rw [← htake]
      exact List.takeWhile_append_dropWhile.symm
    · intro tail ht
      exact readDigits_append hdigits (List.cons_ne_nil _ _) ht

theorem readWhole_uses {cs ds rest : List Char} (h : readWhole cs = some (ds, rest)) :
    cs = ds ++ rest ∧ (∃ d ds', ds = d :: ds' ∧ isDigit d = true) ∧
      ∀ tail, EndsDigits tail → readWhole (ds ++ tail) = some (ds, tail) := by
  have hdigits : readDigits cs = some (ds, rest) := by
    unfold readWhole at h
    split at h
    · cases h
    · exact h
  obtain ⟨hcs, hstart, hread⟩ := readDigits_uses hdigits
  refine ⟨hcs, hstart, fun tail ht => ?_⟩
  unfold readWhole at h ⊢
  rw [hread tail ht]
  rw [hdigits] at h
  -- the digits decide alone whether there are too many of them
  split
  · rename_i heq
    obtain ⟨rfl, -⟩ := Prod.mk.inj (Option.some.inj heq)
    cases h
  · rfl

theorem readFraction_uses {cs rest : List Char} {f : Option (List Char)}
    (h : readFraction cs = some (f, rest)) :
    ∃ used, cs = used ++ rest ∧ ∀ tail, EndsWhole tail →
      EndsDigits (used ++ tail) ∧ readFraction (used ++ tail) = some (f, tail) := by
  unfold readFraction at h
  split at h
  · rename_i cs'
    obtain ⟨⟨ds, rest'⟩, hr, heq⟩ := Option.map_eq_some_iff.1 h
    obtain ⟨rfl, rfl⟩ := Prod.mk.inj heq
    obtain ⟨hcs, -, hread⟩ := readDigits_uses hr
    refine ⟨'.' :: ds, by rw [hcs]; rfl, fun tail ht => ⟨?_, ?_⟩⟩
    · intro c r hc
      obtain ⟨rfl, -⟩ := List.cons.inj hc
      rfl
    · show (readDigits (ds ++ tail)).map
        (fun p : List Char × List Char => (some p.1, p.2)) = _
      rw [hread tail ht.endsDigits]
      rfl
  · obtain ⟨rfl, rfl⟩ := Prod.mk.inj (Option.some.inj h)
    exact ⟨[], rfl, fun tail ht => ⟨ht.endsDigits, readFraction_of_ends ht⟩⟩

theorem readPower_uses {cs rest : List Char} {x : Option Int}
    (h : readPower cs = some (x, rest)) :
    ∃ used, cs = used ++ rest ∧
      ∀ tail, EndsDigits tail → readPower (used ++ tail) = some (x, tail) := by
  unfold readPower at h
  split at h
  · obtain ⟨⟨ds, rest'⟩, hr, heq⟩ := Option.map_eq_some_iff.1 h
    obtain ⟨rfl, rfl⟩ := Prod.mk.inj heq
    obtain ⟨hcs, -, hread⟩ := readDigits_uses hr
    refine ⟨'-' :: ds, by rw [hcs]; rfl, fun tail ht => ?_⟩
    show (readDigits (ds ++ tail)).map
      (fun p : List Char × List Char => (some (-(ofDigits p.1 : Int)), p.2)) = _
    rw [hread tail ht]
    rfl
  · obtain ⟨⟨ds, rest'⟩, hr, heq⟩ := Option.map_eq_some_iff.1 h
    obtain ⟨rfl, rfl⟩ := Prod.mk.inj heq
    obtain ⟨hcs, -, hread⟩ := readDigits_uses hr
    refine ⟨'+' :: ds, by rw [hcs]; rfl, fun tail ht => ?_⟩
    show (readDigits (ds ++ tail)).map
      (fun p : List Char × List Char => (some (ofDigits p.1 : Int), p.2)) = _
    rw [hread tail ht]
    rfl
  · -- without a sign the first digit must not be taken for one
    obtain ⟨⟨ds, rest'⟩, hr, heq⟩ := Option.map_eq_some_iff.1 h
    obtain ⟨rfl, rfl⟩ := Prod.mk.inj heq
    obtain ⟨hcs, ⟨d, ds', rfl, hd⟩, hread⟩ := readDigits_uses hr
    refine ⟨d :: ds', hcs, fun tail ht => ?_⟩
    have hsign : ∀ c ∈ ['-', '+'], d ≠ c := by
      rintro c hc rfl
      simp only [List.mem_cons, List.not_mem_nil, or_false] at hc
      rcases hc with rfl | rfl <;> exact absurd hd (by decide)
    have hread' := hread tail ht
    unfold readPower
    rw [List.cons_append] at hread' ⊢
    split
    · rename_i heq
      exact absurd (List.cons.inj heq).1 (hsign _ (by simp))
    · rename_i heq
      exact absurd (List.cons.inj heq).1 (hsign _ (by simp))
    · rw [hread']
      rfl

theorem readExponent_uses {cs rest : List Char} {x : Option Int}
    (h : readExponent cs = some (x, rest)) :
    ∃ used, cs = used ++ rest ∧ ∀ tail, EndsNumber tail →
      EndsWhole (used ++ tail) ∧ readExponent (used ++ tail) = some (x, tail) := by
  unfold readExponent at h
  split at h
  · obtain ⟨used, rfl, hread⟩ := readPower_uses h
    refine ⟨'e' :: used, rfl, fun tail ht => ⟨?_, hread tail ht.endsDigits⟩⟩
    intro c r hc
    obtain ⟨rfl, -⟩ := List.cons.inj hc
    decide
  · obtain ⟨used, rfl, hread⟩ := readPower_uses h
    refine ⟨'E' :: used, rfl, fun tail ht => ⟨?_, hread tail ht.endsDigits⟩⟩
    intro c r hc
    obtain ⟨rfl, -⟩ := List.cons.inj hc
    decide
  · obtain ⟨rfl, rfl⟩ := Prod.mk.inj (Option.some.inj h)
    exact ⟨[], rfl, fun tail ht => ⟨ht.endsWhole, readExponent_of_ends ht⟩⟩

theorem readUnsigned_uses {negative : Bool} {cs rest : List Char} {n : Option Number}
    (h : readUnsigned negative cs = some (n, rest)) :
    ∃ used, cs = used ++ rest ∧ (∃ d cs', used = d :: cs' ∧ isDigit d = true) ∧
      ∀ tail, EndsNumber tail → readUnsigned negative (used ++ tail) = some (n, tail) := by
  unfold readUnsigned at h
  obtain ⟨⟨whole, cs₁⟩, hwhole, h⟩ := Option.bind_eq_some_iff.1 h
  obtain ⟨⟨fraction, cs₂⟩, hfraction, h⟩ := Option.bind_eq_some_iff.1 h
  obtain ⟨⟨exponent, cs₃⟩, hexponent, h⟩ := Option.bind_eq_some_iff.1 h
  obtain ⟨rfl, rfl⟩ := Prod.mk.inj (Option.some.inj h)
  obtain ⟨hcs₁, ⟨d, ds, rfl, hd⟩, hwhole'⟩ := readWhole_uses hwhole
  obtain ⟨used₂, rfl, hfraction'⟩ := readFraction_uses hfraction
  obtain ⟨used₃, rfl, hexponent'⟩ := readExponent_uses hexponent
  -- each part is read in front of what the next one leaves, so the last part goes first
  refine ⟨d :: ds ++ (used₂ ++ used₃), ?_, ⟨d, ds ++ (used₂ ++ used₃), rfl, hd⟩, ?_⟩
  · rw [hcs₁]
    simp
  · intro tail ht
    obtain ⟨hafter₃, hread₃⟩ := hexponent' tail ht
    obtain ⟨hafter₂, hread₂⟩ := hfraction' _ hafter₃
    have hread₁ := hwhole' _ hafter₂
    unfold readUnsigned
    rw [List.append_assoc, List.append_assoc, hread₁]
    dsimp only [Option.bind_eq_bind, Option.bind_some]
    rw [hread₂]
    dsimp only [Option.bind_eq_bind, Option.bind_some]
    rw [hread₃]
    rfl

theorem readNumber_uses {cs rest : List Char} {n : Option Number}
    (h : readNumber cs = some (n, rest)) :
    ∃ used, cs = used ++ rest ∧ (∃ c cs', used = c :: cs' ∧ StartsNumber c) ∧
      ∀ tail, EndsNumber tail → readNumber (used ++ tail) = some (n, tail) := by
  unfold readNumber at h
  split at h
  · obtain ⟨used, rfl, -, hread⟩ := readUnsigned_uses h
    exact ⟨'-' :: used, rfl, ⟨'-', used, rfl, .inr rfl⟩, hread⟩
  · obtain ⟨used, rfl, ⟨d, cs', rfl, hd⟩, hread⟩ := readUnsigned_uses h
    refine ⟨_, rfl, ⟨d, cs', rfl, .inl hd⟩, fun tail ht => ?_⟩
    have hread' := hread tail ht
    unfold readNumber
    rw [List.cons_append] at hread' ⊢
    split
    · rename_i heq
      obtain ⟨rfl, -⟩ := List.cons.inj heq
      exact absurd hd (by decide)
    · exact hread'

end Hyperfiction.Json
