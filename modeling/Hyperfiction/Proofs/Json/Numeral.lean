import Hyperfiction.Proofs.Decimal.Shortest
import Hyperfiction.Proofs.Json.Reading

/-! # Written numbers

    Every text that is written for a number, whether integer or float, is a number of
    JSON from its first character to its last. What number it is read as is another
    question: integers beyond 64 bits come back as floats, and floats as their
    neighbours at times. Neither changes what stands around them.
-/

namespace Hyperfiction.Json

/-! ## Section 1: Texts of numbers -/

/-- The text is a number, to its end. -/
def IsNumeral (cs : List Char) : Prop :=
  ∃ n, readNumber cs = some (n, [])

/-- The number that a text stands for. -/
def numberOf (cs : List Char) : Option Number :=
  (readNumber cs).bind Prod.fst

theorem IsNumeral.readsAt {cs : List Char} (h : IsNumeral cs) :
    ReadsAt 1 cs (.number (numberOf cs)) := by
  obtain ⟨n, hn⟩ := h
  obtain ⟨used, hused, ⟨c, rest, hstart, hc⟩, hread⟩ := readNumber_uses hn
  rw [List.append_nil] at hused
  subst hused
  have hnumber : numberOf cs = n := by
    unfold numberOf
    rw [hn, Option.bind_some]
  intro fuel tail hfuel htail
  obtain ⟨fuel, rfl⟩ := Nat.exists_eq_add_of_le' hfuel
  have hread' := hread tail htail
  rw [hnumber]
  rw [hstart, List.cons_append] at hread' ⊢
  rw [readDocument_number hc, hread']
  rfl

/-- The text is a number without a sign, to its end. -/
def IsUnsigned (cs : List Char) : Prop :=
  ∀ negative, ∃ n, readUnsigned negative cs = some (n, [])

/-- A number without a sign is a number with and without one. -/
theorem IsUnsigned.signed {cs : List Char} (h : IsUnsigned cs) (p : Prop) [Decidable p] :
    IsNumeral ((if p then ['-'] else []) ++ cs) := by
  by_cases hp : p
  · rw [if_pos hp]
    exact h true
  · rw [if_neg hp, List.nil_append]
    obtain ⟨n, hn⟩ := h false
    obtain ⟨used, hused, ⟨d, rest, hstart, hd⟩, -⟩ := readUnsigned_uses hn
    rw [List.append_nil] at hused
    subst hused
    refine ⟨n, ?_⟩
    subst hstart
    -- it starts with a digit, so it is not taken for one with a sign
    unfold readNumber
    split
    · next heq =>
      obtain ⟨rfl, -⟩ := List.cons.inj heq
      exact absurd hd (by decide)
    · exact hn

/-! ## Section 2: Parts of numbers -/

/-- Some digits. -/
def IsDigits (ds : List Char) : Prop :=
  ds ≠ [] ∧ ∀ c ∈ ds, isDigit c = true

theorem isDigits_digitsOf (n : Nat) : IsDigits (Decimal.digitsOf n) :=
  ⟨Nat.toDigits_ne_nil, fun _ => isDigit_of_mem_digitsOf⟩

theorem IsDigits.append {ds es : List Char} (hd : IsDigits ds) (he : ∀ c ∈ es, isDigit c = true) :
    IsDigits (ds ++ es) := by
  refine ⟨fun h => hd.1 (List.append_eq_nil_iff.1 h).1, fun c hc => ?_⟩
  rcases List.mem_append.1 hc with hc | hc
  · exact hd.2 c hc
  · exact he c hc

theorem isDigit_of_mem_zeros {n : Nat} : ∀ c ∈ List.replicate n '0', isDigit c = true := by
  intro c hc
  rw [(List.mem_replicate.1 hc).2]
  decide

/-- Digits before the decimal point: a zero stands alone. -/
def IsWhole (ds : List Char) : Prop :=
  IsDigits ds ∧ ∀ rest, ds = '0' :: rest → rest = []

theorem IsWhole.read {ds : List Char} (h : IsWhole ds) {tail : List Char}
    (ht : EndsDigits tail) : readWhole (ds ++ tail) = some (ds, tail) := by
  unfold readWhole
  rw [readDigits_append h.1.2 h.1.1 ht]
  split
  · next heq =>
    obtain ⟨hds, -⟩ := Prod.mk.inj (Option.some.inj heq)
    exact absurd (h.2 _ hds) (List.cons_ne_nil _ _)
  · rfl

theorem endsDigits_cons {c : Char} (h : isDigit c = false) (cs : List Char) :
    EndsDigits (c :: cs) := by
  intro d rest heq
  obtain ⟨rfl, -⟩ := List.cons.inj heq
  exact h

theorem endsNumber_nil : EndsNumber [] :=
  fun _ _ h => nomatch h

/-- What may stand after the decimal point and the exponent's letter: both parts may be
    left out. -/
inductive IsRest : List Char → Prop
  | nil : IsRest []
  | fraction {ds : List Char} (h : IsDigits ds) : IsRest ('.' :: ds)
  | exponent {ds : List Char} (h : IsDigits ds) (p : Prop) [Decidable p] :
      IsRest ('e' :: ((if p then ['+'] else ['-']) ++ ds))
  | both {ds es : List Char} (hd : IsDigits ds) (he : IsDigits es) (p : Prop) [Decidable p] :
      IsRest ('.' :: (ds ++ 'e' :: ((if p then ['+'] else ['-']) ++ es)))

theorem readFraction_digits {ds tail : List Char} (h : IsDigits ds) (ht : EndsDigits tail) :
    readFraction ('.' :: (ds ++ tail)) = some (some ds, tail) := by
  show (readDigits (ds ++ tail)).map (fun p : List Char × List Char => (some p.1, p.2)) = _
  rw [readDigits_append h.2 h.1 ht]
  rfl

theorem readExponent_signed {ds : List Char} (h : IsDigits ds) (p : Prop) [Decidable p] :
    ∃ x, readExponent ('e' :: ((if p then ['+'] else ['-']) ++ ds)) = some (x, []) := by
  have hread : readDigits (ds ++ []) = some (ds, []) :=
    readDigits_append h.2 h.1 endsNumber_nil.endsDigits
  rw [List.append_nil] at hread
  by_cases hp : p
  · rw [if_pos hp]
    refine ⟨some (ofDigits ds : Int), ?_⟩
    show (readDigits ds).map
      (fun p : List Char × List Char => (some (ofDigits p.1 : Int), p.2)) = _
    rw [hread]
    rfl
  · rw [if_neg hp]
    refine ⟨some (-(ofDigits ds : Int)), ?_⟩
    show (readDigits ds).map
      (fun p : List Char × List Char => (some (-(ofDigits p.1 : Int)), p.2)) = _
    rw [hread]
    rfl

/-- What follows the digits before the decimal point is read to its end. -/
theorem IsRest.read {cs : List Char} (h : IsRest cs) :
    EndsDigits cs ∧ ∃ fraction after exponent,
      readFraction cs = some (fraction, after) ∧ readExponent after = some (exponent, []) := by
  cases h with
  | nil =>
    exact ⟨endsNumber_nil.endsDigits, none, [], none, readFraction_of_ends endsNumber_nil.endsWhole,
      readExponent_of_ends endsNumber_nil⟩
  | @fraction ds hds =>
    refine ⟨endsDigits_cons (by decide) _, some ds, [], none, ?_,
      readExponent_of_ends endsNumber_nil⟩
    have hread := readFraction_digits hds endsNumber_nil.endsDigits
    rw [List.append_nil] at hread
    exact hread
  | exponent hds p =>
    obtain ⟨x, hx⟩ := readExponent_signed hds p
    exact ⟨endsDigits_cons (by decide) _, none, _, x, rfl, hx⟩
  | both hds hes p =>
    obtain ⟨x, hx⟩ := readExponent_signed hes p
    exact ⟨endsDigits_cons (by decide) _, _, _, x,
      readFraction_digits hds (endsDigits_cons (by decide) _), hx⟩

theorem isUnsigned_append {whole rest : List Char} (hwhole : IsWhole whole) (hrest : IsRest rest) :
    IsUnsigned (whole ++ rest) := by
  intro negative
  obtain ⟨hends, fraction, after, exponent, hfraction, hexponent⟩ := hrest.read
  refine ⟨NumberText.value? { negative, whole, fraction, exponent }, ?_⟩
  unfold readUnsigned
  rw [hwhole.read hends]
  dsimp only [Option.bind_eq_bind, Option.bind_some]
  rw [hfraction]
  dsimp only [Option.bind_eq_bind, Option.bind_some]
  rw [hexponent]
  rfl

/-! ## Section 3: Floats -/

theorem isDigits_zero : IsDigits ['0'] :=
  ⟨List.cons_ne_nil _ _, isDigit_of_mem_zeros (n := 1)⟩

theorem isWhole_zero : IsWhole ['0'] :=
  ⟨isDigits_zero, fun _ h => (List.cons.inj h).2.symm⟩

theorem isWhole_of_head {ds : List Char} (h : IsDigits ds) (hhead : ∀ rest, ds ≠ '0' :: rest) :
    IsWhole ds :=
  ⟨h, fun rest heq => absurd heq (hhead rest)⟩

variable {ds : List Char} (hds : IsDigits ds) (hhead : ∀ rest, ds ≠ '0' :: rest)
include hds hhead

/-- Digits that do not start with a zero, and the zeros after them. -/
theorem isWhole_zeros (n : Nat) : IsWhole (ds ++ List.replicate n '0') := by
  refine isWhole_of_head (hds.append isDigit_of_mem_zeros) fun rest heq => ?_
  cases ds with
  | nil => exact hds.1 rfl
  | cons d ds =>
    rw [List.cons_append] at heq
    obtain ⟨rfl, -⟩ := List.cons.inj heq
    exact hhead ds rfl

theorem isUnsigned_positional (point : Int) :
    IsUnsigned (Decimal.positional true ds point) := by
  unfold Decimal.positional
  split
  · refine isUnsigned_append isWhole_zero (.fraction ?_)
    refine ⟨fun h => hds.1 (List.append_eq_nil_iff.1 h).2, fun c hc => ?_⟩
    rcases List.mem_append.1 hc with hc | hc
    · exact isDigit_of_mem_zeros c hc
    · exact hds.2 c hc
  · split
    · exact isUnsigned_append (isWhole_zeros hds hhead _) (.fraction isDigits_zero)
    · next hpoint hlength =>
      refine isUnsigned_append (isWhole_of_head ⟨?_, ?_⟩ fun rest heq => ?_) (.fraction ⟨?_, ?_⟩)
      · rw [Ne, List.take_eq_nil_iff]
        rintro (hzero | hnil)
        · omega
        · exact hds.1 hnil
      · exact fun c hc => hds.2 c (List.mem_of_mem_take hc)
      · -- the digits start as their first part does
        have hsplit := List.take_append_drop point.toNat ds
        rw [heq, List.cons_append] at hsplit
        exact hhead _ hsplit.symm
      · rw [Ne, List.drop_eq_nil_iff]
        omega
      · exact fun c hc => hds.2 c (List.mem_of_mem_drop hc)

theorem isUnsigned_scientific (point : Int) :
    IsUnsigned (Decimal.scientific true ds point) := by
  cases ds with
  | nil => exact absurd rfl hds.1
  | cons d ds =>
    have hd : IsWhole [d] := by
      refine isWhole_of_head ⟨List.cons_ne_nil _ _, fun c hc => hds.2 c ?_⟩ fun rest heq => ?_
      · exact List.mem_cons.2 (.inl (List.mem_singleton.1 hc))
      · obtain ⟨rfl, -⟩ := List.cons.inj heq
        exact hhead ds rfl
    have hpower : ∃ es, IsDigits es ∧
        (if (true && decide (0 ≤ point - 1)) = true then ['+'] else []) ++ Decimal.ofInt (point - 1)
          = (if 0 ≤ point - 1 then ['+'] else ['-']) ++ es := by
      cases hpoint : point - 1 with
      | ofNat n =>
        refine ⟨Decimal.digitsOf n, isDigits_digitsOf n, ?_⟩
        have hpositive : (0 : Int) ≤ Int.ofNat n := Int.natCast_nonneg n
        rw [if_pos (by simp), if_pos hpositive]
        rfl
      | negSucc n =>
        refine ⟨Decimal.digitsOf (n + 1), isDigits_digitsOf _, ?_⟩
        have hnegative : ¬ (0 : Int) ≤ Int.negSucc n := by omega
        rw [if_neg (by simp), if_neg hnegative]
        rfl
    obtain ⟨es, hes, hpower⟩ := hpower
    unfold Decimal.scientific
    dsimp only
    rw [hpower]
    cases ds with
    | nil => exact isUnsigned_append hd (.exponent hes _)
    | cons f fs =>
      -- the digits after the first one stand behind the point
      have hfs : IsDigits (f :: fs) :=
        ⟨List.cons_ne_nil _ _, fun c hc => hds.2 c (List.mem_cons_of_mem _ hc)⟩
      rw [List.append_assoc]
      exact isUnsigned_append hd (.both hfs hes _)

omit hds hhead

/-- The text of a float is a number. -/
theorem isNumeral_ofFloat (x : Float) : IsNumeral (floatLayout.ofFloat x) := by
  unfold Decimal.Layout.ofFloat
  dsimp only
  split
  · exact (isUnsigned_append isWhole_zero (.fraction isDigits_zero)).signed _
  · next hsize =>
    -- a number that is not zero has digits, and the first of them is not zero
    have hpos := Decimal.shortest_pos hsize (Nat.mod_lt _ (by decide))
    have hdigits := isDigits_digitsOf (Decimal.shortest (x.toBits.toNat % Word.half)).digits
    refine IsUnsigned.signed ?_ _
    unfold Decimal.Layout.write
    dsimp only
    split
    · exact isUnsigned_positional hdigits (head_digitsOf_ne hpos) _
    · exact isUnsigned_scientific hdigits (head_digitsOf_ne hpos) _

/-! ## Section 4: Integers -/

/-- The text of an integer is a number. -/
theorem isNumeral_ofInt (n : Int) : IsNumeral (Decimal.ofInt n) := by
  have hunsigned : ∀ n, IsUnsigned (Decimal.digitsOf n) := by
    intro n negative
    have hread := readUnsigned_digitsOf negative n endsNumber_nil
    rw [List.append_nil] at hread
    exact ⟨_, hread⟩
  cases n with
  | ofNat n => exact (hunsigned n).signed False
  | negSucc n => exact (hunsigned (n + 1)).signed True

theorem Significand.whole_lt (cs : List Char) (s : Significand) (h : s.value < UInt64.size) :
    (s.whole cs).value < UInt64.size := by
  induction cs generalizing s with
  | nil => exact h
  | cons c cs ih =>
    unfold Significand.whole
    dsimp only
    -- a digit that would overflow is not taken in
    split
    · next hnext => exact ih _ hnext
    · exact h

/-- Integers that are read are within 64 bits. -/
theorem isWord_of_value? {t : NumberText} {n : Int} (h : t.value? = some (.int n)) :
    IsWord n := by
  have hlt : (Significand.whole { value := 0, scale := 0 } t.whole).value < UInt64.size :=
    Significand.whole_lt _ _ (by decide)
  have hfloat : ∀ x : Option Float, x.map Number.float ≠ some (.int n) := by
    rintro (_ | x) hx <;> cases hx
  unfold NumberText.value? at h
  dsimp only at h
  unfold IsWord
  split at h
  · split at h
    · split at h
      · cases h
        omega
      · split at h
        · cases h
        · cases h
          have hsize : Word.half < UInt64.size := by decide
          omega
    · exact absurd h (hfloat _)
  · exact absurd h (hfloat _)

theorem isWord_of_readNumber {cs rest : List Char} {n : Int}
    (h : readNumber cs = some (some (.int n), rest)) : IsWord n := by
  have hunsigned : ∀ {negative cs}, readUnsigned negative cs = some (some (.int n), rest) →
      IsWord n := by
    intro negative cs h
    unfold readUnsigned at h
    obtain ⟨⟨whole, cs₁⟩, -, h⟩ := Option.bind_eq_some_iff.1 h
    obtain ⟨⟨fraction, cs₂⟩, -, h⟩ := Option.bind_eq_some_iff.1 h
    obtain ⟨⟨exponent, cs₃⟩, -, h⟩ := Option.bind_eq_some_iff.1 h
    exact isWord_of_value? (Prod.mk.inj (Option.some.inj h)).1
  unfold readNumber at h
  split at h
  · exact hunsigned h
  · exact hunsigned h

/-- The integers that come back from their text are those within 64 bits. -/
theorem numberOf_ofInt (n : Int) : numberOf (Decimal.ofInt n) = some (.int n) ↔ IsWord n := by
  constructor
  · intro h
    obtain ⟨m, hm⟩ := isNumeral_ofInt n
    unfold numberOf at h
    rw [hm, Option.bind_some] at h
    subst h
    exact isWord_of_readNumber hm
  · intro h
    have hread := readNumber_ofInt h endsNumber_nil
    rw [List.append_nil] at hread
    unfold numberOf
    rw [hread, Option.bind_some]

end Hyperfiction.Json
