import Hyperfiction.Json.Parser
import Hyperfiction.Json.Printer

/-! # Strings and integers in JSON

    What is written as a string or as an integer is read as the same string and
    the same integer, whatever text follows; only a number must not be followed
    by more of a number.
-/

namespace Hyperfiction.Json

/-! ## Section 1: Strings -/

/-- The piece that a written character is read as. -/
def pieceOf (c : Char) : StringPiece :=
  if c.toNat < 32 ∧ c.toNat ∉ [8, 9, 10, 12, 13] then .unit c.toNat else .char c

theorem hexValue?_hexDigit : ∀ n < 16, hexValue? (hexDigit n) = some n := by
  decide

theorem hexUnit?_control {n : Nat} (h : n < 32) :
    hexUnit? '0' '0' (hexDigit (n / 16)) (hexDigit (n % 16)) = some n := by
  have hzero : hexValue? '0' = some 0 := by decide
  have hhigh := hexValue?_hexDigit (n / 16) (by omega)
  have hlow := hexValue?_hexDigit (n % 16) (by omega)
  unfold hexUnit?
  rw [hzero, hhigh, hlow]
  dsimp only
  have hsum : ((0 * 16 + 0) * 16 + n / 16) * 16 + n % 16 = n := by omega
  rw [hsum]

theorem eq_of_toNat {c d : Char} (h : c.toNat = d.toNat) : c = d := by
  rw [← Char.ofNat_toNat c, h, Char.ofNat_toNat]

/-- A character that stands for itself between quotes. -/
theorem readPieces_plain {c : Char} (hquote : c ≠ '\"') (hslash : c ≠ '\\') (h : 32 ≤ c.toNat)
    (rest : List Char) :
    readPieces (c :: rest) = (readPieces rest).map fun p => (.char c :: p.1, p.2) := by
  have hcontrol : ¬ (c = '\\' ∨ c.toNat < 32) := by
    rintro (h' | h')
    · exact hslash h'
    · omega
  rw [readPieces.eq_def]
  split
  · contradiction
  · rename_i heq
    exact absurd (List.cons.inj heq).1 hquote
  · rename_i heq
    exact absurd (List.cons.inj heq).1 hslash
  · rename_i heq
    exact absurd (List.cons.inj heq).1 hslash
  · rename_i heq
    obtain ⟨rfl, rfl⟩ := List.cons.inj heq
    rw [if_neg hcontrol]

/-- A written character is read as its piece. -/
theorem readPieces_writeChar (c : Char) (rest : List Char) :
    readPieces (writeChar c ++ rest)
      = (readPieces rest).map fun p => (pieceOf c :: p.1, p.2) := by
  unfold writeChar
  -- the printer asks for the escapes one after the other, and so does the proof
  by_cases hquote : c = '\"'
  · subst hquote
    rfl
  rw [if_neg hquote]
  by_cases hslash : c = '\\'
  · subst hslash
    rfl
  rw [if_neg hslash]
  by_cases hback : c.toNat = 8
  · obtain rfl : c = Char.ofNat 8 := eq_of_toNat hback
    rfl
  rw [if_neg hback]
  by_cases htab : c = '\t'
  · subst htab
    rfl
  rw [if_neg htab]
  by_cases hline : c = '\n'
  · subst hline
    rfl
  rw [if_neg hline]
  by_cases hfeed : c.toNat = 12
  · obtain rfl : c = Char.ofNat 12 := eq_of_toNat hfeed
    rfl
  rw [if_neg hfeed]
  by_cases hreturn : c = '\r'
  · subst hreturn
    rfl
  rw [if_neg hreturn]
  -- what is left is a control character without an escape of its own, or stands for itself
  have hnames : c.toNat ∉ [8, 9, 10, 12, 13] := by
    have ht : c.toNat ≠ 9 := fun h => htab (eq_of_toNat h)
    have hl : c.toNat ≠ 10 := fun h => hline (eq_of_toNat h)
    have hr : c.toNat ≠ 13 := fun h => hreturn (eq_of_toNat h)
    simp [hback, ht, hl, hfeed, hr]
  by_cases hcontrol : c.toNat < 32
  · have hpiece : pieceOf c = .unit c.toNat := if_pos ⟨hcontrol, hnames⟩
    rw [if_pos hcontrol, hpiece]
    show readPieces ('\\' :: 'u' :: '0' :: '0' :: hexDigit (c.toNat / 16) ::
      hexDigit (c.toNat % 16) :: rest) = _
    rw [readPieces, hexUnit?_control hcontrol]
  · have hpiece : pieceOf c = .char c := if_neg fun h => hcontrol h.1
    rw [if_neg hcontrol, hpiece]
    exact readPieces_plain hquote hslash (by omega) rest

theorem readPieces_write (cs tail : List Char) :
    readPieces (cs.flatMap writeChar ++ '\"' :: tail) = some (cs.map pieceOf, tail) := by
  induction cs with
  | nil => rfl
  | cons c cs ih =>
    rw [List.flatMap_cons, List.append_assoc, readPieces_writeChar, ih]
    rfl

/-- A unit that is no surrogate is a character of its own. -/
theorem joinPieces_unit {n : Nat} (h : n < 0xD800) (ps : List StringPiece) :
    joinPieces (.unit n :: ps) = (joinPieces ps).map (Char.ofNat n :: ·) := by
  have hhigh : ¬ (0xD800 ≤ n ∧ n < 0xDC00) := by omega
  have hlow : ¬ (0xDC00 ≤ n ∧ n < 0xE000) := by omega
  have hnone : ¬ (0xD800 ≤ n ∧ n < 0xE000) := by omega
  match ps with
  | [] => simp [joinPieces, hnone]
  | .char c :: ps => simp [joinPieces, hnone]
  | .unit low :: ps => rw [joinPieces, if_neg hhigh, if_neg hlow]

theorem joinPieces_map_pieceOf (cs : List Char) : joinPieces (cs.map pieceOf) = some cs := by
  induction cs with
  | nil => rfl
  | cons c cs ih =>
    rw [List.map_cons]
    by_cases h : c.toNat < 32 ∧ c.toNat ∉ [8, 9, 10, 12, 13]
    · have hpiece : pieceOf c = .unit c.toNat := if_pos h
      have hsmall : c.toNat < 0xD800 := by omega
      rw [hpiece, joinPieces_unit hsmall, ih, Char.ofNat_toNat]
      rfl
    · have hpiece : pieceOf c = .char c := if_neg h
      rw [hpiece, joinPieces, ih]
      rfl

/-- A written string is read as itself. -/
theorem readString_write (cs tail : List Char) :
    readString (cs.flatMap writeChar ++ '\"' :: tail) = some (some (String.ofList cs), tail) := by
  unfold readString
  rw [readPieces_write, Option.map_some, joinPieces_map_pieceOf]
  rfl

/-! ## Section 2: Integers -/

/-- The text does not go on with a digit. -/
def EndsDigits (tail : List Char) : Prop :=
  ∀ c rest, tail = c :: rest → isDigit c = false

/-- The text does not go on with a digit or a decimal point. -/
def EndsWhole (tail : List Char) : Prop :=
  ∀ c rest, tail = c :: rest → isDigit c = false ∧ c ≠ '.'

/-- The text does not go on with a number that ends here. -/
def EndsNumber (tail : List Char) : Prop :=
  ∀ c rest, tail = c :: rest → isDigit c = false ∧ c ≠ '.' ∧ c ≠ 'e' ∧ c ≠ 'E'

theorem EndsWhole.endsDigits {tail : List Char} (h : EndsWhole tail) : EndsDigits tail :=
  fun c rest heq => (h c rest heq).1

theorem EndsNumber.endsWhole {tail : List Char} (h : EndsNumber tail) : EndsWhole tail := by
  intro c rest heq
  obtain ⟨hdigit, hpoint, -⟩ := h c rest heq
  exact ⟨hdigit, hpoint⟩

theorem EndsNumber.endsDigits {tail : List Char} (h : EndsNumber tail) : EndsDigits tail :=
  h.endsWhole.endsDigits

theorem readFraction_of_ends {tail : List Char} (h : EndsWhole tail) :
    readFraction tail = some (none, tail) := by
  unfold readFraction
  split
  · exact absurd rfl (h _ _ rfl).2
  · rfl

theorem readExponent_of_ends {tail : List Char} (h : EndsNumber tail) :
    readExponent tail = some (none, tail) := by
  unfold readExponent
  split
  · exact absurd rfl (h _ _ rfl).2.2.1
  · exact absurd rfl (h _ _ rfl).2.2.2
  · rfl

theorem takeWhile_isDigit {ds tail : List Char} (hd : ∀ c ∈ ds, isDigit c = true)
    (ht : EndsDigits tail) :
    (ds ++ tail).takeWhile isDigit = ds ∧ (ds ++ tail).dropWhile isDigit = tail := by
  rw [List.takeWhile_append_of_pos hd, List.dropWhile_append_of_pos hd]
  cases tail with
  | nil => simp
  | cons c rest =>
    have hc := ht c rest rfl
    rw [List.takeWhile_cons, List.dropWhile_cons, hc]
    simp

theorem readDigits_append {ds tail : List Char} (hd : ∀ c ∈ ds, isDigit c = true) (hne : ds ≠ [])
    (ht : EndsDigits tail) : readDigits (ds ++ tail) = some (ds, tail) := by
  obtain ⟨htake, hdrop⟩ := takeWhile_isDigit hd ht
  unfold readDigits
  rw [htake, hdrop]
  cases ds with
  | nil => exact absurd rfl hne
  | cons d ds => rfl

theorem isDigit_of_mem_digitsOf {n : Nat} {c : Char} (h : c ∈ Decimal.digitsOf n) :
    isDigit c = true := by
  have hc := Nat.isDigit_of_mem_toDigits (by decide) (by decide) h
  unfold isDigit
  unfold Char.isDigit at hc
  exact hc

/-- Only zero is written with a zero first. -/
theorem head_digitsOf_ne {n : Nat} (h : 0 < n) (rest : List Char) :
    Decimal.digitsOf n ≠ '0' :: rest := by
  induction n using Nat.strongRecOn generalizing rest with
  | ind n ih =>
    unfold Decimal.digitsOf
    rw [Nat.toDigits_eq_if (by decide)]
    split
    · intro heq
      have hzero := Nat.digitChar_eq_zero.1 (List.cons.inj heq).1
      omega
    · intro heq
      -- the first digit is that of the number without its last digit
      have hsmaller := ih (n / 10) (by omega) (by omega)
      unfold Decimal.digitsOf at hsmaller
      cases hd : Nat.toDigits 10 (n / 10) with
      | nil => exact absurd hd Nat.toDigits_ne_nil
      | cons d ds =>
        rw [hd] at heq
        obtain ⟨rfl, -⟩ := List.cons.inj heq
        exact hsmaller ds hd

theorem readWhole_digitsOf (n : Nat) {tail : List Char} (ht : EndsNumber tail) :
    readWhole (Decimal.digitsOf n ++ tail) = some (Decimal.digitsOf n, tail) := by
  have hread := readDigits_append (fun c => isDigit_of_mem_digitsOf (n := n)) Nat.toDigits_ne_nil
    ht.endsDigits
  unfold readWhole
  rw [hread]
  split
  · rename_i heq
    obtain ⟨hds, -⟩ := Prod.mk.inj (Option.some.inj heq)
    -- more digits after a zero, although zero is one digit
    rcases Nat.eq_zero_or_pos n with rfl | hpos
    · simp [Decimal.digitsOf] at hds
    · exact absurd hds (head_digitsOf_ne hpos _)
  · rfl

theorem le_ofDigitChars (cs : List Char) (n : Nat) : n ≤ Nat.ofDigitChars 10 cs n := by
  rw [Nat.ofDigitChars_eq_ofDigitChars_zero]
  have hpow : 1 ≤ 10 ^ cs.length := Nat.one_le_pow _ _ (by decide)
  have := Nat.mul_le_mul_right n hpow
  omega

/-- Digits whose number fits in 64 bits are taken in one by one. -/
theorem Significand.whole_eq (cs : List Char) (s : Significand)
    (h : Nat.ofDigitChars 10 cs s.value < UInt64.size) :
    s.whole cs = { s with value := Nat.ofDigitChars 10 cs s.value } := by
  induction cs generalizing s with
  | nil => rfl
  | cons c cs ih =>
    -- the value only grows, so it fits after this digit as it does after the last one
    rw [Nat.ofDigitChars_cons] at h
    have hnext : 10 * s.value + digitValue c < UInt64.size :=
      Nat.lt_of_le_of_lt (le_ofDigitChars cs _) h
    unfold Significand.whole
    rw [Nat.ofDigitChars_cons]
    dsimp only
    rw [if_pos hnext]
    exact ih _ h

/-- An integer that JSON keeps: within 64 bits, with or without a sign. -/
def IsWord (n : Int) : Prop :=
  -(Word.half : Int) ≤ n ∧ n < UInt64.size

theorem value?_digitsOf (negative : Bool) {n : Nat} (h : n < UInt64.size) :
    NumberText.value?
        { negative, whole := Decimal.digitsOf n, fraction := none, exponent := none }
      = if !negative then some (.int n)
        else if n = 0 ∨ Word.half < n then some (.float (-(UInt64.ofNat n).toFloat))
        else some (.int (-(n : Int))) := by
  have hdigits : Nat.ofDigitChars 10 (Decimal.digitsOf n) 0 = n := Nat.ofDigitChars_ten_toDigits
  have hwhole := Significand.whole_eq (Decimal.digitsOf n) { value := 0, scale := 0 }
    (by rw [hdigits]; exact h)
  rw [hdigits] at hwhole
  unfold NumberText.value?
  dsimp only
  rw [hwhole]
  rfl

theorem readUnsigned_digitsOf (negative : Bool) (n : Nat) {tail : List Char}
    (ht : EndsNumber tail) :
    readUnsigned negative (Decimal.digitsOf n ++ tail)
      = some (NumberText.value?
          { negative, whole := Decimal.digitsOf n, fraction := none, exponent := none }, tail) := by
  unfold readUnsigned
  rw [readWhole_digitsOf n ht]
  dsimp only [Option.bind_eq_bind, Option.bind_some]
  rw [readFraction_of_ends ht.endsWhole]
  dsimp only [Option.bind_eq_bind, Option.bind_some]
  rw [readExponent_of_ends ht]
  rfl

/-- A written integer is read as itself. -/
theorem readNumber_ofInt {n : Int} (h : IsWord n) {tail : List Char} (ht : EndsNumber tail) :
    readNumber (Decimal.ofInt n ++ tail) = some (some (.int n), tail) := by
  obtain ⟨hlow, hhigh⟩ := h
  cases n with
  | ofNat n =>
    have hn : n < UInt64.size := by
      have : (n : Int) < UInt64.size := hhigh
      omega
    have hunsigned : readNumber (Decimal.ofInt (.ofNat n) ++ tail)
        = readUnsigned false (Decimal.digitsOf n ++ tail) := by
      show readNumber (Decimal.digitsOf n ++ tail) = _
      unfold readNumber
      split
      · -- a digit is no sign
        rename_i heq
        cases hd : Decimal.digitsOf n with
        | nil => exact absurd hd Nat.toDigits_ne_nil
        | cons d ds =>
          rw [hd] at heq
          obtain ⟨rfl, -⟩ := List.cons.inj heq
          have hdigit := isDigit_of_mem_digitsOf (n := n) (c := '-') (by rw [hd]; simp)
          exact absurd hdigit (by decide)
      · rfl
    rw [hunsigned, readUnsigned_digitsOf false n ht, value?_digitsOf false hn]
    rfl
  | negSucc n =>
    -- the sign is read first, and then the digits of the number without it
    have hn : n + 1 ≤ Word.half := by
      have : -(Word.half : Int) ≤ Int.negSucc n := hlow
      omega
    have hsize : n + 1 < UInt64.size := Nat.lt_of_le_of_lt hn (by decide)
    have hsigned : readNumber (Decimal.ofInt (.negSucc n) ++ tail)
        = readUnsigned true (Decimal.digitsOf (n + 1) ++ tail) := rfl
    have hint : ¬ (n + 1 = 0 ∨ Word.half < n + 1) := by omega
    rw [hsigned, readUnsigned_digitsOf true (n + 1) ht, value?_digitsOf true hsize]
    simp only [Bool.not_true, Bool.false_eq_true, if_false, if_neg hint]
    rfl

end Hyperfiction.Json
