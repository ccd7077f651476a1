import Mathlib.Algebra.Group.Nat.Defs
import Hyperfiction.Decimal.Shortest
import Hyperfiction.Word

/-! # Shortest decimals have digits

    The search for the shortest decimal goes through twenty grids from the magnitude of
    the number down. On the last of them the number is at least `10^17` points away from
    zero, more than it has units of its rounding interval, so the point below it rounds
    to it. The search therefore never ends with nothing, and what it ends with is not zero.
-/

namespace Hyperfiction.Decimal

/-! ## Section 1: Digits and powers -/

theorem digitCount_pos (n : Nat) : 0 < digitCount n :=
  List.length_pos_iff.2 Nat.toDigits_ne_nil

theorem lt_pow_digitCount (n : Nat) : n < 10 ^ digitCount n :=
  (Nat.length_toDigits_le_iff (by decide) (digitCount_pos n)).1 (Nat.le_refl _)

theorem pow_le_of_pos {n : Nat} (h : 0 < n) : 10 ^ (digitCount n - 1) ≤ n := by
  by_cases hone : digitCount n - 1 = 0
  · rw [hone]
    exact h
  · -- otherwise one digit less would do
    refine Nat.le_of_not_lt fun hlt => ?_
    have hfewer : digitCount n ≤ digitCount n - 1 :=
      (Nat.length_toDigits_le_iff (by decide) (Nat.pos_of_ne_zero hone)).2 hlt
    have := digitCount_pos n
    omega

/-- A power of ten against one `k` places higher, both as quotients. -/
theorem pow_shift (e : Int) (k : Nat) :
    10 ^ (e + k).toNat * 10 ^ (-e).toNat = 10 ^ k * 10 ^ e.toNat * 10 ^ (-(e + k)).toNat := by
  rw [← Nat.pow_add, ← Nat.pow_add, ← Nat.pow_add]
  congr 1
  omega

/-! ## Section 2: Binary numbers -/

namespace Binary

/-- The number is positive and fits in its format. -/
structure Sound (b : Binary) : Prop where
  mantissa_pos : 0 < b.mantissa
  mantissa_lt : b.mantissa < 2 * hiddenBit
  below_pos : 0 < b.below
  num_pos : 0 < b.num
  den_pos : 0 < b.den

theorem one_shiftLeft_pos (n : Nat) : 0 < 1 <<< n := by
  rw [Nat.shiftLeft_eq, Nat.one_mul]
  exact Nat.pow_pos (by decide)

/-- Bits that are not those of zero make a sound number. -/
theorem sound_ofBits {bits : Nat} (h : bits ≠ 0) (hlt : bits < Word.half) :
    (ofBits bits).Sound := by
  have hfraction : bits % hiddenBit < hiddenBit := Nat.mod_lt _ (by decide)
  have hsplit := Nat.div_add_mod bits hiddenBit
  refine ⟨?_, ?_, ?_, one_shiftLeft_pos _, one_shiftLeft_pos _⟩
  · unfold ofBits
    dsimp only
    split
    · next hzero =>
      -- the exponent is all there is above the fraction
      have hsmall : bits / hiddenBit < exponents := by
        rw [Nat.div_lt_iff_lt_mul (by decide)]
        exact hlt
      rw [Nat.mod_eq_of_lt hsmall] at hzero
      rw [hzero] at hsplit
      omega
    · have : 0 < hiddenBit := by decide
      omega
  · unfold ofBits
    dsimp only
    split <;> omega
  · unfold ofBits
    dsimp only
    split <;> decide

/-- The number is at least the power of ten one below its magnitude. -/
theorem magnitude_le {b : Binary} (h : b.Sound) :
    b.den * 10 ^ (b.magnitude - 1).toNat
      ≤ 4 * b.mantissa * b.num * 10 ^ (-(b.magnitude - 1)).toNat := by
  have hunits : 0 < 4 * b.mantissa * b.num :=
    Nat.mul_pos (Nat.mul_pos (by decide) h.mantissa_pos) h.num_pos
  unfold magnitude
  dsimp only
  -- from one up the digits of the number are counted, and below one those of its inverse
  split
  · next hwhole =>
    have hpow := pow_le_of_pos hwhole
    have hcount := digitCount_pos (4 * b.mantissa * b.num / b.den)
    have hup : ((digitCount (4 * b.mantissa * b.num / b.den) : Int) - 1).toNat
        = digitCount (4 * b.mantissa * b.num / b.den) - 1 := by omega
    have hdown : (-((digitCount (4 * b.mantissa * b.num / b.den) : Int) - 1)).toNat = 0 := by
      omega
    rw [hup, hdown, Nat.pow_zero, Nat.mul_one]
    calc b.den * 10 ^ (digitCount (4 * b.mantissa * b.num / b.den) - 1)
        ≤ b.den * (4 * b.mantissa * b.num / b.den) := Nat.mul_le_mul_left _ hpow
      _ ≤ 4 * b.mantissa * b.num := Nat.mul_div_le _ _
  · have hpow := lt_pow_digitCount (b.den / (4 * b.mantissa * b.num))
    have hup : (1 - (digitCount (b.den / (4 * b.mantissa * b.num)) : Int) - 1).toNat = 0 := by
      omega
    have hdown : (-(1 - (digitCount (b.den / (4 * b.mantissa * b.num)) : Int) - 1)).toNat
        = digitCount (b.den / (4 * b.mantissa * b.num)) := by omega
    rw [hup, hdown, Nat.pow_zero, Nat.mul_one]
    calc b.den ≤ 4 * b.mantissa * b.num * (b.den / (4 * b.mantissa * b.num) + 1) :=
          Nat.le_of_lt (Nat.lt_mul_div_succ _ hunits)
      _ ≤ 4 * b.mantissa * b.num * 10 ^ digitCount (b.den / (4 * b.mantissa * b.num)) :=
          Nat.mul_le_mul_left _ hpow

/-- On a grid as fine as the last one, the number is `10^17` points away from zero. -/
theorem fine_enough {b : Binary} (h : b.Sound) :
    10 ^ 17 * (b.den * 10 ^ (b.magnitude - 20).toNat)
      ≤ 4 * b.mantissa * b.num * 10 ^ (-(b.magnitude - 20)).toNat := by
  have hmagnitude := magnitude_le h
  have hshift := pow_shift (b.magnitude - 20) 19
  have hsum : b.magnitude - 20 + (19 : Nat) = b.magnitude - 1 := by omega
  rw [hsum] at hshift
  generalize b.magnitude - 20 = fine at *
  generalize b.magnitude - 1 = coarse at *
  have hpos : 0 < 10 ^ (-coarse).toNat := Nat.pow_pos (by decide)
  refine Nat.le_of_mul_le_mul_right ?_ hpos
  calc 10 ^ 17 * (b.den * 10 ^ fine.toNat) * 10 ^ (-coarse).toNat
      ≤ 10 ^ 19 * (b.den * 10 ^ fine.toNat) * 10 ^ (-coarse).toNat :=
        Nat.mul_le_mul_right _ (Nat.mul_le_mul_right _ (by decide))
    _ = b.den * (10 ^ 19 * 10 ^ fine.toNat * 10 ^ (-coarse).toNat) := by ac_rfl
    _ = b.den * 10 ^ coarse.toNat * 10 ^ (-fine).toNat := by rw [← hshift, Nat.mul_assoc]
    _ ≤ 4 * b.mantissa * b.num * 10 ^ (-coarse).toNat * 10 ^ (-fine).toNat :=
        Nat.mul_le_mul_right _ hmagnitude
    _ = 4 * b.mantissa * b.num * 10 ^ (-fine).toNat * 10 ^ (-coarse).toNat := by ac_rfl

/-- A point of a fine grid just below the number rounds to it. -/
theorem rounds_below {b : Binary} (h : b.Sound) {up down : Nat} (hup : 0 < up)
    (hfine : 10 ^ 17 * (b.den * up) ≤ 4 * b.mantissa * b.num * down) :
    b.rounds (4 * b.mantissa * b.num * down / (b.den * up) * up) down = true := by
  have hgrid : 0 < b.den * up := Nat.mul_pos h.den_pos hup
  have hbelow := Nat.mul_div_le (4 * b.mantissa * b.num * down) (b.den * up)
  have habove := Nat.lt_mul_div_succ (4 * b.mantissa * b.num * down) hgrid
  -- a step of the grid is at most one unit, since the number has fewer units than points
  have hstep : b.den * up ≤ b.num * down := by
    have hunits : 4 * b.mantissa ≤ 10 ^ 17 := by
      have hmantissa := h.mantissa_lt
      have hbits : 4 * (2 * hiddenBit) ≤ 10 ^ 17 := by decide
      omega
    refine Nat.le_of_mul_le_mul_left ?_ (Nat.mul_pos (by decide : 0 < 4) h.mantissa_pos)
    calc 4 * b.mantissa * (b.den * up) ≤ 10 ^ 17 * (b.den * up) :=
          Nat.mul_le_mul_right _ hunits
      _ ≤ 4 * b.mantissa * b.num * down := hfine
      _ = 4 * b.mantissa * (b.num * down) := Nat.mul_assoc _ _ _
  have hpoint : 4 * b.mantissa * b.num * down / (b.den * up) * up * b.den
      = b.den * up * (4 * b.mantissa * b.num * down / (b.den * up)) := by ac_rfl
  have hunit : 0 < b.num * down := Nat.lt_of_lt_of_le hgrid hstep
  have hlow : (4 * b.mantissa - b.below) * b.num * down
      = 4 * b.mantissa * b.num * down - b.below * (b.num * down) := by
    rw [Nat.mul_assoc, Nat.sub_mul, Nat.mul_assoc (4 * b.mantissa)]
  have hhigh : (4 * b.mantissa + 2) * b.num * down
      = 4 * b.mantissa * b.num * down + 2 * (b.num * down) := by
    rw [Nat.mul_assoc, Nat.add_mul, Nat.mul_assoc (4 * b.mantissa)]
  have hunitBelow : b.num * down ≤ b.below * (b.num * down) :=
    Nat.le_mul_of_pos_left _ h.below_pos
  rw [Nat.mul_add, Nat.mul_one] at habove
  unfold rounds
  dsimp only
  rw [hlow, hhigh, hpoint]
  split
  · simp only [Bool.and_eq_true, decide_eq_true_eq]
    omega
  · simp only [Bool.and_eq_true, decide_eq_true_eq]
    omega

/-- A grid on which the point below the number is not zero and rounds to it gives a point
    that is not zero. -/
theorem onGrid_pos {b : Binary} {e : Int}
    (hlower : 0 < 4 * b.mantissa * b.num * 10 ^ (-e).toNat / (b.den * 10 ^ e.toNat))
    (hrounds : b.rounds
      (4 * b.mantissa * b.num * 10 ^ (-e).toNat / (b.den * 10 ^ e.toNat) * 10 ^ e.toNat)
      (10 ^ (-e).toNat) = true) :
    0 < (b.onGrid e).getD 0 := by
  unfold onGrid powerOfTen
  simp only [Nat.pow_eq]
  rw [hrounds]
  split
  · split
    · exact hlower
    · split
      · exact Nat.succ_pos _
      · split
        · exact hlower
        · exact Nat.succ_pos _
  · exact hlower
  · exact Nat.succ_pos _
  · next h _ => cases h

/-- The search ends with digits if its last grid has some. -/
theorem search_pos {b : Binary} {n : Nat} {e : Int} (h : 0 < (b.onGrid (e - n)).getD 0) :
    0 < (b.search n e).digits := by
  induction n generalizing e with
  | zero =>
    have hlast : e - (0 : Nat) = e := Int.sub_zero e
    rw [hlast] at h
    exact h
  | succ n ih =>
    rw [search]
    -- either a coarser grid has a point, or the search goes on towards the last one
    split
    · exact Nat.succ_pos _
    · refine ih ?_
      have hlast : e - 1 - (n : Int) = e - (n + 1 : Nat) := by omega
      rw [hlast]
      exact h

end Binary

/-- The shortest decimal of a positive number has digits. -/
theorem shortest_pos {bits : Nat} (h : bits ≠ 0) (hlt : bits < Word.half) :
    0 < (shortest bits).digits := by
  have hsound := Binary.sound_ofBits h hlt
  have hfine := Binary.fine_enough hsound
  unfold shortest
  refine Binary.search_pos (Binary.onGrid_pos ?_ ?_)
  · refine Nat.div_pos ?_ (Nat.mul_pos hsound.den_pos (Nat.pow_pos (by decide)))
    exact Nat.le_trans (Nat.le_mul_of_pos_left _ (by decide)) hfine
  · exact Binary.rounds_below hsound (Nat.pow_pos (by decide)) hfine

end Hyperfiction.Decimal
