import Mathlib.Data.List.DropRight
import Mathlib.Data.List.Infix
import Hyperfiction.Text.Blank
import Hyperfiction.Text.Cut

/-! # Delimiters and blanks

    What cutting at a character or a pair of them and trimming come to, said without the
    functions that do it. A text is cut at the first place where the pair stands, and
    left whole exactly if it stands nowhere. What is left after trimming neither begins
    nor ends with a blank, and only blanks have gone.
-/

namespace Hyperfiction.Text

/-! ## Section 1: One character -/

/-- A text is left whole exactly if the character stands nowhere in it. -/
theorem cutAt_eq_none_iff {a : Char} {cs : List Char} : cutAt a cs = none ↔ a ∉ cs := by
  induction cs with
  | nil => simp [cutAt]
  | cons c cs ih =>
    by_cases hc : c = a
    · simp [cutAt, hc]
    · simp [cutAt, hc, ih, Ne.symm hc]

theorem cutAt_append {a : Char} {l : List Char} (h : a ∉ l) (r : List Char) :
    cutAt a (l ++ a :: r) = some (l, r) := by
  induction l with
  | nil => simp [cutAt]
  | cons c l ih =>
    rw [List.mem_cons, not_or] at h
    rw [List.cons_append, cutAt, if_neg (Ne.symm h.1), ih h.2]
    rfl

/-! ## Section 2: Pairs of characters -/

/-- A pair stands at the start of a text or further on. -/
theorem pair_infix_cons {a b c : Char} {cs : List Char} :
    [a, b] <:+: c :: cs ↔ (a = c ∧ cs.head? = some b) ∨ [a, b] <:+: cs := by
  rw [List.infix_cons_iff, List.cons_prefix_cons]
  cases cs with
  | nil => simp
  | cons d cs => simp [List.cons_prefix_cons, eq_comm]

/-- A text before does not make a pair, if the pair cannot begin in it. -/
theorem not_pair_infix_append {a b : Char} {before cs : List Char} (hb : a ∉ before)
    (h : ¬ [a, b] <:+: cs) : ¬ [a, b] <:+: before ++ cs := by
  induction before with
  | nil => exact h
  | cons c before ih =>
    rw [List.mem_cons, not_or] at hb
    rw [List.cons_append, pair_infix_cons]
    rintro (⟨hfirst, -⟩ | hlater)
    · exact hb.1 hfirst
    · exact ih hb.2 hlater

/-- Nor does another character after it, if it does not end one. -/
theorem not_pair_infix_concat {a b c : Char} {cs : List Char} (hc : b ≠ c)
    (h : ¬ [a, b] <:+: cs) : ¬ [a, b] <:+: cs ++ [c] := by
  rw [List.infix_concat_iff]
  rintro (⟨before, hend⟩ | hcs)
  · have hlast := congrArg List.getLast? hend
    rw [List.getLast?_concat, List.getLast?_append_of_ne_nil _ (by simp)] at hlast
    exact hc (Option.some.inj hlast)
  · exact h hcs

/-- A pair stands in the one text, in the other, or where they meet. -/
theorem pair_infix_append {a b : Char} {l r : List Char} :
    [a, b] <:+: l ++ r ↔
      [a, b] <:+: l ∨ [a, b] <:+: r ∨ (l.getLast? = some a ∧ r.head? = some b) := by
  induction l with
  | nil => simp
  | cons c l ih =>
    rw [List.cons_append, pair_infix_cons, pair_infix_cons, ih]
    cases l with
    | nil =>
      simp only [List.nil_append, List.head?_nil, List.getLast?_nil, List.getLast?_singleton,
        reduceCtorEq, and_false, false_and, or_false, Option.some.injEq]
      rw [eq_comm (a := a)]
      tauto
    | cons d l => simp [or_assoc]

/-- Nor does it stand in two texts joined by a third that takes no part in it. -/
theorem not_pair_infix_joined {a b : Char} {l sep r : List Char} (hl : ¬ [a, b] <:+: l)
    (hr : ¬ [a, b] <:+: r) (hne : sep ≠ []) (ha : a ∉ sep) (hb : b ∉ sep) :
    ¬ [a, b] <:+: l ++ sep ++ r := by
  have hsep : ¬ [a, b] <:+: sep := fun h => ha (h.subset List.mem_cons_self)
  rw [pair_infix_append, pair_infix_append, List.getLast?_append_of_ne_nil _ hne]
  rintro ((h | h | ⟨-, h⟩) | h | ⟨h, -⟩)
  · exact hl h
  · exact hsep h
  · exact hb (List.mem_of_head? h)
  · exact hr h
  · exact ha (List.mem_of_getLast? h)

/-- A text is left whole exactly if the pair stands nowhere in it. -/
theorem cutAtPair_eq_none_iff {a b : Char} {cs : List Char} :
    cutAtPair a b cs = none ↔ ¬ [a, b] <:+: cs := by
  fun_induction cutAtPair a b cs with
  | case1 c d cs hcd =>
    obtain ⟨rfl, rfl⟩ := hcd
    simp [pair_infix_cons]
  | case2 c d cs hcd ih =>
    have hhere : ¬ (a = c ∧ d = b) := fun h => hcd ⟨h.1.symm, h.2⟩
    rw [Option.map_eq_none_iff, ih, pair_infix_cons (c := c)]
    simp [hhere]
  | case3 cs hshort =>
    refine ⟨fun _ hpair => ?_, fun _ => rfl⟩
    obtain ⟨l, r, rfl⟩ := hpair
    cases l with
    | nil => exact hshort _ _ _ rfl
    | cons c l =>
      cases l with
      | nil => exact hshort _ _ _ rfl
      | cons d l => exact hshort _ _ _ rfl

theorem not_pair_infix_of_cutAtPair {a b : Char} {cs l r : List Char}
    (h : cutAtPair a b cs = some (l, r)) : ¬ [a, b] <:+: l := by
  fun_induction cutAtPair a b cs generalizing l r with
  | case1 c d cs hcd =>
    obtain ⟨rfl, rfl⟩ := Prod.mk.inj (Option.some.inj h)
    simp
  | case2 c d cs hcd ih =>
    obtain ⟨⟨l', r'⟩, hcut, he⟩ := Option.map_eq_some_iff.1 h
    obtain ⟨rfl, rfl⟩ := Prod.mk.inj he
    rw [pair_infix_cons]
    rintro (⟨rfl, hhead⟩ | hpair)
    · -- the part before the cut would begin like the text
      have hstart := congrArg List.head? (eq_of_cutAtPair hcut)
      rw [List.head?_append, hhead] at hstart
      exact hcd ⟨rfl, Option.some.inj hstart⟩
    · exact ih hcut hpair
  | case3 => cases h

theorem cutAtPair_append {a b : Char} (hab : a ≠ b) {l : List Char} (h : ¬ [a, b] <:+: l)
    (r : List Char) : cutAtPair a b (l ++ a :: b :: r) = some (l, r) := by
  induction l with
  | nil => simp [cutAtPair]
  | cons c l ih =>
    rw [pair_infix_cons, not_or] at h
    obtain ⟨hhere, hlater⟩ := h
    have hrest := ih hlater
    cases l with
    | nil =>
      have hnext : ¬ (c = a ∧ a = b) := fun h => hab h.2
      simp only [List.nil_append, List.cons_append] at hrest ⊢
      rw [cutAtPair, if_neg hnext, hrest]
      rfl
    | cons d l =>
      have hnext : ¬ (c = a ∧ d = b) := fun h => hhere ⟨h.1.symm, congrArg some h.2⟩
      simp only [List.cons_append] at hrest ⊢
      rw [cutAtPair, if_neg hnext, hrest]
      rfl

/-- A text is cut at the first place where the pair stands. -/
theorem cutAtPair_eq_some_iff {a b : Char} (hab : a ≠ b) {cs l r : List Char} :
    cutAtPair a b cs = some (l, r) ↔ cs = l ++ a :: b :: r ∧ ¬ [a, b] <:+: l := by
  constructor
  · intro h
    exact ⟨eq_of_cutAtPair h, not_pair_infix_of_cutAtPair h⟩
  · rintro ⟨rfl, h⟩
    exact cutAtPair_append hab h r

/-- What follows the pair anywhere in a text is the end of what follows it at the first
    place. -/
theorem suffix_of_first_pair {a b : Char} (hab : a ≠ b) {l r l' r' : List Char}
    (h : ¬ [a, b] <:+: l) (hcs : l ++ a :: b :: r = l' ++ a :: b :: r') : r' <:+ r := by
  induction l generalizing l' with
  | nil =>
    match l', hcs with
    | [], hcs =>
      simp only [List.nil_append, List.cons.injEq, true_and] at hcs
      exact ⟨[], hcs.symm⟩
    | [c], hcs =>
      simp only [List.nil_append, List.cons_append, List.cons.injEq] at hcs
      exact absurd hcs.2.1.symm hab
    | c :: d :: l', hcs =>
      simp only [List.nil_append, List.cons_append, List.cons.injEq] at hcs
      exact ⟨l' ++ [a, b], by simp [hcs.2.2]⟩
  | cons c l ih =>
    rw [pair_infix_cons, not_or] at h
    cases l' with
    | cons c' l' => exact ih h.2 (List.cons.inj hcs).2
    | nil =>
      -- the pair would begin in `l`, and end there or with its own first character
      obtain ⟨rfl, hrest⟩ := List.cons.inj hcs
      cases l with
      | nil => exact absurd (List.cons.inj hrest).1 hab
      | cons d l => exact absurd ⟨rfl, congrArg some (List.cons.inj hrest).1⟩ h.1

/-! ## Section 3: Tokens -/

/-- **Induction along a text**: at its end, at a token, and at a character where no token
    begins. -/
theorem token_induction {motive : List Char → Prop} (IsToken : List Char → Prop)
    (nonempty : ∀ t, IsToken t → t ≠ []) (nil : motive [])
    (token : ∀ t cs, IsToken t → motive cs → motive (t ++ cs))
    (other : ∀ c cs, (∀ t, IsToken t → ¬ t <+: c :: cs) → motive cs → motive (c :: cs))
    (cs : List Char) : motive cs := by
  generalize hn : cs.length = n
  induction n using Nat.strongRecOn generalizing cs with
  | ind n ih =>
    subst hn
    cases cs with
    | nil => exact nil
    | cons c cs =>
      by_cases htoken : ∃ t, IsToken t ∧ t <+: c :: cs
      · -- a token is not empty, so that less is left after it
        obtain ⟨t, ht, rest, hrest⟩ := htoken
        have hpos := List.length_pos_iff.2 (nonempty t ht)
        rw [← hrest] at ih ⊢
        rw [List.length_append] at ih
        exact token t rest ht (ih rest.length (by omega) rest rfl)
      · have hnone : ∀ t, IsToken t → ¬ t <+: c :: cs :=
          fun t ht hstarts => htoken ⟨t, ht, hstarts⟩
        exact other c cs hnone (ih cs.length (Nat.lt_succ_self _) cs rfl)

/-! ## Section 4: Blanks at the ends -/

/-- A text of blanks, which may be empty. -/
def Blank (cs : List Char) : Prop :=
  ∀ c ∈ cs, isBlank c = true

instance (cs : List Char) : Decidable (Blank cs) :=
  decidable_of_iff (cs.all isBlank = true) List.all_eq_true

/-- A text with no blank at either end. -/
structure Trimmed (cs : List Char) : Prop where
  head : ∀ c ∈ cs.head?, isBlank c = false
  last : ∀ c ∈ cs.getLast?, isBlank c = false

instance (cs : List Char) : Decidable (Trimmed cs) :=
  decidable_of_iff
    (cs.head?.all (!isBlank ·) = true ∧ cs.getLast?.all (!isBlank ·) = true) <| by
    simp only [Option.all_eq_true, Bool.not_eq_true']
    exact ⟨fun h => ⟨h.1, h.2⟩, fun h => ⟨h.head, h.last⟩⟩

/-- Texts with no blank at either end may have anything between them. -/
theorem Trimmed.append {l r : List Char} (hl : Trimmed l) (hr : Trimmed r) (hlne : l ≠ [])
    (hrne : r ≠ []) (between : List Char) : Trimmed (l ++ between ++ r) where
  head := by
    rw [List.append_assoc, List.head?_append_of_ne_nil _ hlne]
    exact hl.head
  last := by
    rw [List.getLast?_append_of_ne_nil _ hrne]
    exact hr.last

theorem trimStart_append {gap : List Char} (h : Blank gap) (cs : List Char) :
    trimStart (gap ++ cs) = trimStart cs :=
  List.dropWhile_append_of_pos h

theorem trimStart_eq_self {cs : List Char} (h : ∀ c ∈ cs.head?, isBlank c = false) :
    trimStart cs = cs := by
  cases cs with
  | nil => rfl
  | cons c cs => exact List.dropWhile_cons_of_neg (by simp [h c rfl])

/-- Trimming at the end is trimming the reverse at its start. -/
theorem trimEnd_eq_reverse (cs : List Char) : trimEnd cs = (trimStart cs.reverse).reverse := rfl

theorem trimEnd_append {gap : List Char} (h : Blank gap) (cs : List Char) :
    trimEnd (cs ++ gap) = trimEnd cs := by
  have hgap : Blank gap.reverse := fun c hc => h c (List.mem_reverse.1 hc)
  rw [trimEnd_eq_reverse, List.reverse_append, trimStart_append hgap]
  rfl

theorem trimEnd_eq_self {cs : List Char} (h : ∀ c ∈ cs.getLast?, isBlank c = false) :
    trimEnd cs = cs := by
  rw [← List.head?_reverse] at h
  rw [trimEnd_eq_reverse, trimStart_eq_self h, List.reverse_reverse]

theorem trimStart_blank {cs : List Char} (h : Blank cs) : trimStart cs = [] :=
  List.dropWhile_eq_nil_iff.2 h

/-- Blanks around a trimmed text are what trimming takes away. -/
theorem trim_pad {before cs after : List Char} (hb : Blank before) (hc : Trimmed cs)
    (ha : Blank after) : trim (before ++ cs ++ after) = cs := by
  unfold trim
  rw [List.append_assoc, trimStart_append hb]
  cases cs with
  | nil =>
    rw [List.nil_append, trimStart_blank ha]
    rfl
  | cons c cs =>
    have hhead : ∀ d ∈ (c :: cs ++ after).head?, isBlank d = false := hc.head
    rw [trimStart_eq_self hhead, trimEnd_append ha, trimEnd_eq_self hc.last]

/-- A text is its trimmed middle between blanks. -/
theorem exists_pad (cs : List Char) :
    ∃ before after, Blank before ∧ Blank after ∧ cs = before ++ trim cs ++ after := by
  have hstart : ∀ cs : List Char, ∃ gap, Blank gap ∧ cs = gap ++ trimStart cs := by
    intro cs
    refine ⟨cs.takeWhile isBlank, fun c hc => List.mem_takeWhile_imp hc, ?_⟩
    exact List.takeWhile_append_dropWhile.symm
  obtain ⟨before, hb, hcs⟩ := hstart cs
  obtain ⟨after, ha, hrest⟩ := hstart (trimStart cs).reverse
  refine ⟨before, after.reverse, hb, fun c hc => ha c (List.mem_reverse.1 hc), ?_⟩
  rw [List.append_assoc]
  unfold trim
  rw [trimEnd_eq_reverse, ← List.reverse_append, ← hrest, List.reverse_reverse]
  exact hcs

theorem head_trimStart (cs : List Char) : ∀ c ∈ (trimStart cs).head?, isBlank c = false := by
  intro c hc
  have hhead := List.head?_dropWhile_not isBlank cs
  unfold trimStart at hc
  rw [hc] at hhead
  exact hhead

theorem trimmed_trim (cs : List Char) : Trimmed (trim cs) where
  head := by
    intro c hc
    -- what is trimmed at its end still begins as before
    obtain ⟨after, h⟩ : trim cs <+: trimStart cs := List.rdropWhile_prefix _ _
    refine head_trimStart cs c ?_
    rw [← h]
    exact List.mem_head?_append_of_mem_head? hc
  last := by
    unfold trim
    rw [trimEnd_eq_reverse, List.getLast?_reverse]
    exact head_trimStart _

end Hyperfiction.Text
