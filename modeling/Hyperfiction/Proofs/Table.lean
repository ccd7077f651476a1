import Mathlib.Data.List.Induction
import Hyperfiction.Table

/-! # The order of fields

    Fields that are put together one by one are in the strict order of their keys. Pairs
    that are in that order already are the fields they give.
-/

namespace Hyperfiction.Table

variable {α : Type}

/-- The order is one of the keys. -/
theorem ascending_iff_keys {fs : Fields α} : Ascending fs ↔ (keys fs).Pairwise (· < ·) :=
  List.pairwise_map.symm

/-- Taking a key away keeps the order. -/
theorem Ascending.erase {fs : Fields α} (h : Ascending fs) (key : String) :
    Ascending (fs.erase key) :=
  h.filter _

/-- A key before all others has no value. -/
theorem get?_eq_none_of_lt {fs : Fields α} {key : String} (h : ∀ p ∈ fs, key < p.1) :
    get? key fs = none := by
  induction fs with
  | nil => rfl
  | cons p fs ih =>
    obtain ⟨k, v⟩ := p
    have hlt : key < k := h _ List.mem_cons_self
    have hrest : get? key fs = none := ih fun q hq => h q (List.mem_cons_of_mem _ hq)
    simp only [get?, if_neg (String.ne_of_lt hlt).symm, hrest]

/-- In ascending fields the key of the first pair does not stand again. -/
theorem Ascending.get?_rest {p : String × α} {fs : Fields α} (h : Ascending (p :: fs)) :
    get? p.1 fs = none :=
  get?_eq_none_of_lt fun _ hq => List.rel_of_pairwise_cons h hq

/-- Merging keeps the order of what is merged into. -/
theorem Ascending.merge {base : Fields α} (h : Ascending base) (upper : Fields α) :
    Ascending (base.merge upper) := by
  induction upper generalizing base with
  | nil => exact h
  | cons p upper ih => exact ih (h.insert p.1 p.2)

/-- A key after all others gets its value at the end. -/
theorem insert_last {fs : Fields α} {key : String} (h : ∀ p ∈ fs, p.1 < key) (value : α) :
    insert key value fs = fs ++ [(key, value)] := by
  induction fs with
  | nil => rfl
  | cons p fs ih =>
    obtain ⟨k, v⟩ := p
    have hlt : k < key := h _ List.mem_cons_self
    unfold insert
    rw [if_neg (String.ne_of_lt hlt), if_neg (String.lt_asymm hlt),
      ih fun q hq => h q (List.mem_cons_of_mem _ hq)]
    rfl

theorem merge_append {base upper : Fields α} (h : Ascending (base ++ upper)) :
    base.merge upper = base ++ upper := by
  induction upper generalizing base with
  | nil => exact (List.append_nil base).symm
  | cons p upper ih =>
    obtain ⟨k, v⟩ := p
    have hlast : insert k v base = base ++ [(k, v)] :=
      insert_last (fun q hq => (List.pairwise_append.1 h).2.2 q hq _ List.mem_cons_self) v
    -- the first pair goes behind the base, and the rest is merged into both
    have hsplit : base ++ (k, v) :: upper = base ++ [(k, v)] ++ upper := by
      rw [List.append_assoc]
      rfl
    show merge (insert k v base) upper = _
    rw [hlast, ih (hsplit ▸ h), hsplit]

theorem Ascending.nodup_keys {fs : Fields α} (h : Ascending fs) : (keys fs).Nodup :=
  (ascending_iff_keys.1 h).imp fun hlt => String.ne_of_lt hlt

/-- Of what is merged in order, the pair with a key decides over it, and where there is none
    it is as it was. -/
theorem get?_merge {base upper : Fields α} (h : Ascending upper) (key : String) :
    get? key (base.merge upper) = (get? key upper).or (get? key base) := by
  induction upper generalizing base with
  | nil => rfl
  | cons p upper ih =>
    obtain ⟨k, v⟩ := p
    have hrest : get? k upper = none := h.get?_rest
    show get? key (merge (insert k v base) upper) = _
    rw [ih h.of_cons, get?_insert]
    by_cases hk : k = key
    · -- no later pair has this key
      subst hk
      simp [get?, hrest]
    · simp [get?, hk]

/-- The fields given by pairs are in order. -/
theorem ascending_ofPairs (ps : List (String × α)) : Ascending (ofPairs ps) :=
  ascending_nil.merge ps

/-- The last of the pairs with the key has the value. -/
def LastHas (ps : List (String × α)) (key : String) (value : α) : Prop :=
  ∃ before after, ps = before ++ (key, value) :: after ∧ key ∉ keys after

theorem lastHas_concat {ps : List (String × α)} {p : String × α} {key : String} {value : α} :
    LastHas (ps ++ [p]) key value ↔ p = (key, value) ∨ (p.1 ≠ key ∧ LastHas ps key value) := by
  constructor
  · rintro ⟨before, after, hsplit, hafter⟩
    rcases List.eq_nil_or_concat after with rfl | ⟨after, q, rfl⟩
    · obtain ⟨-, hlast⟩ := List.append_inj' hsplit rfl
      exact .inl (List.singleton_inj.1 hlast)
    · rw [List.concat_eq_append, ← List.cons_append, ← List.append_assoc] at hsplit
      obtain ⟨rfl, hlast⟩ := List.append_inj' hsplit rfl
      obtain rfl := List.singleton_inj.1 hlast
      simp only [keys, List.concat_eq_append, List.map_append, List.mem_append, not_or,
        List.map_singleton, List.mem_singleton] at hafter
      exact .inr ⟨Ne.symm hafter.2, before, after, rfl, hafter.1⟩
  · rintro (rfl | ⟨hne, before, after, rfl, hafter⟩)
    · exact ⟨ps, [], rfl, List.not_mem_nil⟩
    · refine ⟨before, after ++ [p], by simp, ?_⟩
      simp only [keys, List.map_append, List.mem_append, not_or, List.map_singleton,
        List.mem_singleton]
      exact ⟨hafter, Ne.symm hne⟩

theorem ofPairs_concat (ps : List (String × α)) (p : String × α) :
    ofPairs (ps ++ [p]) = insert p.1 p.2 (ofPairs ps) :=
  List.foldl_append

/-- Of pairs with one key the last one counts. -/
theorem get?_ofPairs_eq_some_iff {ps : List (String × α)} {key : String} {value : α} :
    get? key (ofPairs ps) = some value ↔ LastHas ps key value := by
  induction ps using List.reverseRecOn with
  | nil =>
    refine ⟨fun h => (Option.some_ne_none _ h.symm).elim, ?_⟩
    rintro ⟨before, after, hsplit, -⟩
    simp at hsplit
  | append_singleton ps p ih =>
    obtain ⟨k, v⟩ := p
    rw [ofPairs_concat, lastHas_concat, get?_insert, ← ih]
    by_cases hk : k = key <;> simp [hk]

theorem get?_ofPairs_eq_none_iff {ps : List (String × α)} {key : String} :
    get? key (ofPairs ps) = none ↔ key ∉ keys ps := by
  induction ps using List.reverseRecOn with
  | nil => simp [ofPairs, merge, keys]
  | append_singleton ps p ih =>
    rw [ofPairs_concat, get?_insert]
    by_cases hk : p.1 = key
    · simp [keys, hk]
    · simp [ih, keys, hk, Ne.symm hk]

/-- Pairs in order are the fields they give. -/
theorem ofPairs_of_ascending {ps : Fields α} (h : Ascending ps) : ofPairs ps = ps :=
  merge_append h

end Hyperfiction.Table
