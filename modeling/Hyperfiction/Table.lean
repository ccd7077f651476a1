/-! # Tables

    Objects, indexes and the story's variables map keys to values and show them
    in the order of their keys. A `Table` keeps its pairs sorted by key; each
    operation says what it does through `get?`. Most keys are texts: `Fields` are
    tables of these.
-/

namespace Hyperfiction

/-- Pairs of a key and a value, in the order of the keys. -/
abbrev Table (κ α : Type) := List (κ × α)

/-- Pairs of a text and a value, in the order of the texts. -/
abbrev Fields (α : Type) := Table String α

namespace Table

variable {κ α : Type} [DecidableEq κ]

/-- The value of a key. -/
def get? (key : κ) : Table κ α → Option α
  | [] => none
  | (k, v) :: rest => if k = key then some v else get? key rest

/-- Whether a key has a value. -/
def contains (key : κ) (fs : Table κ α) : Bool :=
  (get? key fs).isSome

/-- Gives a key its value, replacing the one it has. -/
def insert [LT κ] [DecidableLT κ] (key : κ) (value : α) : Table κ α → Table κ α
  | [] => [(key, value)]
  | (k, v) :: rest =>
    if k = key then (key, value) :: rest
    else if key < k then (key, value) :: (k, v) :: rest
    else (k, v) :: insert key value rest

/-- Takes a key and its value away. -/
def erase (key : κ) (fs : Table κ α) : Table κ α :=
  fs.filter fun p => p.1 ≠ key

/-- The keys, in order. -/
def keys (fs : Table κ α) : List κ :=
  fs.map Prod.fst

/-- Every pair of `upper` replaces that of `base` with the same key. -/
def merge [LT κ] [DecidableLT κ] (base upper : Table κ α) : Table κ α :=
  upper.foldl (fun fs p => insert p.1 p.2 fs) base

/-- The fields given by pairs in any order; of two pairs with one key the later counts. -/
def ofPairs [LT κ] [DecidableLT κ] (ps : List (κ × α)) : Table κ α :=
  merge [] ps

@[simp] theorem get?_nil (key : κ) : get? key ([] : Table κ α) = none := rfl

/-- What is found under a key stands there. -/
theorem mem_of_get? {key : κ} {value : α} {fs : Table κ α} (h : get? key fs = some value) :
    (key, value) ∈ fs := by
  fun_induction get? key fs with
  | case1 => cases h
  | case2 v rest =>
    obtain rfl := Option.some.inj h
    exact List.mem_cons_self
  | case3 k v rest _ ih => exact List.mem_cons_of_mem _ (ih h)

theorem get?_insert [LT κ] [DecidableLT κ] (key other : κ) (value : α) (fs : Table κ α) :
    get? other (insert key value fs) = if key = other then some value else get? other fs := by
  fun_induction insert key value fs with
  | case1 => simp [get?]
  | case2 => by_cases h : key = other <;> simp_all [get?]
  | case3 => by_cases h : key = other <;> simp_all [get?]
  | case4 k v rest h1 h2 ih => by_cases h : key = other <;> simp_all [get?]

@[simp] theorem get?_insert_self [LT κ] [DecidableLT κ] (key : κ) (value : α) (fs : Table κ α) :
    get? key (insert key value fs) = some value := by
  simp [get?_insert]

theorem get?_insert_ne [LT κ] [DecidableLT κ] {key other : κ} (h : key ≠ other) (value : α)
    (fs : Table κ α) :
    get? other (insert key value fs) = get? other fs := by
  simp [get?_insert, h]

theorem get?_erase (key other : κ) (fs : Table κ α) :
    get? other (erase key fs) = if key = other then none else get? other fs := by
  induction fs with
  | nil => simp [erase]
  | cons p rest ih =>
    obtain ⟨k, v⟩ := p
    simp only [erase, List.filter_cons] at ih ⊢
    by_cases h : k = key <;> by_cases h' : key = other <;> simp_all [get?]

/-! ## Order -/

section

variable [LT κ]

/-- The keys ascend, so that none of them stands twice. -/
def Ascending (fs : Table κ α) : Prop :=
  fs.Pairwise fun p q => p.1 < q.1

omit [DecidableEq κ] in
theorem ascending_nil : Ascending ([] : Table κ α) :=
  List.Pairwise.nil

variable [DecidableLT κ]

theorem mem_insert {key : κ} {value : α} {fs : Table κ α} {p : κ × α}
    (h : p ∈ insert key value fs) : p = (key, value) ∨ p ∈ fs := by
  fun_induction insert key value fs with
  | case1 => exact .inl (List.mem_singleton.1 h)
  | case2 v rest =>
    rcases List.mem_cons.1 h with rfl | h
    · exact .inl rfl
    · exact .inr (List.mem_cons_of_mem _ h)
  | case3 k v rest =>
    rcases List.mem_cons.1 h with rfl | h
    · exact .inl rfl
    · exact .inr h
  | case4 k v rest _ _ ih =>
    rcases List.mem_cons.1 h with rfl | h
    · exact .inr List.mem_cons_self
    · exact (ih h).imp id (List.mem_cons_of_mem _)

/-- A key that has no value yet comes to the others. -/
theorem perm_insert {key : κ} {fs : Table κ α} (h : get? key fs = none) (value : α) :
    (insert key value fs).Perm ((key, value) :: fs) := by
  fun_induction insert key value fs with
  | case1 => exact .refl _
  | case2 v rest => simp [get?] at h
  | case3 k v rest => exact .refl _
  | case4 k v rest hne _ ih =>
    have hrest : get? key rest = none := by
      simp only [get?, if_neg hne] at h
      exact h
    exact ((ih hrest).cons (k, v)).trans (.swap _ _ _)

variable [LE κ] [Std.IsLinearOrder κ] [Std.LawfulOrderLT κ]

/-- Giving a key its value keeps the order. -/
theorem Ascending.insert {fs : Table κ α} (h : Ascending fs) (key : κ) (value : α) :
    Ascending (Table.insert key value fs) := by
  fun_induction Table.insert key value fs with
  | case1 => exact List.pairwise_singleton _ _
  | case2 v rest => exact List.Pairwise.cons (fun p hp => List.rel_of_pairwise_cons h hp) h.of_cons
  | case3 k v rest _ hlt =>
    refine List.Pairwise.cons (fun p hp => ?_) h
    rcases List.mem_cons.1 hp with rfl | hp
    · exact hlt
    · exact Std.lt_trans hlt (List.rel_of_pairwise_cons h hp)
  | case4 k v rest hne hge ih =>
    refine List.Pairwise.cons (fun p hp => ?_) (ih h.of_cons)
    rcases mem_insert hp with rfl | hp
    · exact Std.lt_of_le_of_ne (Std.not_lt.1 hge) hne
    · exact List.rel_of_pairwise_cons h hp

omit [DecidableLT κ] [Std.IsLinearOrder κ] in
/-- In ascending fields every pair is found by its key. -/
theorem Ascending.get?_of_mem {p : κ × α} {fs : Table κ α} (h : Ascending fs) (hp : p ∈ fs) :
    get? p.1 fs = some p.2 := by
  induction fs with
  | nil => cases hp
  | cons q fs ih =>
    obtain ⟨k, v⟩ := q
    rcases List.mem_cons.1 hp with rfl | hp
    · simp [get?]
    · have hlt : k < p.1 := List.rel_of_pairwise_cons h hp
      simp only [get?, if_neg (Std.ne_of_lt hlt)]
      exact ih h.of_cons hp

end

end Table

end Hyperfiction
