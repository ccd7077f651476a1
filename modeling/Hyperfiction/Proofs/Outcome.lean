import Hyperfiction.Rendering

/-! # Outcomes of computations

    The outcome of a computation follows from the outcomes of its parts. A property
    of computations is *closed* when it passes from the parts to the whole, so that it
    holds of all that a template does if it holds of the code in it. A relation between
    computations of two evaluators is *congruent* when it does the same. One closed
    property: a computation is *determined* when its result and the variables it leaves
    do not depend on what the evaluator remembers.
-/

namespace Hyperfiction

namespace Action

variable {σ τ α β : Type}

/-! ## Section 1: Sequencing -/

@[simp] theorem outcome_pure (x : α) (w : World σ) :
    (pure x : Action σ α).outcome w = (.ok x, w) := rfl

@[simp] theorem outcome_throw (e : TemplateError) (w : World σ) :
    (throw e : Action σ α).outcome w = (.error e, w) := rfl

theorem outcome_bind (a : Action σ α) (f : α → Action σ β) (w : World σ) :
    (a >>= f).outcome w =
      match a.outcome w with
      | (.ok x, w₁) => (f x).outcome w₁
      | (.error e, w₁) => (.error e, w₁) := by
  have h : (a >>= f).outcome w
      = (ExceptT.bindCont f (a.outcome w).1 : StateM _ _) (a.outcome w).2 := rfl
  rw [h]
  rcases a.outcome w with ⟨x | x, w₁⟩ <;> rfl

/-- A sequence succeeds when both parts do, the second in the world the first left. -/
theorem bind_eq_ok {a : Action σ α} {f : α → Action σ β} {w w' : World σ} {y : β} :
    (a >>= f).outcome w = (.ok y, w') ↔
      ∃ x w₁, a.outcome w = (.ok x, w₁) ∧ (f x).outcome w₁ = (.ok y, w') := by
  rw [outcome_bind]
  rcases a.outcome w with ⟨e | x, w₁⟩
  · simp
  · constructor
    · intro h
      exact ⟨x, w₁, rfl, h⟩
    · rintro ⟨x', w₁', h, hf⟩
      obtain ⟨hx, rfl⟩ := Prod.mk.inj h
      obtain rfl := Except.ok.inj hx
      exact hf

/-- A sequence fails when its first part does, or when the second does after it. -/
theorem bind_eq_error {a : Action σ α} {f : α → Action σ β} {w w' : World σ}
    {e : TemplateError} :
    (a >>= f).outcome w = (.error e, w') ↔
      a.outcome w = (.error e, w') ∨
        ∃ x w₁, a.outcome w = (.ok x, w₁) ∧ (f x).outcome w₁ = (.error e, w') := by
  rw [outcome_bind]
  rcases a.outcome w with ⟨e' | x, w₁⟩
  · simp
  · constructor
    · intro h
      exact .inr ⟨x, w₁, rfl, h⟩
    · rintro (h | ⟨x', w₁', h, hf⟩)
      · simp at h
      · obtain ⟨hx, rfl⟩ := Prod.mk.inj h
        obtain rfl := Except.ok.inj hx
        exact hf

/-! ## Section 2: Closed properties and congruent relations -/

/-- A property that a computation has as soon as its parts have it. -/
structure IsClosed (Q : ∀ ⦃α : Type⦄, Action σ α → Prop) : Prop where
  pure : ∀ {α : Type} (x : α), Q (Pure.pure x : Action σ α)
  throw : ∀ {α : Type} (e : TemplateError), Q (MonadExcept.throw e : Action σ α)
  bind : ∀ {α β : Type} {a : Action σ α} {f : α → Action σ β}, Q a → (∀ x, Q (f x)) →
    Q (a >>= f)

/-- A relation that holds between two computations as soon as it holds between their parts. -/
structure IsCongruent (R : ∀ ⦃α : Type⦄, Action σ α → Action τ α → Prop) : Prop where
  pure : ∀ {α : Type} (x : α), R (Pure.pure x : Action σ α) (Pure.pure x : Action τ α)
  throw : ∀ {α : Type} (e : TemplateError),
    R (MonadExcept.throw e : Action σ α) (MonadExcept.throw e : Action τ α)
  bind : ∀ {α β : Type} {a : Action σ α} {a' : Action τ α} {f : α → Action σ β}
    {f' : α → Action τ β}, R a a' → (∀ x, R (f x) (f' x)) → R (a >>= f) (a' >>= f')

/-- A closed property is a relation that does not look at the second computation. -/
theorem IsClosed.isCongruent {Q : ∀ ⦃α : Type⦄, Action σ α → Prop} (hQ : IsClosed Q) :
    IsCongruent fun _ (a _ : Action σ _) => Q a :=
  ⟨hQ.pure, hQ.throw, hQ.bind⟩

/-! ## Section 3: Determined computations -/

/-- The result and the variables left do not depend on the evaluator's memory. -/
def IsDetermined (a : Action σ α) : Prop :=
  ∀ state m m',
    (a.outcome ⟨state, m⟩).1 = (a.outcome ⟨state, m'⟩).1 ∧
    (a.outcome ⟨state, m⟩).2.state = (a.outcome ⟨state, m'⟩).2.state

theorem IsDetermined.pure (x : α) : IsDetermined (pure x : Action σ α) :=
  fun _ _ _ => ⟨rfl, rfl⟩

theorem IsDetermined.throw (e : TemplateError) : IsDetermined (throw e : Action σ α) :=
  fun _ _ _ => ⟨rfl, rfl⟩

theorem IsDetermined.bind {a : Action σ α} {f : α → Action σ β} (ha : a.IsDetermined)
    (hf : ∀ x, (f x).IsDetermined) : (a >>= f).IsDetermined := by
  intro state m m'
  obtain ⟨hr, hs⟩ := ha state m m'
  rw [outcome_bind, outcome_bind]
  rcases h : a.outcome ⟨state, m⟩ with ⟨r, ⟨s, n⟩⟩
  rcases h' : a.outcome ⟨state, m'⟩ with ⟨r', ⟨s', n'⟩⟩
  rw [h, h'] at hr hs
  obtain rfl : r = r' := hr
  obtain rfl : s = s' := hs
  -- both go on from the same variables, with memories that need not agree
  cases r with
  | error e => exact ⟨rfl, rfl⟩
  | ok x => exact hf x s n n'

theorem IsDetermined.isClosed : IsClosed fun _ (a : Action σ _) => a.IsDetermined :=
  ⟨.pure, .throw, .bind⟩

/-- A determined computation succeeds again under any other memory. -/
theorem IsDetermined.outcome_ok {a : Action σ α} (ha : a.IsDetermined) {state : StateBag}
    {m n : σ} {x : α} {after : StateBag} (h : a.outcome ⟨state, m⟩ = (.ok x, ⟨after, n⟩)) (m' : σ) :
    ∃ n', a.outcome ⟨state, m'⟩ = (.ok x, ⟨after, n'⟩) := by
  obtain ⟨hr, hs⟩ := ha state m m'
  rcases h' : a.outcome ⟨state, m'⟩ with ⟨r', ⟨s', n'⟩⟩
  rw [h, h'] at hr hs
  obtain rfl : r' = .ok x := hr.symm
  obtain rfl : s' = after := hs.symm
  exact ⟨n', rfl⟩

end Action

end Hyperfiction
