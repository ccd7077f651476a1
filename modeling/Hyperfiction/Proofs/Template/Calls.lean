import Hyperfiction.Proofs.Determined

/-! # The calls of an expansion

    An expansion asks its evaluator for one use of code after the other. Which uses, and in
    which order, is seen by an evaluator that notes down what it is asked for and otherwise
    does what another one does. So what comes of an expansion are three things, the calls
    that it makes, its result and the world that it leaves, and of a sequence comes what
    comes of its parts, one after the other, up to the first failure.
-/

namespace Hyperfiction

variable {σ α β : Type}

open Template (Use)

/-! ## Section 1: Evaluators that note their calls -/

/-- The world with a log of calls beside the evaluator's memory. -/
def World.withLog (w : World σ) (log : List Use) : World (σ × List Use) :=
  { state := w.state, memory := (w.memory, log) }

/-- The computation with the use of code that it is for noted down. -/
def Action.noted (use : Use) (a : Action σ α) : Action (σ × List Use) α := do
  let w ← get
  let (result, left) := a.outcome { state := w.state, memory := w.memory.1 }
  set (left.withLog (w.memory.2 ++ [use]))
  match result with
  | .ok x => return x
  | .error e => throw e

/-- Does what an evaluator does, and notes what it is asked for. -/
def Evaluator.noting (ev : Evaluator σ) : Evaluator (σ × List Use) where
  evaluate scene code := (ev.evaluate scene code).noted (.evaluated code)
  execute scene code := (ev.execute scene code).noted (.executed code)

namespace Action

/-- What a computation notes down. -/
def log (a : Action (σ × List Use) α) (w : World σ) : List Use :=
  (a.outcome (w.withLog [])).2.memory.2

/-- The first computation does what the second one does. It notes down calls that do not
    depend on what has been noted before. -/
def Notes (noting : Action (σ × List Use) α) (a : Action σ α) : Prop :=
  ∀ w before, noting.outcome (w.withLog before)
    = ((a.outcome w).1, (a.outcome w).2.withLog (before ++ noting.log w))

theorem outcome_noted (use : Use) (a : Action σ α) (w : World σ) (before : List Use) :
    (a.noted use).outcome (w.withLog before)
      = ((a.outcome w).1, (a.outcome w).2.withLog (before ++ [use])) := by
  have h : (a.noted use).outcome (w.withLog before)
      = ((match (a.outcome w).1 with
          | .ok x => return x
          | .error e => throw e : Action (σ × List Use) α)).outcome
            ((a.outcome w).2.withLog (before ++ [use])) := rfl
  rw [h]
  cases (a.outcome w).1 with
  | ok x => rfl
  | error e => rfl

theorem log_noted (use : Use) (a : Action σ α) (w : World σ) : (a.noted use).log w = [use] := by
  unfold log
  rw [outcome_noted]
  rfl

theorem notes_noted (use : Use) (a : Action σ α) : Notes (a.noted use) a := by
  intro w before
  rw [outcome_noted, log_noted]

theorem Notes.pure (x : α) : Notes (Pure.pure x : Action (σ × List Use) α) (Pure.pure x) := by
  intro w before
  simp [log, World.withLog]

theorem Notes.throw (e : TemplateError) :
    Notes (MonadExcept.throw e : Action (σ × List Use) α) (MonadExcept.throw e) := by
  intro w before
  simp [log, World.withLog]

/-- A sequence notes what its first part notes, and if that succeeds what the second part
    notes after it. -/
theorem Notes.outcome_bind {a' : Action (σ × List Use) α} {a : Action σ α}
    {f' : α → Action (σ × List Use) β} {f : α → Action σ β} (ha : Notes a' a)
    (hf : ∀ x, Notes (f' x) (f x)) (w : World σ) (before : List Use) :
    (a' >>= f').outcome (w.withLog before) = (((a >>= f).outcome w).1,
      ((a >>= f).outcome w).2.withLog (before ++ a'.log w ++
        match a.outcome w with
        | (.ok x, w₁) => (f' x).log w₁
        | (.error _, _) => [])) := by
  rw [Action.outcome_bind, Action.outcome_bind, ha w before]
  rcases a.outcome w with ⟨e | x, w₁⟩
  · -- the first part fails, and nothing is noted after it
    rw [List.append_nil]
  · exact hf x w₁ (before ++ a'.log w)

theorem Notes.log_bind {a' : Action (σ × List Use) α} {a : Action σ α}
    {f' : α → Action (σ × List Use) β} {f : α → Action σ β} (ha : Notes a' a)
    (hf : ∀ x, Notes (f' x) (f x)) (w : World σ) :
    (a' >>= f').log w = a'.log w ++
      match a.outcome w with
      | (.ok x, w₁) => (f' x).log w₁
      | (.error _, _) => [] := by
  have h := ha.outcome_bind hf w []
  rw [List.nil_append] at h
  show ((a' >>= f').outcome (w.withLog [])).2.memory.2 = _
  rw [h]
  rfl

theorem Notes.bind {a' : Action (σ × List Use) α} {a : Action σ α}
    {f' : α → Action (σ × List Use) β} {f : α → Action σ β} (ha : Notes a' a)
    (hf : ∀ x, Notes (f' x) (f x)) : Notes (a' >>= f') (a >>= f) := by
  intro w before
  rw [ha.outcome_bind hf, ha.log_bind hf, List.append_assoc]

theorem Notes.ite {p : Prop} [Decidable p] {a' b' : Action (σ × List Use) α} {a b : Action σ α}
    (ha : Notes a' a) (hb : Notes b' b) :
    Notes (if p then a' else b') (if p then a else b) := by
  by_cases hp : p
  · rw [if_pos hp, if_pos hp]
    exact ha
  · rw [if_neg hp, if_neg hp]
    exact hb

theorem Notes.isCongruent :
    IsCongruent fun _ (a' : Action (σ × List Use) _) (a : Action σ _) => Notes a' a :=
  ⟨.pure, .throw, .bind⟩

end Action

/-- An evaluator that notes its calls expands every text as the other one does. -/
theorem Evaluator.notes_expandText (ev : Evaluator σ) (scene : Scene) (text : String) :
    Action.Notes (ev.noting.expandText scene text) (ev.expandText scene text) := by
  apply Evaluator.expandText_related Action.Notes.isCongruent
  intro t _ use _
  cases use with
  | evaluated code => exact Action.notes_noted _ _
  | executed code => exact Action.notes_noted _ _

/-! ## Section 2: What comes of an expansion -/

/-- What comes of asking an evaluator for things: the calls in order, the result or the
    error, and the world afterwards. -/
structure Expansion (σ α : Type) where
  calls : List Use
  result : Except TemplateError α
  world : World σ

namespace Expansion

/-- And then, if there is no error, what comes of the next thing. -/
def andThen (x : Expansion σ α) (next : α → World σ → Expansion σ β) : Expansion σ β :=
  match x.result with
  | .ok v => { next v x.world with calls := x.calls ++ (next v x.world).calls }
  | .error e => { calls := x.calls, result := .error e, world := x.world }

/-- What comes of a computation, with the calls that are noted while it is done. -/
def ofNoted (noting : Action (σ × List Use) α) (a : Action σ α) (w : World σ) : Expansion σ α :=
  { calls := noting.log w, result := (a.outcome w).1, world := (a.outcome w).2 }

theorem ofNoted_ite (p : Prop) [Decidable p] (a' b' : Action (σ × List Use) α)
    (a b : Action σ α) (w : World σ) :
    ofNoted (if p then a' else b') (if p then a else b) w
      = if p then ofNoted a' a w else ofNoted b' b w := by
  by_cases hp : p
  · simp only [if_pos hp]
  · simp only [if_neg hp]

/-- What comes of a sequence. -/
theorem ofNoted_bind {a' : Action (σ × List Use) α} {a : Action σ α}
    {f' : α → Action (σ × List Use) β} {f : α → Action σ β} (ha : Action.Notes a' a)
    (hf : ∀ x, Action.Notes (f' x) (f x)) (w : World σ) :
    ofNoted (a' >>= f') (a >>= f) w
      = (ofNoted a' a w).andThen fun x w₁ => ofNoted (f' x) (f x) w₁ := by
  unfold ofNoted andThen
  rw [ha.log_bind hf, Action.outcome_bind]
  rcases a.outcome w with ⟨e | x, w₁⟩
  · simp
  · rfl

end Expansion

namespace Evaluator

/-- What comes of expanding a text. -/
def expansion (ev : Evaluator σ) (scene : Scene) (text : String) (w : World σ) :
    Expansion σ String where
  calls := (ev.noting.expandText scene text).log w
  result := ((ev.expandText scene text).outcome w).1
  world := ((ev.expandText scene text).outcome w).2

/-- What comes of asking for the value of an expression, which is one call. -/
def asking (ev : Evaluator σ) (scene : Scene) (code : String) (w : World σ) :
    Expansion σ Value where
  calls := [.evaluated code]
  result := ((ev.evaluate scene code).outcome w).1
  world := ((ev.evaluate scene code).outcome w).2

theorem expansion_eq (ev : Evaluator σ) (scene : Scene) (text : String) :
    ev.expansion scene text
      = .ofNoted (ev.noting.expandText scene text) (ev.expandText scene text) := rfl

theorem asking_eq (ev : Evaluator σ) (scene : Scene) (code : String) :
    ev.asking scene code
      = .ofNoted (ev.noting.evaluate scene code) (ev.evaluate scene code) := by
  funext w
  have hlog : (ev.noting.evaluate scene code).log w = [.evaluated code] := Action.log_noted _ _ w
  unfold asking Expansion.ofNoted
  rw [hlog]

end Evaluator

/-! ## Section 3: The world after the calls -/

namespace Evaluator

/-- The world that a use of code leaves. -/
def leftBy (ev : Evaluator σ) (scene : Scene) (use : Use) (w : World σ) : World σ :=
  match use with
  | .evaluated code => ((ev.evaluate scene code).outcome w).2
  | .executed code => ((ev.execute scene code).outcome w).2

/-- The world that uses of code leave, one after the other. -/
def leftByAll (ev : Evaluator σ) (scene : Scene) : List Use → World σ → World σ
  | [], w => w
  | use :: rest, w => leftByAll ev scene rest (ev.leftBy scene use w)

theorem leftByAll_append (ev : Evaluator σ) (scene : Scene) (uses rest : List Use) (w : World σ) :
    ev.leftByAll scene (uses ++ rest) w = ev.leftByAll scene rest (ev.leftByAll scene uses w) := by
  induction uses generalizing w with
  | nil => rfl
  | cons use uses ih => exact ih (ev.leftBy scene use w)

/-- The computation leaves the world that the noted uses of code leave. -/
def Tracks (ev : Evaluator σ) (scene : Scene) (noting : Action (σ × List Use) α)
    (a : Action σ α) : Prop :=
  Action.Notes noting a ∧ ∀ w, (a.outcome w).2 = ev.leftByAll scene (noting.log w) w

theorem tracks_noted (ev : Evaluator σ) (scene : Scene) (use : Use) (a : Action σ α)
    (h : ∀ w, (a.outcome w).2 = ev.leftBy scene use w) : ev.Tracks scene (a.noted use) a := by
  refine ⟨Action.notes_noted use a, fun w => ?_⟩
  rw [Action.log_noted]
  exact h w

theorem tracks_isCongruent (ev : Evaluator σ) (scene : Scene) :
    Action.IsCongruent fun _ (a' : Action (σ × List Use) _) (a : Action σ _) =>
      ev.Tracks scene a' a where
  pure x := ⟨.pure x, fun _ => rfl⟩
  throw e := ⟨.throw e, fun _ => rfl⟩
  bind := by
    rintro α β a' a f' f ⟨hnotes, hworld⟩ hf
    refine ⟨hnotes.bind fun x => (hf x).1, ?_⟩
    intro w
    have hfirst := hworld w
    rw [hnotes.log_bind fun x => (hf x).1, leftByAll_append, ← hfirst, Action.outcome_bind]
    rcases a.outcome w with ⟨e | x, w₁⟩
    · rfl
    · exact (hf x).2 w₁

/-- An expansion leaves the world that its calls leave. -/
theorem expansion_world (ev : Evaluator σ) (scene : Scene) (text : String) (w : World σ) :
    (ev.expansion scene text w).world
      = ev.leftByAll scene (ev.expansion scene text w).calls w := by
  have htracks : ev.Tracks scene (ev.noting.expandText scene text) (ev.expandText scene text) := by
    apply expandText_related (ev.tracks_isCongruent scene)
    intro t _ use _
    cases use with
    | evaluated code => exact ev.tracks_noted scene (.evaluated code) _ fun _ => rfl
    | executed code => exact ev.tracks_noted scene (.executed code) _ fun _ => rfl
  exact htracks.2 w

end Evaluator

end Hyperfiction
