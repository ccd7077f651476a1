import Hyperfiction.Proofs.Script.Calls

/-! # Draws

    What the helpers of every story remember is a place in a random sequence, and the only
    thing that happens to it is that it moves on: a choice uses up words of the sequence,
    and nothing gives them back. So two scripts that start from different places agree as
    long as the first one does not draw.
-/

namespace Hyperfiction

/-! ## Section 1: Moving on -/

/-- A block, with its words added up in a list. -/
theorem Random.block_eq (key : List UInt32) (n : Nat) :
    Random.block key n = (List.zipWith (· + ·) (seedBlock key n).toList
      ((List.range 6).foldl (fun b _ => doubleRound b) (seedBlock key n)).toList).toArray := by
  unfold block
  rw [← Array.toList_zipWith]

namespace Random.Generator

/-- The second generator is further on in the same sequence. -/
def Before (g g' : Generator) : Prop :=
  g'.key = g.key ∧ g.used < g'.used

theorem Before.trans {g₁ g₂ g₃ : Generator} (h : g₁.Before g₂) (h' : g₂.Before g₃) :
    g₁.Before g₃ :=
  ⟨h'.1.trans h.1, Nat.lt_trans h.2 h'.2⟩

theorem before_next (g : Generator) : g.Before g.next.2 :=
  ⟨rfl, Nat.lt_add_of_pos_right (by decide)⟩

/-- However many draws are rejected, a draw moves the generator on. -/
theorem before_below (n tries : Nat) (g : Generator) : g.Before (g.below n tries).2 := by
  induction tries generalizing g with
  | zero => exact g.before_next
  | succ tries ih =>
    unfold below
    dsimp only
    split
    · exact g.before_next
    · exact g.before_next.trans (ih g.next.2)

theorem before_choose (g : Generator) (n : Nat) : g.Before (g.choose n).2 :=
  before_below n maxRejections g

/-- A choice whose first draw is not rejected. -/
theorem choose_accepts {g : Generator} {n : Nat} (h : g.next.1 * n % UInt64.size ≤ zone n) :
    g.choose n = (g.next.1 * n / UInt64.size, g.next.2) := by
  unfold choose maxRejections below
  dsimp only
  rw [if_pos h]

end Random.Generator

/-! ## Section 2: One call after the other -/

namespace Script.Run

variable {α : Type}

/-- The call that a run asks for first, if any. -/
def asked? : Run α → Option (String × List Value)
  | .done _ => none
  | .ask helper args _ => some (helper, args)

/-- The run after the answer to its first call. -/
def answered (answer : Except String Value) : Run α → Run α
  | .done a => .done a
  | .ask _ _ resume => resume answer

/-- A run whose first call succeeds goes on with the answer. -/
theorem outcome_asked {σ : Type} {helpers : HelperSet σ} {r : Run α} {helper : String}
    {args : List Value} {h : Helper σ} (hasked : r.asked? = some (helper, args))
    (hget : Table.get? helper helpers = some h) {scene : Scene} {w w' : World σ} {v : Value}
    (hv : h.outcome scene args w = (.ok v, w')) (failure : Option (String × HelperError)) :
    r.outcome helpers scene failure w
      = (r.answered (.ok v)).outcome helpers scene failure w' := by
  cases r with
  | done a => cases hasked
  | ask helper' args' resume =>
    obtain ⟨rfl, rfl⟩ := Prod.mk.inj (Option.some.inj hasked)
    rw [outcome_ask hget, hv]
    rfl

end Script.Run

/-! ## Section 3: Until the first draw -/

/-- Two runs that have not drawn yet, from the places `g` and `g'`. They are compared until
    the first one draws. -/
def Likeness.undrawn (g g' : Random.Generator) : Likeness Random.Generator where
  same m m' := m = g ∧ m' = g'
  past m := g.Before m

/-- A helper that leaves the memory alone agrees, however memories are compared. -/
theorem Helper.agrees_of_keeps {σ : Type} {h : Helper σ} (hd : h.IsDetermined)
    (hkeeps : ∀ scene args w, (h.outcome scene args w).2.memory = w.memory) (l : Likeness σ) :
    h.Agrees l := by
  constructor
  · intro scene args state m hm
    rw [hkeeps]
    exact hm
  · intro scene args state m m' hm
    obtain ⟨hresult, hstate⟩ := hd scene args state m m'
    refine .inr ⟨hresult, hstate, ?_⟩
    rw [hkeeps, hkeeps]
    exact hm

theorem Helper.visited_keeps {σ : Type} (scene : Scene) (args : List Value) (w : World σ) :
    (Helper.visited.outcome scene args w).2.memory = w.memory := by
  rw [Helper.outcome_visited]

theorem Helper.hasVisited_keeps {σ : Type} (scene : Scene) (args : List Value) (w : World σ) :
    (Helper.hasVisited.outcome scene args w).2.memory = w.memory := by
  rw [Helper.outcome_hasVisited]

/-- A choice among some arguments draws once. -/
theorem Helper.either_cons (scene : Scene) (v : Value) (vs : List Value)
    (w : World Random.Generator) :
    Helper.either.outcome scene (v :: vs) w =
      (.ok ((choices (v :: vs)).getD (w.memory.choose (choices (v :: vs)).length).1 .null),
        { w with memory := (w.memory.choose (choices (v :: vs)).length).2 }) := by
  have hget : ∀ f : World Random.Generator →
      ExceptT HelperError (StateM (World Random.Generator)) Value,
      ExceptT.run (get >>= f) w = (f w).run w := fun _ => rfl
  unfold Helper.outcome Helper.either
  rw [if_neg (by simp)]
  refine (hget _).trans ?_
  -- what is drawn is not computed
  generalize w.memory.choose (choices (v :: vs)).length = drawn
  obtain ⟨i, memory⟩ := drawn
  rfl

/-- A choice fails for want of arguments, or else it draws. -/
theorem Helper.either_cases (scene : Scene) (args : List Value) :
    (∃ e, ∀ w, Helper.either.outcome scene args w = (.error e, w)) ∨
      ∃ n, ∀ w, (Helper.either.outcome scene args w).2.memory = (w.memory.choose n).2 := by
  cases args with
  | nil => exact .inl ⟨_, fun _ => rfl⟩
  | cons v vs =>
    have hmemory : ∀ (w : World Random.Generator) (result : Except HelperError Value)
        (memory : Random.Generator), (result, { w with memory }).2.memory = memory :=
      fun _ _ _ => rfl
    refine .inr ⟨(choices (v :: vs)).length, ?_⟩
    intro w
    exact (congrArg (fun x => x.2.memory) (either_cons scene v vs w)).trans (hmemory w _ _)

theorem Helper.either_agrees (g g' : Random.Generator) : Helper.either.Agrees (.undrawn g g') := by
  constructor
  · intro scene args state m hm
    rcases Helper.either_cases scene args with ⟨e, hfails⟩ | ⟨n, hdraws⟩
    · rw [hfails]
      exact hm
    · rw [hdraws]
      exact hm.trans (m.before_choose n)
  · rintro scene args state m m' ⟨rfl, rfl⟩
    rcases Helper.either_cases scene args with ⟨e, hfails⟩ | ⟨n, hdraws⟩
    · rw [hfails, hfails]
      exact .inr ⟨rfl, rfl, rfl, rfl⟩
    · -- the first run has drawn
      left
      rw [hdraws]
      exact m.before_choose n

/-- The helpers of every story agree until one of them draws. -/
theorem HelperSet.builtins_agree (g g' : Random.Generator) :
    HelperSet.Agree (.undrawn g g') HelperSet.builtins := by
  intro n h hget
  rcases HelperSet.builtins_cases hget with ⟨-, rfl⟩ | rfl | rfl
  · exact Helper.either_agrees g g'
  · exact Helper.agrees_of_keeps Helper.visited_isDetermined Helper.visited_keeps _
  · exact Helper.agrees_of_keeps Helper.hasVisited_isDetermined Helper.hasVisited_keeps _

/-- So do scripts, in every story. -/
theorem Script.agreesOn_undrawn {r : Renderer Random.Generator}
    (he : r.evaluator = Script.evaluator HelperSet.builtins) (g g' : Random.Generator)
    (story : Story) : r.AgreesOn (.undrawn g g') story :=
  Script.agreesOn_of_helpers (HelperSet.builtins_agree g g') he story

end Hyperfiction
