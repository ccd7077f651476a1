import Hyperfiction.Proofs.Determined

/-! # Memories that go together

    The same code may be run with two memories of the evaluator. A `Likeness` says which
    memories go together: a computation agrees if it leads from memories that go together
    to one result, with the same variables after it, and to memories that go together
    again. A comparison may also break off. The memory of the first run may get `past` the
    place up to which it is compared, and never comes back from there.

    A template agrees when each use of code in it does. That a renderer is determined is the
    case in which all memories go together.
-/

namespace Hyperfiction

variable {σ : Type}

/-! ## Section 1: Computations -/

/-- Which memories of two evaluators go together. -/
structure Likeness (σ : Type) where
  same : σ → σ → Prop
  /-- The memory of the first evaluator is compared no longer. -/
  past : σ → Prop

namespace Likeness

/-- All memories go together. -/
def any : Likeness σ where
  same _ _ := True
  past _ := False

/-- Every memory goes together with itself only. -/
def equal : Likeness σ where
  same := Eq
  past _ := False

/-- The two outcomes are one but for memories that go together, unless the first one is past
    comparing. -/
def Matches {ρ : Type} (l : Likeness σ) (x y : ρ × World σ) : Prop :=
  l.past x.2.memory ∨ (x.1 = y.1 ∧ x.2.state = y.2.state ∧ l.same x.2.memory y.2.memory)

end Likeness

namespace Action

variable {α β : Type}

/-- From memories that go together the computation comes to matching outcomes. -/
structure Agrees (l : Likeness σ) (a : Action σ α) : Prop where
  past : ∀ state m, l.past m → l.past (a.outcome ⟨state, m⟩).2.memory
  agree : ∀ state m m', l.same m m' →
    l.Matches (a.outcome ⟨state, m⟩) (a.outcome ⟨state, m'⟩)

theorem Agrees.pure (l : Likeness σ) (x : α) : Agrees l (pure x : Action σ α) where
  past _ _ h := h
  agree _ _ _ h := .inr ⟨rfl, rfl, h⟩

theorem Agrees.throw (l : Likeness σ) (e : TemplateError) : Agrees l (throw e : Action σ α) where
  past _ _ h := h
  agree _ _ _ h := .inr ⟨rfl, rfl, h⟩

theorem Agrees.bind {l : Likeness σ} {a : Action σ α} {f : α → Action σ β} (ha : a.Agrees l)
    (hf : ∀ x, (f x).Agrees l) : (a >>= f).Agrees l where
  past := by
    intro state m hm
    have h := ha.past state m hm
    rw [outcome_bind]
    rcases hout : a.outcome ⟨state, m⟩ with ⟨e | x, ⟨s, n⟩⟩
    · rw [hout] at h
      exact h
    · rw [hout] at h
      exact (hf x).past s n h
  agree := by
    intro state m m' hm
    have h := ha.agree state m m' hm
    rw [outcome_bind, outcome_bind]
    rcases hout : a.outcome ⟨state, m⟩ with ⟨r, ⟨s, n⟩⟩
    rcases hout' : a.outcome ⟨state, m'⟩ with ⟨r', ⟨s', n'⟩⟩
    rw [hout, hout'] at h
    rcases h with hpast | ⟨hr, hs, hn⟩
    · -- once past comparing it stays there, whatever comes next
      cases r with
      | error e => exact .inl hpast
      | ok x => exact .inl ((hf x).past s n hpast)
    · obtain rfl : r = r' := hr
      obtain rfl : s = s' := hs
      cases r with
      | error e => exact .inr ⟨rfl, rfl, hn⟩
      | ok x => exact (hf x).agree s n n' hn

theorem Agrees.isClosed (l : Likeness σ) : IsClosed fun _ (a : Action σ _) => a.Agrees l :=
  ⟨.pure l, .throw l, .bind⟩

/-- A computation is determined when it agrees however the memories differ. -/
theorem agrees_any_iff {a : Action σ α} : a.Agrees .any ↔ a.IsDetermined := by
  constructor
  · intro h state m m'
    rcases h.agree state m m' trivial with hpast | ⟨hresult, hstate, -⟩
    · cases hpast
    · exact ⟨hresult, hstate⟩
  · intro h
    refine ⟨fun _ _ => id, ?_⟩
    intro state m m' _
    obtain ⟨hresult, hstate⟩ := h state m m'
    exact .inr ⟨hresult, hstate, trivial⟩

theorem agrees_equal (a : Action σ α) : a.Agrees .equal := by
  refine ⟨fun _ _ => id, ?_⟩
  rintro state m _ rfl
  exact .inr ⟨rfl, rfl, rfl⟩

end Action

/-! ## Section 2: Renderers -/

/-- The renderer agrees on every passage of the story, whatever was visited. -/
def Renderer.AgreesOn (l : Likeness σ) (r : Renderer σ) (story : Story) : Prop :=
  ∀ scene : Scene, scene.story = story → scene.passage ∈ story.passages.toList →
    (r.render scene).Agrees l

/-- It does when its evaluator agrees at every use of code in the story's templates. -/
theorem Renderer.agreesOn_of_uses {l : Likeness σ} {r : Renderer σ} {story : Story}
    (h : ∀ scene : Scene, scene.story = story → scene.passage ∈ story.passages.toList →
      ∀ t, Template.parse scene.passage.text = .ok t → ∀ use ∈ Template.uses t,
        r.evaluator.UseHas (fun _ a => a.Agrees l) scene use) : r.AgreesOn l story := by
  intro scene hstory hmem
  exact Renderer.render_closed (Action.Agrees.isClosed l) (h scene hstory hmem)

theorem Renderer.agreesOn_any_iff {r : Renderer σ} {story : Story} :
    r.AgreesOn .any story ↔ r.DeterminedOn story := by
  unfold AgreesOn DeterminedOn
  simp only [Action.agrees_any_iff]

theorem Renderer.agreesOn_equal (r : Renderer σ) (story : Story) : r.AgreesOn .equal story :=
  fun scene _ _ => Action.agrees_equal (r.render scene)

/-- So frames agree. -/
theorem Renderer.AgreesOn.frame {l : Likeness σ} {r : Renderer σ} {scene : Scene}
    (h : r.AgreesOn l scene.story) (hmem : scene.passage ∈ scene.story.passages.toList) :
    (Engine.frameOf r scene).Agrees l :=
  Engine.frameOf_closed (Action.Agrees.isClosed l) (h scene rfl hmem)
    fun p hp => h { scene with passage := p } rfl hp

end Hyperfiction
