import Hyperfiction.Engine
import Hyperfiction.Proofs.Outcome

/-! # Frames

    A navigation renders three things in a row: the passage, the header and the
    footer, each from the world that the one before left. `RendersFrame` and
    `FrameFails` say this without the program, naming the worlds in between and
    the three points of failure; `frameOf` succeeds and fails exactly as they say.
-/

namespace Hyperfiction

variable {σ : Type}

/-! ## Section 1: One rendering after the other -/

/-- Rendering a passage that the story may lack shows `shown` and leads from `w` to `w'`. -/
inductive RendersOptional (r : Renderer σ) (scene : Scene) :
    Option Passage → World σ → Option RenderedPassage → World σ → Prop where
  | missing (w : World σ) : RendersOptional r scene none w none w
  | present {p : Passage} {w w' : World σ} {shown : RenderedPassage} :
      (r.render { scene with passage := p }).outcome w = (.ok shown, w') →
      RendersOptional r scene (some p) w (some shown) w'

/-- Rendering the scene's passage, then the header, then the footer shows `frame`
    and leads from `w` to `w'`. -/
def RendersFrame (r : Renderer σ) (scene : Scene) (w : World σ) (frame : Frame)
    (w' : World σ) : Prop :=
  ∃ w₁ w₂, (r.render scene).outcome w = (.ok frame.passage, w₁) ∧
    RendersOptional r scene scene.story.header? w₁ frame.header w₂ ∧
    RendersOptional r scene scene.story.footer? w₂ frame.footer w'

/-- Rendering the scene's passage, then the header, then the footer stops with an error. -/
inductive FrameFails (r : Renderer σ) (scene : Scene) (w : World σ) : TemplateError → Prop where
  /-- The passage fails. -/
  | passage {w' : World σ} {err : TemplateError} :
      (r.render scene).outcome w = (.error err, w') → FrameFails r scene w err
  /-- The header fails in the world that the passage left. -/
  | header {w₁ w' : World σ} {main : RenderedPassage} {p : Passage} {err : TemplateError} :
      (r.render scene).outcome w = (.ok main, w₁) → scene.story.header? = some p →
      (r.render { scene with passage := p }).outcome w₁ = (.error err, w') →
      FrameFails r scene w err
  /-- The footer fails in the world that the header left. -/
  | footer {w₁ w₂ w' : World σ} {main : RenderedPassage} {header : Option RenderedPassage}
      {p : Passage} {err : TemplateError} :
      (r.render scene).outcome w = (.ok main, w₁) →
      RendersOptional r scene scene.story.header? w₁ header w₂ →
      scene.story.footer? = some p →
      (r.render { scene with passage := p }).outcome w₂ = (.error err, w') →
      FrameFails r scene w err

namespace Engine

/-! ## Section 2: What the program renders -/

theorem renderOptional_eq_ok {r : Renderer σ} {scene : Scene} {p : Option Passage}
    {w w' : World σ} {shown : Option RenderedPassage} :
    (renderOptional r scene.story scene.history scene.checkpoint p).outcome w = (.ok shown, w') ↔
      RendersOptional r scene p w shown w' := by
  cases p with
  | none =>
    constructor
    · intro h
      obtain ⟨hs, rfl⟩ := Prod.mk.inj h
      obtain rfl := Except.ok.inj hs
      exact .missing w
    · rintro ⟨⟩
      rfl
  | some p =>
    constructor
    · intro h
      obtain ⟨x, w₁, hx, h⟩ := Action.bind_eq_ok.1 h
      obtain ⟨hs, rfl⟩ := Prod.mk.inj h
      obtain rfl := Except.ok.inj hs
      exact .present hx
    · intro h
      cases h with
      | present h => exact Action.bind_eq_ok.2 ⟨_, _, h, rfl⟩

theorem renderOptional_eq_error {r : Renderer σ} {scene : Scene} {p : Option Passage}
    {w w' : World σ} {err : TemplateError} :
    (renderOptional r scene.story scene.history scene.checkpoint p).outcome w = (.error err, w') ↔
      ∃ q, p = some q ∧
        (r.render { scene with passage := q }).outcome w = (.error err, w') := by
  cases p with
  | none =>
    constructor
    · intro h
      simp [renderOptional] at h
    · rintro ⟨q, h, -⟩
      cases h
  | some p =>
    constructor
    · intro h
      rcases Action.bind_eq_error.1 h with h | ⟨x, w₁, -, h⟩
      · exact ⟨p, rfl, h⟩
      · simp at h
    · rintro ⟨q, hq, h⟩
      obtain rfl := Option.some.inj hq
      exact Action.bind_eq_error.2 (.inl h)

/-- The frame of a scene: its passage, and the header and the footer of its story. -/
def frameOf (r : Renderer σ) (scene : Scene) : Action σ Frame :=
  renderFrame r scene.story scene.passage scene.history scene.checkpoint

/-- A frame is rendered exactly when passage, header and footer are, in this order. -/
theorem frameOf_eq_ok {r : Renderer σ} {scene : Scene} {w w' : World σ} {frame : Frame} :
    (frameOf r scene).outcome w = (.ok frame, w') ↔ RendersFrame r scene w frame w' := by
  unfold frameOf
  constructor
  · intro h
    obtain ⟨main, w₁, hmain, h⟩ := Action.bind_eq_ok.1 h
    obtain ⟨header, w₂, hheader, h⟩ := Action.bind_eq_ok.1 h
    obtain ⟨footer, w₃, hfooter, h⟩ := Action.bind_eq_ok.1 h
    obtain ⟨hf, rfl⟩ := Prod.mk.inj h
    obtain rfl := Except.ok.inj hf
    exact ⟨w₁, w₂, hmain, renderOptional_eq_ok.1 hheader, renderOptional_eq_ok.1 hfooter⟩
  · rintro ⟨w₁, w₂, hmain, hheader, hfooter⟩
    refine Action.bind_eq_ok.2 ⟨_, w₁, hmain, ?_⟩
    refine Action.bind_eq_ok.2 ⟨_, w₂, renderOptional_eq_ok.2 hheader, ?_⟩
    exact Action.bind_eq_ok.2 ⟨_, w', renderOptional_eq_ok.2 hfooter, rfl⟩

/-- A frame fails exactly when passage, header or footer does, in its turn. -/
theorem frameOf_fails {r : Renderer σ} {scene : Scene} {w : World σ} {err : TemplateError} :
    (∃ w', (frameOf r scene).outcome w = (.error err, w')) ↔ FrameFails r scene w err := by
  unfold frameOf
  constructor
  · rintro ⟨w', h⟩
    -- a sequence fails at its first part that fails
    rcases Action.bind_eq_error.1 h with h | ⟨main, w₁, hmain, h⟩
    · exact .passage h
    rcases Action.bind_eq_error.1 h with h | ⟨header, w₂, hheader, h⟩
    · obtain ⟨p, hp, h⟩ := renderOptional_eq_error.1 h
      exact .header hmain hp h
    -- once the footer is rendered nothing is left that could fail
    rcases Action.bind_eq_error.1 h with h | ⟨footer, w₃, hfooter, h⟩
    · obtain ⟨p, hp, h⟩ := renderOptional_eq_error.1 h
      exact .footer hmain (renderOptional_eq_ok.1 hheader) hp h
    · simp at h
  · intro h
    cases h with
    | @passage w' _ h => exact ⟨w', Action.bind_eq_error.2 (.inl h)⟩
    | @header w₁ w' main p _ hmain hp h =>
      refine ⟨w', Action.bind_eq_error.2 (.inr ⟨main, w₁, hmain, ?_⟩)⟩
      exact Action.bind_eq_error.2 (.inl (renderOptional_eq_error.2 ⟨p, hp, h⟩))
    | @footer w₁ w₂ w' main header p _ hmain hheader hp h =>
      refine ⟨w', Action.bind_eq_error.2 (.inr ⟨main, w₁, hmain, ?_⟩)⟩
      refine Action.bind_eq_error.2 (.inr ⟨header, w₂, renderOptional_eq_ok.2 hheader, ?_⟩)
      exact Action.bind_eq_error.2 (.inl (renderOptional_eq_error.2 ⟨p, hp, h⟩))

end Engine

end Hyperfiction
