import Hyperfiction.Proofs.Frame

/-! # Determined rendering

    What a template expands to depends on what the evaluator makes of its code and
    on nothing else. So two evaluators that are related at each use of code in a template
    expand it to related computations, and a template has every closed property that each
    use of code in it has, as have the passages and frames that are rendered from it.
    In particular a template is determined when each use of code in it is. A determined
    renderer shows a frame again, with the same variables after it, whatever has happened
    to the evaluator's memory in between.
-/

namespace Hyperfiction

variable {σ τ : Type}

/-! ## Section 1: The code of a template -/

namespace Template

/-- A use that a template makes of code. -/
inductive Use where
  /-- The value of an expression is shown or decides over a branch. -/
  | evaluated (code : String)
  /-- A statement is run. -/
  | executed (code : String)
deriving DecidableEq, Repr

mutual

/-- The uses of code in a segment. -/
def segmentUses : Segment → List Use
  | .literal _ => []
  | .interpolation code _ => [.evaluated code]
  | .statement code => [.executed code]
  | .conditional branches otherwise => branchUses branches ++ uses otherwise

/-- The uses of code in segments. -/
def uses : List Segment → List Use
  | [] => []
  | s :: rest => segmentUses s ++ uses rest

/-- The uses of code in the branches of a conditional, conditions included. -/
def branchUses : List (String × List Segment) → List Use
  | [] => []
  | (condition, body) :: rest => .evaluated condition :: (uses body ++ branchUses rest)

end

end Template

/-! ## Section 2: Expansion -/

/-- A use of code in a scene is a computation with the property. -/
def Evaluator.UseHas (Q : ∀ ⦃α : Type⦄, Action σ α → Prop) (ev : Evaluator σ) (scene : Scene) :
    Template.Use → Prop
  | .evaluated code => Q (ev.evaluate scene code)
  | .executed code => Q (ev.execute scene code)

/-- What two evaluators do with a use of code in a scene is related. -/
def Evaluator.UseRelates (R : ∀ ⦃α : Type⦄, Action σ α → Action τ α → Prop) (ev : Evaluator σ)
    (ev' : Evaluator τ) (scene : Scene) : Template.Use → Prop
  | .evaluated code => R (ev.evaluate scene code) (ev'.evaluate scene code)
  | .executed code => R (ev.execute scene code) (ev'.execute scene code)

namespace Template

section

variable {R : ∀ ⦃α : Type⦄, Action σ α → Action τ α → Prop} (hR : Action.IsCongruent R)
  {ev : Evaluator σ} {ev' : Evaluator τ} {scene : Scene}

include hR

mutual

theorem expandSegment_related : ∀ (s : Segment),
    (∀ use ∈ segmentUses s, ev.UseRelates R ev' scene use) →
      R (expandSegment ev scene s) (expandSegment ev' scene s)
  | .literal text, _ => by
    unfold expandSegment
    exact hR.pure _
  | .interpolation code escaped, h => by
    unfold expandSegment
    have hcode : R (ev.evaluate scene code) (ev'.evaluate scene code) :=
      h (.evaluated code) (by simp [segmentUses])
    exact hR.bind hcode fun v => hR.pure _
  | .statement code, h => by
    unfold expandSegment
    have hcode : R (ev.execute scene code) (ev'.execute scene code) :=
      h (.executed code) (by simp [segmentUses])
    exact hR.bind hcode fun _ => hR.pure _
  | .conditional branches otherwise, h => by
    unfold expandSegment
    have hbranches := expandBranches_related branches
      fun use hu => h use (by simp [segmentUses, hu])
    have hotherwise := expandSegments_related otherwise
      fun use hu => h use (by simp [segmentUses, hu])
    refine hR.bind hbranches fun chosen => ?_
    -- without a branch whose condition holds the rest is shown
    cases chosen with
    | none => exact hotherwise
    | some text => exact hR.pure _

/-- What is congruent holds between two expansions of segments when it holds between each
    use of code in them. -/
theorem expandSegments_related : ∀ (ss : List Segment),
    (∀ use ∈ uses ss, ev.UseRelates R ev' scene use) →
      R (expandSegments ev scene ss) (expandSegments ev' scene ss)
  | [], _ => by
    unfold expandSegments
    exact hR.pure _
  | s :: rest, h => by
    unfold expandSegments
    have hs := expandSegment_related s fun use hu => h use (by simp [uses, hu])
    have hrest := expandSegments_related rest fun use hu => h use (by simp [uses, hu])
    exact hR.bind hs fun text => hR.bind hrest fun more => hR.pure _

theorem expandBranches_related : ∀ (bs : List (String × List Segment)),
    (∀ use ∈ branchUses bs, ev.UseRelates R ev' scene use) →
      R (expandBranches ev scene bs) (expandBranches ev' scene bs)
  | [], _ => by
    unfold expandBranches
    exact hR.pure _
  | (condition, body) :: rest, h => by
    unfold expandBranches
    have hcondition : R (ev.evaluate scene condition) (ev'.evaluate scene condition) :=
      h (.evaluated condition) (by simp [branchUses])
    have hbody := expandSegments_related body fun use hu => h use (by simp [branchUses, hu])
    have hrest := expandBranches_related rest fun use hu => h use (by simp [branchUses, hu])
    refine hR.bind hcondition fun v => ?_
    -- a branch is entered only when its condition holds, and both ways are related
    by_cases hv : v.truthy = true
    · rw [if_pos hv, if_pos hv]
      exact hR.bind hbody fun text => hR.pure _
    · rw [if_neg hv, if_neg hv]
      exact hrest

end

end

end Template

/-- So it holds between two expansions of a template text. -/
theorem Evaluator.expandText_related {R : ∀ ⦃α : Type⦄, Action σ α → Action τ α → Prop}
    (hR : Action.IsCongruent R) {ev : Evaluator σ} {ev' : Evaluator τ} {scene : Scene}
    {text : String}
    (h : ∀ t, Template.parse text = .ok t →
      ∀ use ∈ Template.uses t, ev.UseRelates R ev' scene use) :
    R (ev.expandText scene text) (ev'.expandText scene text) := by
  unfold Evaluator.expandText
  cases ht : Template.parse text with
  | error e => exact hR.throw _
  | ok t =>
    have hsegments := Template.expandSegments_related hR t (h t ht)
    exact hR.bind hsegments fun text => hR.pure _

/-- What is closed holds of a template text when it holds of each use of code in its
    template. -/
theorem Evaluator.expandText_closed {Q : ∀ ⦃α : Type⦄, Action σ α → Prop}
    (hQ : Action.IsClosed Q) {ev : Evaluator σ} {scene : Scene} {text : String}
    (h : ∀ t, Template.parse text = .ok t → ∀ use ∈ Template.uses t, ev.UseHas Q scene use) :
    Q (ev.expandText scene text) := by
  have hrelates : ∀ t, Template.parse text = .ok t → ∀ use ∈ Template.uses t,
      ev.UseRelates (fun _ a _ => Q a) ev scene use := by
    intro t ht use hu
    have huse := h t ht use hu
    cases use with
    | evaluated code => exact huse
    | executed code => exact huse
  exact expandText_related hQ.isCongruent hrelates

/-- So it holds of a passage that is rendered. -/
theorem Renderer.render_closed {Q : ∀ ⦃α : Type⦄, Action σ α → Prop} (hQ : Action.IsClosed Q)
    {r : Renderer σ} {scene : Scene}
    (h : ∀ t, Template.parse scene.passage.text = .ok t →
      ∀ use ∈ Template.uses t, r.evaluator.UseHas Q scene use) : Q (r.render scene) := by
  unfold Renderer.render
  exact hQ.bind (Evaluator.expandText_closed hQ h) fun expanded => hQ.pure _

/-- And it holds of a frame when it holds of the passage, the header and the footer. -/
theorem Engine.frameOf_closed {Q : ∀ ⦃α : Type⦄, Action σ α → Prop} (hQ : Action.IsClosed Q)
    {r : Renderer σ} {scene : Scene} (hmain : Q (r.render scene))
    (hother : ∀ p ∈ scene.story.passages.toList, Q (r.render { scene with passage := p })) :
    Q (frameOf r scene) := by
  have hoptional : ∀ name, Q (renderOptional r scene.story scene.history scene.checkpoint
      (scene.story.passageNamed? name)) := by
    intro name
    unfold renderOptional
    cases hp : scene.story.passageNamed? name with
    | none => exact hQ.pure _
    | some p =>
      have hmem : p ∈ scene.story.passages.toList := Story.mem_of_passageNamed? hp
      exact hQ.bind (hother p hmem) fun rendered => hQ.pure _
  unfold frameOf renderFrame
  refine hQ.bind hmain fun main => ?_
  refine hQ.bind (hoptional headerName) fun header => ?_
  exact hQ.bind (hoptional footerName) fun footer => hQ.pure _

/-! ## Section 3: Frames -/

/-- The renderer is determined on every passage of the story, whatever was visited. -/
def Renderer.DeterminedOn (r : Renderer σ) (story : Story) : Prop :=
  ∀ scene : Scene, scene.story = story → scene.passage ∈ story.passages.toList →
    (r.render scene).IsDetermined

/-- A renderer is determined on every story when its evaluator is. -/
theorem Renderer.determinedOn {r : Renderer σ} (h : r.evaluator.IsDetermined) (story : Story) :
    r.DeterminedOn story := by
  intro scene _ _
  refine Renderer.render_closed Action.IsDetermined.isClosed ?_
  intro t _ use _
  cases use with
  | evaluated code =>
    intro state m m'
    obtain ⟨hr, hs, -, -⟩ := h scene code state m m'
    exact ⟨hr, hs⟩
  | executed code =>
    intro state m m'
    obtain ⟨-, -, hr, hs⟩ := h scene code state m m'
    exact ⟨hr, hs⟩

/-- A passage that the story may lack is shown again under any other memory. -/
theorem RendersOptional.again {r : Renderer σ} {scene : Scene} {p : Option Passage}
    {shown : Option RenderedPassage} {state after : StateBag} {m n : σ}
    (hr : r.DeterminedOn scene.story) (hp : ∀ q, p = some q → q ∈ scene.story.passages.toList)
    (h : RendersOptional r scene p ⟨state, m⟩ shown ⟨after, n⟩) (m' : σ) :
    ∃ n', RendersOptional r scene p ⟨state, m'⟩ shown ⟨after, n'⟩ := by
  cases h with
  | missing => exact ⟨m', .missing _⟩
  | @present q _ _ rendered hq =>
    have hdet := hr { scene with passage := q } rfl (hp q rfl)
    obtain ⟨n', hn⟩ := hdet.outcome_ok hq m'
    exact ⟨n', .present hn⟩

/-- A determined frame is shown again under any other memory. -/
theorem RendersFrame.again {r : Renderer σ} {scene : Scene} {frame : Frame}
    {state after : StateBag} {m n : σ} (hr : r.DeterminedOn scene.story)
    (hmem : scene.passage ∈ scene.story.passages.toList)
    (h : RendersFrame r scene ⟨state, m⟩ frame ⟨after, n⟩) (m' : σ) :
    ∃ n', RendersFrame r scene ⟨state, m'⟩ frame ⟨after, n'⟩ := by
  obtain ⟨w₁, w₂, hmain, hheader, hfooter⟩ := h
  -- each of the three is shown again with the memory that the one before it leaves now
  obtain ⟨n₁, hmain'⟩ := (hr scene rfl hmem).outcome_ok hmain m'
  obtain ⟨n₂, hheader'⟩ :=
    hheader.again hr (fun q hq => Story.mem_of_passageNamed? hq) n₁
  obtain ⟨n₃, hfooter'⟩ :=
    hfooter.again hr (fun q hq => Story.mem_of_passageNamed? hq) n₂
  exact ⟨n₃, _, _, hmain', hheader', hfooter'⟩

/-- A determined frame has one picture and leaves one bag of variables. -/
theorem RendersFrame.unique {r : Renderer σ} {scene : Scene} {frame frame' : Frame}
    {state : StateBag} {m m' : σ} {w w' : World σ} (hr : r.DeterminedOn scene.story)
    (hmem : scene.passage ∈ scene.story.passages.toList)
    (h : RendersFrame r scene ⟨state, m⟩ frame w)
    (h' : RendersFrame r scene ⟨state, m'⟩ frame' w') : frame = frame' ∧ w.state = w'.state := by
  -- shown again with the other memory it would have to be both
  have h₀ : RendersFrame r scene ⟨state, m⟩ frame ⟨w.state, w.memory⟩ := h
  obtain ⟨n', hn⟩ := h₀.again hr hmem m'
  have hsame := (Engine.frameOf_eq_ok.2 hn).symm.trans (Engine.frameOf_eq_ok.2 h')
  obtain ⟨hframe, rfl⟩ := Prod.mk.inj hsame
  exact ⟨Except.ok.inj hframe, rfl⟩

end Hyperfiction
