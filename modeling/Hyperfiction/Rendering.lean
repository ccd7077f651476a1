import Hyperfiction.Evaluator
import Hyperfiction.Link

/-! # Rendering passages

    A passage is shown by expanding its template, replacing the links of what
    comes out by their elements, and turning the markup into HTML. Nothing is
    kept from one rendering to the next, for templates read variables.
-/

namespace Hyperfiction

/-- Turns markup with link elements in it into HTML. -/
abbrev Markup := String → String

/-- Leaves the markup as it is. -/
def Markup.plain : Markup := fun text => text

/-- A passage as it is shown. -/
structure RenderedPassage where
  passage : PassageId
  name : String
  html : String
  /-- The links in order. -/
  links : List Link
deriving DecidableEq, Repr, Inhabited

/-- The links that lead to passages, in order. -/
def RenderedPassage.passageLinks (r : RenderedPassage) : List Link :=
  r.links.filter Link.isInternal

/-- Renders passages with an evaluator and a markup. -/
structure Renderer (σ : Type) where
  evaluator : Evaluator σ
  markup : Markup

namespace Renderer

variable {σ : Type}

/-- The expanded text of the scene's passage. -/
def expand (r : Renderer σ) (scene : Scene) : Action σ String :=
  r.evaluator.expandText scene scene.passage.text

/-- What an expanded text of a passage looks like. -/
def finish (r : Renderer σ) (p : Passage) (expanded : String) : RenderedPassage :=
  let linked := Link.replaceAll expanded
  { passage := p.id, name := p.name, html := r.markup linked.text, links := linked.links }

/-- Renders the scene's passage. -/
def render (r : Renderer σ) (scene : Scene) : Action σ RenderedPassage := do
  let expanded ← r.expand scene
  return r.finish scene.passage expanded

end Renderer

end Hyperfiction
