import Hyperfiction.Proofs.Link.Cut
import Hyperfiction.Proofs.Outcome
import Hyperfiction.Proofs.Template.Stream

/-! # Texts without tags

    A text in which no tag is complete is a template that shows the text itself, under
    every evaluator and in every world, and leaves the world alone. So a passage with such
    a text is rendered from it as it stands, and its links are those of the text.
-/

namespace Hyperfiction

variable {σ : Type}

namespace Template

theorem parse_plain {text : String} (h : ¬ HasTag text.toList) :
    parse text = .ok (if text.toList = [] then [] else [.literal text]) := by
  unfold parse tokens
  rw [Piece.split_plain h, Piece.texts]
  by_cases hempty : text.toList = []
  · rw [if_pos hempty, if_pos (List.isEmpty_iff.2 hempty)]
    rfl
  · rw [if_neg hempty, if_neg (mt List.isEmpty_iff.1 hempty), List.map_singleton,
      Token.ofPiece, String.ofList_toList]
    rfl

end Template

theorem Evaluator.expandText_plain {text : String} (h : ¬ Template.HasTag text.toList)
    (ev : Evaluator σ) (scene : Scene) (w : World σ) :
    (ev.expandText scene text).outcome w = (.ok text, w) := by
  unfold Evaluator.expandText
  rw [Template.parse_plain h]
  by_cases hempty : text.toList = []
  · rw [if_pos hempty]
    have htext : String.ofList [] = text := by rw [← hempty, String.ofList_toList]
    show (Except.ok (String.ofList []), w) = (.ok text, w)
    rw [htext]
  · rw [if_neg hempty]
    show (Except.ok (String.ofList (text.toList ++ [])), w) = (.ok text, w)
    rw [List.append_nil, String.ofList_toList]

namespace Renderer

/-- A passage without tags is rendered from its text, and nothing else happens. -/
theorem render_plain {scene : Scene} (h : ¬ Template.HasTag scene.passage.text.toList)
    (r : Renderer σ) (w : World σ) :
    (r.render scene).outcome w = (.ok (r.finish scene.passage scene.passage.text), w) := by
  have hexpand : (r.expand scene).outcome w = (.ok scene.passage.text, w) :=
    r.evaluator.expandText_plain h scene w
  unfold render
  rw [Action.outcome_bind, hexpand]
  rfl

theorem links_finish (r : Renderer σ) (p : Passage) (expanded : String) :
    (r.finish p expanded).links = LinkPiece.linksIn expanded.toList :=
  LinkPiece.replaceAll_links expanded

end Renderer

end Hyperfiction
