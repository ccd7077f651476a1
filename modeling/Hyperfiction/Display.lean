import Hyperfiction.Config
import Hyperfiction.Rendering

/-! # Displays

    Where an engine shows passages. A display takes what it is shown and cannot
    refuse it.
-/

namespace Hyperfiction

/-- Takes what an engine shows. -/
class Display (D : Type) where
  /-- Shows a passage in place of the one before. -/
  showPassage : RenderedPassage → D → D
  /-- Shows the story's header. -/
  showHeader : RenderedPassage → D → D
  /-- Shows the story's footer. -/
  showFooter : RenderedPassage → D → D
  /-- Sets the title that a checkpoint gives. -/
  setTitle : String → D → D
  /-- Takes the story's configuration over, when play starts. -/
  applyConfig : Config → D → D

end Hyperfiction
