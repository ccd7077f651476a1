import Hyperfiction.Display

/-! # Screens

    The display of a page: it holds what was shown last.
-/

namespace Hyperfiction

/-- A page. -/
structure Screen where
  passage : Option RenderedPassage := none
  header : Option RenderedPassage := none
  footer : Option RenderedPassage := none
  title : Option String := none
  darkTheme : Bool := false
  stylesheets : List String := []
  /-- How many passages have been shown. -/
  displays : Nat := 0
deriving DecidableEq, Repr, Inhabited

namespace Screen

/-- The HTML of the passage on the page. -/
def html (s : Screen) : String :=
  match s.passage with
  | some p => p.html
  | none => ""

/-- The link to a passage with a number, counted from zero, on the page. -/
def link? (n : Nat) (s : Screen) : Option Link :=
  s.passage.bind fun p => p.passageLinks[n]?

instance : Display Screen where
  showPassage p s := { s with passage := some p, displays := s.displays + 1 }
  showHeader p s := { s with header := some p }
  showFooter p s := { s with footer := some p }
  setTitle title s := { s with title := some title }
  applyConfig c s := { s with darkTheme := c.darkTheme, stylesheets := c.stylesheets }

end Screen

end Hyperfiction
