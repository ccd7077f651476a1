import Hyperfiction.Text.Cut

/-! # Tags of a template

    Template code stands between `<%` and `%>`. A template text is cut into
    plain text and tags: a tag that begins with `=` or `-` interpolates a value,
    any other holds code. A `<%` that nothing closes is plain text.

    Writing the pieces back in order gives the text again.
-/

namespace Hyperfiction.Template

/-- A piece of a template text. -/
inductive Piece where
  | text (cs : List Char)
  /-- A tag that shows the value of its code, as it is or with entities. -/
  | interpolation (code : List Char) (escaped : Bool)
  | code (cs : List Char)
deriving DecidableEq, Repr, Inhabited

namespace Piece

/-- Plain text, unless it is empty. -/
def texts (cs : List Char) : List Piece :=
  if cs.isEmpty then [] else [.text cs]

/-- The tag with the given body. -/
def ofBody : List Char → Piece
  | '=' :: cs => .interpolation cs false
  | '-' :: cs => .interpolation cs true
  | cs => .code cs

/-- The pieces of a template text, in order. -/
def split (cs : List Char) : List Piece :=
  match _h : Text.cutAtPair '<' '%' cs with
  | none => texts cs
  | some (before, after) =>
    match _h' : Text.cutAtPair '%' '>' after with
    | none => texts cs
    | some (body, rest) => texts before ++ ofBody body :: split rest
termination_by cs.length
decreasing_by
  have := Text.length_cutAtPair _h
  have := Text.length_cutAtPair _h'
  omega

/-- A tag as it stands in the text. -/
def tag (body : List Char) : List Char :=
  '<' :: '%' :: (body ++ ['%', '>'])

/-- The piece as it stands in the text. -/
def source : Piece → List Char
  | .text cs => cs
  | .interpolation cs false => tag ('=' :: cs)
  | .interpolation cs true => tag ('-' :: cs)
  | .code cs => tag cs

end Piece

end Hyperfiction.Template
