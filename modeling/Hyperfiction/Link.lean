import Hyperfiction.Text.Cut
import Hyperfiction.Text.Entity

/-! # Links

    Link markup stands between double brackets: `[[target]]`,
    `[[display|target]]` or `[[display->target]]`. A text is cut into the
    literals and the link bodies in it, and every body is replaced by the
    element that shows the link.
-/

namespace Hyperfiction

/-- What a link leads to. -/
inductive LinkKind where
  /-- An address with a scheme. -/
  | outside
  /-- A passage of the story. -/
  | passage
deriving DecidableEq, Repr, Inhabited

/-- A link: the text it shows, and the passage name or address it leads to. -/
structure Link where
  display : String
  target : String
  kind : LinkKind
deriving DecidableEq, Repr, Inhabited

namespace Link

/-! ## Classification -/

/-- The letters, digits and underscore of ASCII. -/
def isWordChar (c : Char) : Bool :=
  ('a' ≤ c && c ≤ 'z') || ('A' ≤ c && c ≤ 'Z') || ('0' ≤ c && c ≤ '9') || c == '_'

/-- Whether what follows a scheme makes an address: `://` or `:///` and a word character. -/
def isAddressTail : List Char → Bool
  | ':' :: '/' :: '/' :: '/' :: c :: _ => isWordChar c
  | ':' :: '/' :: '/' :: c :: _ => isWordChar c
  | _ => false

/-- Whether a target is an address: a scheme of word characters, and its tail. -/
def isAddress (target : List Char) : Bool :=
  !(target.takeWhile isWordChar).isEmpty && isAddressTail (target.dropWhile isWordChar)

/-- The kind of a target. -/
def classify (target : String) : LinkKind :=
  if isAddress target.toList then .outside else .passage

/-! ## Bodies -/

/-- Display text and target of a link body: cut at the first bar, else at the
    first arrow, else the body is both. -/
def splitBody (body : List Char) : List Char × List Char :=
  match Text.cutAt '|' body with
  | some parts => parts
  | none =>
    match Text.cutAtPair '-' '>' body with
    | some parts => parts
    | none => (body, body)

/-- The link with the given display text and target. -/
def ofParts (display target : String) : Link :=
  { display, target, kind := classify target }

/-- The link of a body. -/
def ofBody (body : List Char) : Link :=
  let parts := splitBody body
  ofParts (String.ofList parts.1) (String.ofList parts.2)

/-- Whether the link leads to a passage. -/
def isInternal (l : Link) : Bool :=
  l.kind == .passage

/-- The element that shows the link. A passage link has no address of its own
    and carries the passage name as data. -/
def html (l : Link) : String :=
  let target := Entity.escape l.target
  match l.kind with
  | .outside => "<a href=\"" ++ target ++ "\" class=\"external-link\">" ++ l.display ++ "</a>"
  | .passage =>
    "<a href=\"javascript:void(0)\" data-passage=\"" ++ target ++
      "\" class=\"passage-link\">" ++ l.display ++ "</a>"

end Link

/-! ## Cutting a text -/

/-- A part of a text with link markup. -/
inductive LinkPiece where
  | literal (text : List Char)
  /-- What stands between the brackets of a link. -/
  | body (text : List Char)
deriving DecidableEq, Repr, Inhabited

namespace LinkPiece

/-- The shortest body that double brackets close before the line ends, and what
    follows them. -/
def readBody : List Char → Option (List Char × List Char)
  | [] => none
  | ']' :: ']' :: cs => some ([], cs)
  | c :: cs => if c = '\n' then none else (readBody cs).map fun p => (c :: p.1, p.2)

theorem eq_of_readBody {cs b r : List Char} (h : readBody cs = some (b, r)) :
    cs = b ++ ']' :: ']' :: r := by
  fun_induction readBody cs generalizing b r with
  | case1 => simp at h
  | case2 cs =>
    simp only [Option.some.injEq, Prod.mk.injEq] at h
    obtain ⟨rfl, rfl⟩ := h
    rfl
  | case3 => simp at h
  | case4 c cs _ hc ih =>
    obtain ⟨⟨b', r'⟩, hp, he⟩ := Option.map_eq_some_iff.1 h
    simp only [Prod.mk.injEq] at he
    obtain ⟨rfl, rfl⟩ := he
    rw [ih hp]
    rfl

/-- What follows a body is shorter than the text. -/
theorem length_readBody {cs b r : List Char} (h : readBody cs = some (b, r)) :
    r.length < cs.length := by
  rw [eq_of_readBody h]
  simp only [List.length_append, List.length_cons]
  omega

/-- A literal, unless it is empty. -/
def literals (text : List Char) : List LinkPiece :=
  if text.isEmpty then [] else [.literal text]

/-- Cuts a text at the leftmost link, and what follows it likewise; `before` is
    the literal read so far, in reverse. -/
def cutFrom (before : List Char) : List Char → List LinkPiece
  | [] => literals before.reverse
  | '[' :: '[' :: cs =>
    match _h : readBody cs with
    | some (inner, rest) => literals before.reverse ++ .body inner :: cutFrom [] rest
    | none => cutFrom ('[' :: before) ('[' :: cs)
  | c :: cs => cutFrom (c :: before) cs
termination_by cs => cs.length
decreasing_by
  · have := length_readBody _h
    simp only [List.length_cons]
    omega
  · simp
  · simp

/-- The literals and link bodies of a text, in order. -/
def cut (text : List Char) : List LinkPiece :=
  cutFrom [] text

/-- The piece as it stands in the text. -/
def source : LinkPiece → List Char
  | .literal text => text
  | .body text => '[' :: '[' :: (text ++ [']', ']'])

/-- The piece with a link replaced by its element. -/
def rendered : LinkPiece → List Char
  | .literal text => text
  | .body text => (Link.ofBody text).html.toList

/-- The link of the piece, if it is one. -/
def link? : LinkPiece → Option Link
  | .literal _ => none
  | .body text => some (Link.ofBody text)

end LinkPiece

/-- A text whose links have been replaced, and the links in order. -/
structure LinkedText where
  text : String
  links : List Link
deriving DecidableEq, Repr

namespace Link

/-- Replaces every link of a text by its element. Brackets that nothing closes
    stay as they are. -/
def replaceAll (text : String) : LinkedText :=
  let pieces := LinkPiece.cut text.toList
  { text := String.ofList (pieces.flatMap LinkPiece.rendered)
    links := pieces.filterMap LinkPiece.link? }

/-- The links of a text, in order. -/
def extract (text : String) : List Link :=
  (LinkPiece.cut text.toList).filterMap LinkPiece.link?

end Link

end Hyperfiction
