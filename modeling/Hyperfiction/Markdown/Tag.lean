import Hyperfiction.Markdown.Line
import Hyperfiction.Text.Case

/-! # Tags in markup

    Reading the HTML that markup may hold: tags with their attributes, comments,
    instructions and declarations. A reader gives what follows the thing read.
-/

namespace Hyperfiction.Markdown

/-- What follows the first occurrence of a pattern. -/
def afterFirst (pattern : List Char) : List Char → Option (List Char)
  | [] => if pattern.isEmpty then some [] else none
  | c :: cs =>
    if pattern.isPrefixOf (c :: cs) then some ((c :: cs).drop pattern.length)
    else afterFirst pattern cs

/-- What follows a pattern at the start. -/
def afterPrefix (pattern cs : List Char) : Option (List Char) :=
  if pattern.isPrefixOf cs then some (cs.drop pattern.length) else none

namespace Tag

/-- The name of a tag, and what follows. -/
def readName : List Char → Option (List Char × List Char)
  | c :: cs =>
    if c.isAlpha then
      let isPart := fun (d : Char) => d.isAlphanum || d = '-'
      some (c :: cs.takeWhile isPart, cs.dropWhile isPart)
    else none
  | [] => none

/-- Whether a character may start the name of an attribute. -/
def isAttributeStart (c : Char) : Bool :=
  c.isAlpha || c = '_' || c = ':'

/-- Whether a character may stand in the name of an attribute. -/
def isAttributePart (c : Char) : Bool :=
  isAttributeStart c || c.isDigit || c = '.' || c = '-'

/-- Whether a character may stand in a value without quotes. -/
def isUnquoted (c : Char) : Bool :=
  !(isSpaceOrEnd c || c = '"' || c = '\'' || c = '=' || c = '<' || c = '>' || c.toNat = 96)

/-- What follows the value of an attribute. -/
def afterValue : List Char → Option (List Char)
  | '"' :: cs => (cs.dropWhile (· ≠ '"')).tail?
  | '\'' :: cs => (cs.dropWhile (· ≠ '\'')).tail?
  | cs => if cs.takeWhile isUnquoted = [] then none else some (cs.dropWhile isUnquoted)

/-- What follows the attributes of a tag; `fuel` bounds their number. -/
def afterAttributes : Nat → List Char → Option (List Char)
  | 0, cs => some cs
  | fuel + 1, cs =>
    match cs.dropWhile isSpaceOrEnd with
    | c :: rest =>
      if isAttributeStart c ∧ cs.head?.any isSpaceOrEnd then
        let named := rest.dropWhile isAttributePart
        match named.dropWhile isSpaceOrEnd with
        | '=' :: value =>
          match afterValue (value.dropWhile isSpaceOrEnd) with
          | some after => afterAttributes fuel after
          | none => none
        | _ => afterAttributes fuel named
      else some cs
    | [] => some cs

/-- What follows an opening tag, after its angle bracket. -/
def afterOpening (cs : List Char) : Option (List Char) := do
  let (_, rest) ← readName cs
  let rest ← afterAttributes rest.length rest
  match rest.dropWhile isSpaceOrEnd with
  | '>' :: after => some after
  | '/' :: '>' :: after => some after
  | _ => none

/-- What follows a closing tag, after its angle bracket and slash. -/
def afterClosing (cs : List Char) : Option (List Char) := do
  let (_, rest) ← readName cs
  match rest.dropWhile isSpaceOrEnd with
  | '>' :: after => some after
  | _ => none

/-- What follows a tag of either kind, after its angle bracket. -/
def afterTag : List Char → Option (List Char)
  | '/' :: cs => afterClosing cs
  | cs => afterOpening cs

/-- What follows a tag, comment, instruction, declaration or section, after its
    angle bracket. -/
def afterAny : List Char → Option (List Char)
  | '!' :: '-' :: '-' :: '>' :: cs => some cs
  | '!' :: '-' :: '-' :: '-' :: '>' :: cs => some cs
  | '!' :: '-' :: '-' :: cs => afterFirst "-->".toList cs
  | '?' :: cs => afterFirst "?>".toList cs
  | '!' :: c :: cs =>
    if c.isAlpha then afterFirst ['>'] cs
    else (afterPrefix "[CDATA[".toList (c :: cs)).bind (afterFirst "]]>".toList)
  | cs => afterTag cs

end Tag

end Hyperfiction.Markdown
