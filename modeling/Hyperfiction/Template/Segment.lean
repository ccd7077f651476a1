import Hyperfiction.Text.Blank
import Hyperfiction.Template.Piece

/-! # Template trees

    A template is a list of segments: literal text, interpolations, statements
    and conditionals, whose branches are lists of segments again. `parse` builds
    it from a text in two steps: the pieces of the text are read as the tokens
    of a block language, and the tokens are nested by a stack of open blocks.
    `source` prints a tree as a template text.
-/

namespace Hyperfiction

/-- A segment of a template. -/
inductive Segment where
  /-- Text shown as it is. -/
  | literal (text : String)
  /-- Shows the value of an expression, as it is or with entities. -/
  | interpolation (code : String) (escaped : Bool)
  /-- Code that is run for what it does. -/
  | statement (code : String)
  /-- The first branch whose condition holds, else `otherwise`. -/
  | conditional (branches : List (String × List Segment)) (otherwise : List Segment)
deriving Repr, Inhabited

/-- A template: its segments in order. -/
abbrev Template := List Segment

namespace Template

/-! ## Tokens -/

/-- A word of the block language. -/
inductive Token where
  | literal (text : String)
  | interpolation (code : String) (escaped : Bool)
  | blankInterpolation
  | statement (code : String)
  /-- A tag without code. -/
  | blankCode
  /-- `if` and a condition. -/
  | opening (condition : String)
  /-- `elif` or `else if`, and a condition. -/
  | alternative (condition : String)
  /-- `else`. -/
  | otherwise
  /-- `end`. -/
  | closing
deriving DecidableEq, Repr, Inhabited

/-- What follows a word at the start of a text, if the word starts it. -/
def afterWord : (word : List Char) → List Char → Option (List Char)
  | [], cs => some cs
  | _ :: _, [] => none
  | w :: word, c :: cs => if w = c then afterWord word cs else none

/-- The argument of a keyword: the code is the keyword, a blank, and a text
    that is not blank. -/
def keywordArg (word code : List Char) : Option (List Char) :=
  match afterWord word code with
  | some (c :: cs) =>
    if Text.isBlank c then
      match Text.trim (c :: cs) with
      | [] => none
      | arg => some arg
    else none
  | _ => none

/-- The token of a code tag whose code has been trimmed. -/
def Token.ofCode (code : List Char) : Token :=
  match keywordArg ['i', 'f'] code with
  | some arg => .opening (String.ofList arg)
  | none =>
    match keywordArg ['e', 'l', 'i', 'f'] code with
    | some arg => .alternative (String.ofList arg)
    | none =>
      match keywordArg ['e', 'l', 's', 'e', ' ', 'i', 'f'] code with
      | some arg => .alternative (String.ofList arg)
      | none =>
        if code = ['e', 'l', 's', 'e'] then .otherwise
        else if code = ['e', 'n', 'd'] then .closing
        else if code.isEmpty then .blankCode
        else .statement (String.ofList code)

/-- The token of a piece. -/
def Token.ofPiece : Piece → Token
  | .text cs => .literal (String.ofList cs)
  | .interpolation code escaped =>
    match Text.trim code with
    | [] => .blankInterpolation
    | code => .interpolation (String.ofList code) escaped
  | .code cs => Token.ofCode (Text.trim cs)

/-- The tokens of a template text. -/
def tokens (cs : List Char) : List Token :=
  (Piece.split cs).map Token.ofPiece

/-! ## Nesting -/

/-- Why a text is not a template. -/
inductive ParseError where
  | emptyInterpolation
  | alternativeWithoutIf
  | otherwiseWithoutIf
  | closingWithoutIf
  | alternativeAfterOtherwise
  | repeatedOtherwise
  | unclosedBlock
deriving DecidableEq, Repr, Inhabited

/-- The text of an error. -/
def ParseError.message : ParseError → String
  | .emptyInterpolation => "empty interpolation"
  | .alternativeWithoutIf => "`elif` without `if`"
  | .otherwiseWithoutIf => "`else` without `if`"
  | .closingWithoutIf => "`end` without `if`"
  | .alternativeAfterOtherwise => "`elif` after `else`"
  | .repeatedOtherwise => "duplicate `else`"
  | .unclosedBlock => "unclosed `if` block"

/-- A block whose end has not been read. -/
structure OpenBlock where
  /-- The segments before the block, in the list it belongs to. -/
  before : List Segment
  /-- The branches that are complete, in order. -/
  branches : List (String × List Segment)
  /-- The condition of the branch being read; none after `else`. -/
  condition : Option String
deriving Repr, Inhabited

/-- The place that has been reached: the segments of the list being read, and
    the blocks it stands in, innermost first. -/
structure Nesting where
  current : List Segment
  blocks : List OpenBlock
deriving Repr, Inhabited

/-- Before anything has been read. -/
def Nesting.start : Nesting :=
  { current := [], blocks := [] }

/-- Adds a segment to the list being read. -/
def Nesting.add (n : Nesting) (s : Segment) : Nesting :=
  { n with current := n.current ++ [s] }

/-- The conditional of a block whose last list is `last`. -/
def OpenBlock.close (b : OpenBlock) (last : List Segment) : Segment :=
  match b.condition with
  | some c => .conditional (b.branches ++ [(c, last)]) []
  | none => .conditional b.branches last

/-- Reads one token. -/
def Nesting.step (n : Nesting) : Token → Except ParseError Nesting
  | .literal text => .ok (n.add (.literal text))
  | .interpolation code escaped => .ok (n.add (.interpolation code escaped))
  | .blankInterpolation => .error .emptyInterpolation
  | .statement code => .ok (n.add (.statement code))
  | .blankCode => .ok n
  | .opening c =>
    let b := { before := n.current, branches := [], condition := some c }
    .ok { current := [], blocks := b :: n.blocks }
  | .alternative c =>
    match n.blocks with
    | [] => .error .alternativeWithoutIf
    | b :: rest =>
      match b.condition with
      | none => .error .alternativeAfterOtherwise
      | some last =>
        let b := { b with branches := b.branches ++ [(last, n.current)], condition := some c }
        .ok { current := [], blocks := b :: rest }
  | .otherwise =>
    match n.blocks with
    | [] => .error .otherwiseWithoutIf
    | b :: rest =>
      match b.condition with
      | none => .error .repeatedOtherwise
      | some last =>
        let b := { b with branches := b.branches ++ [(last, n.current)], condition := none }
        .ok { current := [], blocks := b :: rest }
  | .closing =>
    match n.blocks with
    | [] => .error .closingWithoutIf
    | b :: rest => .ok { current := b.before ++ [b.close n.current], blocks := rest }

/-- Reads tokens in order. -/
def Nesting.run (n : Nesting) : List Token → Except ParseError Nesting
  | [] => .ok n
  | t :: ts =>
    match n.step t with
    | .error e => .error e
    | .ok n => n.run ts

/-- The template of a list of tokens. -/
def nest (ts : List Token) : Except ParseError Template :=
  match Nesting.start.run ts with
  | .error e => .error e
  | .ok n => if n.blocks.isEmpty then .ok n.current else .error .unclosedBlock

/-- The template of a text. -/
def parse (text : String) : Except ParseError Template :=
  nest (tokens text.toList)

/-! ## Printing -/

/-- A tag with a blank on either side of its code. -/
def spacedTag (mark : List Char) (code : String) : List Char :=
  '<' :: '%' :: (mark ++ ' ' :: (code.toList ++ [' ', '%', '>']))

mutual

/-- A segment as template text. -/
def segmentSource : Segment → List Char
  | .literal text => text.toList
  | .interpolation code false => spacedTag ['='] code
  | .interpolation code true => spacedTag ['-'] code
  | .statement code => spacedTag [] code
  | .conditional branches otherwise =>
    branchesSource ['i', 'f'] branches ++
      (match otherwise with
        | [] => []
        | _ => spacedTag [] "else" ++ segmentsSource otherwise) ++
      spacedTag [] "end"

/-- Segments as template text. -/
def segmentsSource : List Segment → List Char
  | [] => []
  | s :: rest => segmentSource s ++ segmentsSource rest

/-- The branches of a conditional as template text; the first one begins with
    `word`, the others with `elif`. -/
def branchesSource (word : List Char) : List (String × List Segment) → List Char
  | [] => []
  | (c, body) :: rest =>
    spacedTag (' ' :: word) c ++ segmentsSource body ++ branchesSource ['e', 'l', 'i', 'f'] rest

end

/-- A template as text. -/
def source (t : Template) : String :=
  String.ofList (segmentsSource t)

end Template

end Hyperfiction
