import Hyperfiction.Markdown.Tag
import Hyperfiction.Markdown.Target

/-! # Blocks of markup

    The block structure of a markup text, found line by line. The blocks that
    lines may still be added to form a tree that is open along one path; each
    line goes down that path, as far as the containers on it admit the line, and
    then extends the block there, or closes it and opens another.
-/

namespace Hyperfiction.Markdown

/-! ## Closed blocks -/

/-- How the cells of a column are aligned. -/
inductive Alignment where
  | none
  | left
  | center
  | right
deriving DecidableEq

/-- A block; the texts in it are not read yet. -/
inductive Block where
  | paragraph (text : List Char)
  | heading (level : Nat) (text : List Char)
  | rule
  /-- Code, with what is said of it behind its fence. -/
  | code (info : List Char) (text : List Char)
  | html (text : List Char)
  | quote (blocks : List Block)
  /-- A list; `start` is the number of the first item if the items are numbered. -/
  | list (start : Option Nat) (loose : Bool) (items : List (List Block))
  | table (alignments : List Alignment) (header : List (List Char))
      (rows : List (List (List Char)))
  | definition (d : Definition)

/-! ## Open blocks -/

/-- What begins and ends a block of code. -/
structure Fence where
  char : Char
  length : Nat
  /-- The columns of blanks before it, which lines of code lose. -/
  indent : Nat
  info : List Char

/-- What ends a block of HTML: a blank line, or a line that holds a text. -/
inductive HtmlEnd where
  | blankLine
  | holding (text : List Char)

/-- What an item of a list starts with: a bullet, or a number and its delimiter. -/
structure Marker where
  /-- The bullet or the delimiter. -/
  char : Char
  number : Option Nat
  width : Nat

/-- Whether two items belong to one list. -/
def Marker.sameKind (a b : Marker) : Bool :=
  a.char = b.char

mutual

/-- The block that lines may be added to; lines are kept newest first. -/
inductive Open where
  | nothing
  | paragraph (lines : List (List Char))
  | indented (lines : List (List Char))
  | fenced (fence : Fence) (lines : List (List Char))
  | html (ending : HtmlEnd) (lines : List (List Char))
  | table (alignments : List Alignment) (header : List (List Char))
      (rows : List (List (List Char)))
  | quote (inside : Flow)
  /-- A list: the closed items, newest first, and the open item with the column
      where its text starts. A sealed item started with a blank line that another
      one followed, and takes no more lines. -/
  | list (marker : Marker) (loose : Bool) (items : List (List Block)) (column : Nat)
      (isSealed : Bool) (item : Flow)

/-- A run of blocks in one container: the closed ones, newest first, the open
    one, whether the last line was blank, and whether a blank line stands between
    two of the blocks. -/
inductive Flow where
  | mk (closed : List Block) (last : Open) (gap loose : Bool)

end

instance : Inhabited Flow := ⟨.mk [] .nothing false false⟩

/-- A run of blocks without any. -/
def Flow.empty : Flow := .mk [] .nothing false false

/-- Whether there are no blocks. -/
def Flow.isEmpty : Flow → Bool
  | .mk [] .nothing _ _ => true
  | _ => false

/-- Whether the last line was blank or a blank line stands between blocks. -/
def Flow.hasGap : Flow → Bool
  | .mk _ _ gap loose => gap || loose

/-- Whether a blank line stands between blocks. -/
def Flow.isLoose : Flow → Bool
  | .mk _ _ _ loose => loose

/-! ## Closing -/

/-- The text of lines, given newest first. -/
def joinLines (lines : List (List Char)) : List Char :=
  ['\n'].intercalate lines.reverse

/-- What the lines of a paragraph come to, newest block first: the definitions at
    its start, and a paragraph if anything is left. -/
def closeParagraph (lines : List (List Char)) : List Block :=
  let (definitions, rest) := readDefinitions (joinLines lines)
  let text := trimSpaceEnd rest
  (if text.isEmpty then [] else [.paragraph text]) ++ (definitions.map Block.definition).reverse

mutual

/-- The blocks that an open block comes to, newest first. -/
def Open.close : Open → List Block
  | .nothing => []
  | .paragraph lines => closeParagraph lines
  | .indented lines => [.code [] (lines.dropWhile (·.all isSpaceOrEnd)).reverse.flatten]
  | .fenced fence lines => [.code fence.info lines.reverse.flatten]
  | .html _ lines => [.html lines.reverse.flatten]
  | .table alignments header rows => [.table alignments header rows.reverse]
  | .quote inside => [.quote inside.close]
  | .list marker loose items _ _ item =>
    [.list marker.number (loose || item.isLoose) (item.close :: items).reverse]

/-- The blocks of a run, in order. -/
def Flow.close : Flow → List Block
  | .mk closed last _ _ => (last.close ++ closed).reverse

end

mutual

/-- Whether the innermost open block is a paragraph. -/
def Open.endsInParagraph : Open → Bool
  | .paragraph _ => true
  | .quote inside => inside.endsInParagraph
  | .list _ _ _ _ isSealed item => !isSealed && item.endsInParagraph
  | _ => false

/-- Whether the innermost open block is a paragraph. -/
def Flow.endsInParagraph : Flow → Bool
  | .mk _ last _ _ => last.endsInParagraph

end

mutual

/-- Adds a line to the paragraph that is the innermost open block. -/
def Open.continueParagraph (text : List Char) : Open → Open
  | .paragraph lines => .paragraph (text :: lines)
  | .quote inside => .quote (inside.continueParagraph text)
  | .list marker loose items column isSealed item =>
    .list marker loose items column isSealed (item.continueParagraph text)
  | o => o

/-- Adds a line to the paragraph that is the innermost open block. -/
def Flow.continueParagraph (text : List Char) : Flow → Flow
  | .mk closed last _ loose => .mk closed (last.continueParagraph text) false loose

end

/-! ## What blocks start with -/

/-- The character that code stands between. -/
def tick : Char := Char.ofNat 96

/-- Whether a line is a rule: three or more of one character, blanks aside. -/
def isRule (cs : List Char) : Bool :=
  match cs.filter (!isSpace ·) with
  | c :: rest => (c = '*' || c = '-' || c = '_') && 2 ≤ rest.length && rest.all (· = c)
  | [] => false

/-- The level of the heading that a line under a paragraph makes of it. -/
def underline? (cs : List Char) : Option Nat :=
  match trimSpaceEnd cs with
  | '=' :: rest => if rest.all (· = '=') then some 1 else none
  | '-' :: rest => if rest.all (· = '-') then some 2 else none
  | _ => none

/-- The text of a heading without the number signs that close it. -/
def withoutClosingSigns (cs : List Char) : List Char :=
  let opened := (trimSpace cs).reverse.dropWhile (· = '#')
  match opened with
  | [] => []
  | c :: _ => if isSpace c then trimSpaceEnd opened.reverse else trimSpace cs

/-- The heading that a line of number signs and a text is. -/
def heading? (cs : List Char) : Option Block :=
  let level := (cs.takeWhile (· = '#')).length
  let rest := cs.drop level
  if 1 ≤ level ∧ level ≤ 6 ∧ (rest.head?.map isSpace).getD true then
    some (.heading level (withoutClosingSigns rest))
  else none

/-- The fence that a line is, `indent` columns from the start. -/
def fence? (indent : Nat) (cs : List Char) : Option Fence :=
  match cs with
  | c :: _ =>
    let run := cs.takeWhile (· = c)
    let info := cs.drop run.length
    if (c = tick ∨ c = '~') ∧ 3 ≤ run.length ∧ (c = '~' ∨ info.all (· ≠ tick)) then
      some { char := c, length := run.length, indent, info := plain (trimSpace info) }
    else none
  | [] => none

/-- Whether a line closes a fence. -/
def Fence.isClosedBy (fence : Fence) (line : Cursor) : Bool :=
  let run := line.text.takeWhile (· = fence.char)
  line.indent < 4 && fence.length ≤ run.length && (line.text.drop run.length).all isSpace

/-- The names of the tags that start a block of HTML wherever they stand. -/
def blockTags : List String :=
  ["address", "article", "aside", "base", "basefont", "blockquote", "body", "caption", "center",
    "col", "colgroup", "dd", "details", "dialog", "dir", "div", "dl", "dt", "fieldset",
    "figcaption", "figure", "footer", "form", "frame", "frameset", "h1", "h2", "h3", "h4", "h5",
    "h6", "head", "header", "hr", "html", "iframe", "legend", "li", "link", "main", "menu",
    "menuitem", "nav", "noframes", "ol", "optgroup", "option", "p", "param", "search", "section",
    "summary", "table", "tbody", "td", "tfoot", "th", "thead", "title", "tr", "track", "ul"]

/-- The names of the tags whose content is not markup. -/
def rawTags : List String :=
  ["pre", "style", "script", "textarea"]

/-- The name of a tag in lower case, and what follows it. -/
def lowerName (cs : List Char) : String × List Char :=
  match Tag.readName cs with
  | some (name, rest) => (String.ofList (name.map Char.toLower), rest)
  | none => ("", cs)

/-- What ends the block of HTML that a line starts. A tag that is no block tag
    starts one only on a line of its own that does not continue a paragraph. -/
def htmlEnd? (inParagraph : Bool) : List Char → Option HtmlEnd
  | '<' :: cs =>
    let (name, rest) := lowerName cs
    let (closedName, closedRest) := lowerName (cs.drop 1)
    let ends := fun (rest : List Char) => (rest.head?.map fun c => isSpace c || c = '>').getD true
    let isBlockTag := fun (name : String) (rest : List Char) =>
      blockTags.contains name && (ends rest || "/>".toList.isPrefixOf rest)
    if rawTags.contains name ∧ ends rest then some (.holding ("</" ++ name ++ ">").toList)
    else if "!--".toList.isPrefixOf cs then some (.holding "-->".toList)
    else if "?".toList.isPrefixOf cs then some (.holding "?>".toList)
    else if "![CDATA[".toList.isPrefixOf cs then some (.holding "]]>".toList)
    else if cs.head? = some '!' ∧ (cs.drop 1).head?.any Char.isAlpha then some (.holding ['>'])
    else if isBlockTag name rest ∨ (cs.head? = some '/' ∧ isBlockTag closedName closedRest) then
      some .blankLine
    else if !inParagraph ∧ (Tag.afterTag cs).any (·.all isSpace) then some .blankLine
    else none
  | _ => none

/-- The marker of an item at the start of a text. -/
def marker? (cs : List Char) : Option Marker :=
  let isEnd := fun (rest : List Char) => (rest.head?.map isSpace).getD true
  match cs with
  | c :: rest =>
    if c = '*' ∨ c = '+' ∨ c = '-' then
      if isEnd rest then some { char := c, number := none, width := 1 } else none
    else
      let digits := cs.takeWhile Char.isDigit
      match cs.drop digits.length with
      | d :: rest =>
        if 1 ≤ digits.length ∧ digits.length ≤ 9 ∧ (d = '.' ∨ d = ')') ∧ isEnd rest then
          some { char := d, number := some (Json.ofDigits digits), width := digits.length + 1 }
        else none
      | [] => none
  | [] => none

/-- The cursor behind the mark of a quote and the blank after it. -/
def afterQuote? (line : Cursor) : Option Cursor :=
  if line.indent < 4 ∧ line.text.head? = some '>' then
    let inner := line.dropMarker 1
    some <| if inner.rest.head?.any fun c => c = ' ' || c = '\t' then inner.dropColumns 1 else inner
  else none

/-- The cursor behind the marker of an item and the blanks that belong to it, and
    the column, counted from the cursor before, where the item's text starts. -/
def afterMarker (marker : Marker) (line : Cursor) : Cursor × Nat :=
  let indent := line.indent
  let inside := line.dropMarker marker.width
  if inside.isBlank then ({ inside with rest := [] }, indent + marker.width + 1)
  else
    let blanks := if 5 ≤ inside.indent then 1 else inside.indent
    (inside.dropColumns blanks, indent + marker.width + blanks)

/-! ## Tables -/

/-- The alignment that the cell of a delimiter row asks for: a colon before its
    hyphens or after them. -/
def alignment? (cell : List Char) : Option Alignment :=
  let marks := cell.filter (· ≠ ' ')
  if marks.contains '-' then
    some <|
      match marks.head? == some ':', marks.tail.contains ':' with
      | true, true => .center
      | true, false => .left
      | false, true => .right
      | false, false => .none
  else none

/-- A row cut at the pipes that no backslash stands before; `cell` is the cell
    being read, in reverse. -/
def cutCells (cell : List Char) : List Char → List (List Char)
  | [] => [cell.reverse]
  | '\\' :: '|' :: cs => cutCells ('|' :: cell) cs
  | '\\' :: '\\' :: cs => cutCells ('\\' :: '\\' :: cell) cs
  | '|' :: cs => cell.reverse :: cutCells [] cs
  | c :: cs => cutCells (c :: cell) cs

/-- The cells of a row: a pipe at its start and one at its end are not counted. -/
def cells (row : List Char) : List (List Char) :=
  let cs := trimSpace row
  let cs := if cs.head? = some '|' then cs.drop 1 else cs
  let parts := (cutCells [] cs).map trimSpace
  if parts.getLast? = some [] then parts.dropLast else parts

/-- Whether a pipe that no backslash stands before is in a row. -/
def hasPipe (row : List Char) : Bool :=
  1 < (cutCells [] row).length

/-- The alignments that a delimiter row gives its columns. -/
def delimiterRow? (row : List Char) : Option (List Alignment) :=
  if row.contains '|' ∧ row.contains '-' ∧ row.all fun c => " :-|".toList.contains c then
    (cells row).mapM alignment?
  else none

/-- As many cells as there are columns. -/
def fitRow (columns : Nat) (row : List (List Char)) : List (List Char) :=
  row.take columns ++ List.replicate (columns - row.length) []

/-- The table whose delimiter row comes after the lines of a paragraph, and the
    blocks before it. The row before the delimiter row has a pipe, at its start
    if other lines come before it. -/
def table? (lines : List (List Char)) (row : List Char) : Option (List Block × Open) := do
  let alignments ← delimiterRow? row
  let (definitions, text) := readDefinitions (joinLines lines)
  match lines with
  | [] => none
  | header :: before =>
    let names := cells header
    if names.length ≠ alignments.length ∨ !hasPipe header then none
    else if trimSpaceEnd text = trimSpaceEnd header then
      some ((definitions.map Block.definition).reverse, .table alignments names [])
    else if header.head? = some '|' ∧ trimSpaceEnd text ≠ [] then
      some (closeParagraph before, .table alignments names [])
    else none

/-! ## Starting blocks -/

/-- What a line that may start a block comes after. -/
structure Before where
  /-- Whether the innermost open block is a paragraph. -/
  inParagraph : Bool
  /-- Whether that paragraph would get the line. -/
  isOwn : Bool

/-- After a closed block. -/
def Before.nothing : Before := ⟨false, false⟩

/-- Whether an item may start here: only one that is not blank, and that is the
    first if the items are numbered, may interrupt a paragraph. -/
def Before.admitsItem (before : Before) (marker : Marker) (inside : Cursor) : Bool :=
  !before.isOwn || (!inside.isBlank && marker.number.getD 1 = 1)

/-- The blocks that a line starts, unless it is blank or the text of a paragraph;
    `fuel` bounds how deep they are nested. -/
def started? : Nat → Before → Cursor → Option Flow
  | 0, _, _ => none
  | fuel + 1, before, line =>
    let cs := line.text
    let inside := fun (inner : Cursor) =>
      match started? fuel .nothing inner with
      | some flow => flow
      | none => if inner.isBlank then .empty else .mk [] (.paragraph [inner.text]) false false
    if line.isBlank then none
    else if 4 ≤ line.indent then
      if before.inParagraph then none
      else some (.mk [] (.indented [(line.dropColumns 4).whole]) false false)
    else
      match afterQuote? line, heading? cs, fence? line.indent cs,
        htmlEnd? before.inParagraph cs with
      | some inner, _, _, _ => some (.mk [] (.quote (inside inner)) false false)
      | none, some heading, _, _ => some (.mk [heading] .nothing false false)
      | none, none, some fence, _ => some (.mk [] (.fenced fence []) false false)
      | none, none, none, some .blankLine =>
        some (.mk [] (.html .blankLine [line.whole]) false false)
      | none, none, none, some (.holding text) =>
        if (afterFirst text line.rest).isSome then
          some (.mk [.html line.whole] .nothing false false)
        else some (.mk [] (.html (.holding text) [line.whole]) false false)
      | none, none, none, none =>
        if isRule cs then some (.mk [.rule] .nothing false false)
        else
          match marker? cs with
          | some marker =>
            let (inner, column) := afterMarker marker line
            if before.admitsItem marker inner then
              some (.mk [] (.list marker false [] column false (inside inner)) false false)
            else none
          | none => none

/-- The blocks that a line starts, unless it is blank or the text of a paragraph. -/
def start? (before : Before) (line : Cursor) : Option Flow :=
  started? (line.rest.length + 1) before line

/-- The run of blocks that a line starts. -/
def Flow.ofLine (line : Cursor) : Flow :=
  match start? .nothing line with
  | some flow => flow
  | none => if line.isBlank then .empty else .mk [] (.paragraph [line.text]) false false

/-! ## Adding a line -/

/-- What a line does to a paragraph that would get it: the blocks it closes and
    the block that is open afterwards, or nothing if the line is not for it. -/
def addToParagraph (lines : List (List Char)) (line : Cursor) : Option (List Block × Open) :=
  if line.isBlank then none
  else
    let underlined : Option (List Block × Open) :=
      if 4 ≤ line.indent then none
      else do
        let level ← underline? line.text
        let (definitions, rest) := readDefinitions (joinLines lines)
        if (trimSpace rest).isEmpty then none
        else
          some (.heading level (trimSpace rest) :: (definitions.map Block.definition).reverse,
            .nothing)
    let tabled := if 4 ≤ line.indent then none else table? lines line.text
    match tabled, underlined with
    | some t, _ => some t
    | none, some h => some h
    | none, none =>
      if (start? ⟨true, true⟩ line).isSome then none
      else some ([], .paragraph (line.text :: lines))

mutual

/-- What a line does to an open block: the blocks it closes, newest first, and
    the block that is open afterwards, or nothing if the line is not for it. -/
def Open.add (line : Cursor) : Open → Option (List Block × Open)
  | .nothing => none
  | .paragraph lines => addToParagraph lines line
  | .indented lines =>
    if line.isBlank ∨ 4 ≤ line.indent then
      some ([], .indented ((line.dropColumns 4).whole :: lines))
    else none
  | .fenced fence lines =>
    if fence.isClosedBy line then some ([.code fence.info lines.reverse.flatten], .nothing)
    else some ([], .fenced fence ((line.dropColumns fence.indent).whole :: lines))
  | .html .blankLine lines =>
    if line.isBlank then none else some ([], .html .blankLine (line.whole :: lines))
  | .html (.holding text) lines =>
    let lines := line.whole :: lines
    if (afterFirst text line.rest).isSome then some ([.html lines.reverse.flatten], .nothing)
    else some ([], .html (.holding text) lines)
  | .table alignments header rows =>
    if line.isBlank ∨ (start? ⟨true, true⟩ { rest := line.text }).isSome then none
    else some ([], .table alignments header (fitRow header.length (cells line.text) :: rows))
  | .quote inside =>
    match afterQuote? line with
    | some inner => some ([], .quote (inside.add inner))
    | none => none
  | .list marker loose items column isSealed item =>
    if line.isBlank then
      if isSealed ∨ item.isEmpty then
        some ([], .list marker loose items column true (.mk [] .nothing true false))
      else some ([], .list marker loose items column false (item.add line))
    else if !isSealed ∧ column ≤ line.indent then
      some ([], .list marker loose items column false (item.add (line.dropColumns column)))
    else if 4 ≤ line.indent ∨ isRule line.text then none
    else
      match marker? line.text with
      | some next =>
        if next.sameKind marker then
          let (inner, column) := afterMarker next line
          some ([], .list marker (loose || item.hasGap) (item.close :: items) column false
            (.ofLine inner))
        else none
      | none => none

/-- Adds a line to a run of blocks. -/
def Flow.add (line : Cursor) : Flow → Flow
  | .mk closed last gap loose =>
    match last.add line with
    | some (more, next) =>
      let consumed := match last with
        | .fenced _ _ => true
        | _ => false
      .mk (more ++ closed) next (line.isBlank && !consumed) loose
    | none =>
      if line.isBlank then .mk (last.close ++ closed) .nothing true loose
      else
        let isOwn := match last with
          | .paragraph _ => true
          | _ => false
        match start? ⟨last.endsInParagraph, isOwn⟩ line with
        | some (.mk more next _ _) =>
          .mk (more ++ last.close ++ closed) next false (loose || gap)
        | none =>
          if last.endsInParagraph then
            .mk closed (last.continueParagraph line.text) false loose
          else
            .mk (last.close ++ closed) (.paragraph [line.text]) false (loose || gap)

end

/-- The blocks of a text. -/
def blocks (cs : List Char) : List Block :=
  ((lines cs).foldl (fun flow line => flow.add line) Flow.empty).close

end Hyperfiction.Markdown
