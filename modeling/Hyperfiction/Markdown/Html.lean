import Hyperfiction.Markdown.Block
import Hyperfiction.Markdown.Inline
import Hyperfiction.Rendering

/-! # Markup as HTML

    Writing the blocks of a markup text, and the text in them, as HTML. The page
    is kept in reverse while it is written, so that what was written last is at
    hand: the tag of a block starts on a new line.
-/

namespace Hyperfiction

namespace Markdown

/-- A page in reverse. -/
abbrev Page := List Char

namespace Page

/-- Writes a text. -/
def put (cs : List Char) (page : Page) : Page :=
  cs.reverse ++ page

/-- Writes a text that is given as a string. -/
def puts (s : String) (page : Page) : Page :=
  page.put s.toList

/-- Ends the line unless it is empty. -/
def freshLine (page : Page) : Page :=
  match page with
  | [] => []
  | '\n' :: _ => page
  | _ => '\n' :: page

end Page

/-! ## Escaping -/

/-- A text as it stands between tags. -/
def bodyText (cs : List Char) : List Char :=
  cs.flatMap fun c =>
    if c = '&' then "&amp;".toList else if c = '<' then "&lt;".toList
    else if c = '>' then "&gt;".toList else [c]

/-- A text as it stands in an attribute. -/
def attributeText (cs : List Char) : List Char :=
  cs.flatMap fun c => if c = '"' then "&quot;".toList else bodyText [c]

/-- A hexadecimal digit. -/
def hexDigit (n : Nat) : Char :=
  "0123456789ABCDEF".toList.getD n '0'

/-- Whether a character of a destination stays as it is. -/
def isPlainInAddress (c : Char) : Bool :=
  c.isAlphanum || "-_.+!*(),%#@?=;:/$~".toList.contains c

/-- A destination as it stands in an attribute: characters that an address may not
    hold are written as percent signs with the digits of their bytes. -/
def addressText (cs : List Char) : List Char :=
  cs.flatMap fun c =>
    if isPlainInAddress c then [c]
    else if c = '&' then "&amp;".toList
    else if c = '\'' then "&#x27;".toList
    else (String.singleton c).toUTF8.toList.flatMap fun byte =>
      ['%', hexDigit (byte.toNat / 16), hexDigit (byte.toNat % 16)]

/-! ## Text -/

mutual

/-- What a part says when it is the description of an image. -/
def description : Inline → List Char
  | .text cs | .code cs | .tag cs => attributeText cs
  | .softBreak | .hardBreak => [' ']
  | .emphasis inside | .strong inside | .struck inside | .link _ inside | .image _ inside =>
    descriptions inside

/-- What parts say when they are the description of an image. -/
def descriptions : List Inline → List Char
  | [] => []
  | i :: is => description i ++ descriptions is

end

/-- The attribute for the title of a target. -/
def titleAttribute (target : Target) : List Char :=
  if target.title.isEmpty then []
  else " title=\"".toList ++ attributeText target.title ++ ['"']

mutual

/-- A part of a text as HTML. -/
def inlineHtml : Inline → List Char
  | .text cs => bodyText cs
  | .code cs => "<code>".toList ++ bodyText cs ++ "</code>".toList
  | .tag cs => cs
  | .softBreak => ['\n']
  | .hardBreak => "<br />\n".toList
  | .emphasis inside => "<em>".toList ++ inlinesHtml inside ++ "</em>".toList
  | .strong inside => "<strong>".toList ++ inlinesHtml inside ++ "</strong>".toList
  | .struck inside => "<del>".toList ++ inlinesHtml inside ++ "</del>".toList
  | .link target inside =>
    "<a href=\"".toList ++ addressText target.destination ++ ['"'] ++ titleAttribute target ++
      ['>'] ++ inlinesHtml inside ++ "</a>".toList
  | .image target inside =>
    "<img src=\"".toList ++ addressText target.destination ++ "\" alt=\"".toList ++
      descriptions inside ++ ['"'] ++ titleAttribute target ++ " />".toList

/-- Parts of a text as HTML. -/
def inlinesHtml : List Inline → List Char
  | [] => []
  | i :: is => inlineHtml i ++ inlinesHtml is

end

/-- The text of a block as HTML. -/
def textHtml (definitions : List Definition) (cs : List Char) : List Char :=
  inlinesHtml (inlines definitions cs)

/-! ## Blocks -/

/-- The attribute for the alignment of a cell. -/
def Alignment.attribute : Alignment → String
  | .none => ""
  | .left => " style=\"text-align: left\""
  | .center => " style=\"text-align: center\""
  | .right => " style=\"text-align: right\""

/-- The cells of a row, as elements with a name. -/
def rowHtml (definitions : List Definition) (element : String) (alignments : List Alignment)
    (row : List (List Char)) : List Char :=
  (alignments.zip row).flatMap fun (alignment, cell) =>
    ("<" ++ element ++ alignment.attribute ++ ">").toList ++ textHtml definitions cell ++
      ("</" ++ element ++ ">").toList

mutual

/-- The definitions in a block. -/
def Block.definitions : Block → List Definition
  | .definition d => [d]
  | .quote blocks => definitionsOf blocks
  | .list _ _ items => definitionsOfItems items
  | _ => []

/-- The definitions in blocks. -/
def definitionsOf : List Block → List Definition
  | [] => []
  | b :: bs => b.definitions ++ definitionsOf bs

/-- The definitions in the items of a list. -/
def definitionsOfItems : List (List Block) → List Definition
  | [] => []
  | item :: items => definitionsOf item ++ definitionsOfItems items

end

mutual

/-- Writes a block; in a tight list paragraphs are written as their text. -/
def writeBlock (definitions : List Definition) (tight : Bool) (page : Page) : Block → Page
  | .paragraph text =>
    if tight then page.put (textHtml definitions text)
    else ((page.freshLine.puts "<p>").put (textHtml definitions text)).puts "</p>\n"
  | .heading level text =>
    let name := "h" ++ toString level ++ ">"
    ((page.freshLine.puts ("<" ++ name)).put (textHtml definitions text)).puts
      ("</" ++ name ++ "\n")
  | .rule => page.freshLine.puts "<hr />\n"
  | .code info text =>
    let language := info.takeWhile (· ≠ ' ')
    let opened :=
      if language.isEmpty then page.freshLine.puts "<pre><code>"
      else ((page.freshLine.puts "<pre><code class=\"language-").put
        (attributeText language)).puts "\">"
    (opened.put (bodyText text)).puts "</code></pre>\n"
  | .html text => page.put text
  | .quote blocks =>
    (writeBlocks definitions false (page.freshLine.puts "<blockquote>\n") blocks).puts
      "</blockquote>\n"
  | .list start loose items =>
    let page := page.freshLine
    match start with
    | none => (writeItems definitions (!loose) (page.puts "<ul>\n") items).puts "</ul>\n"
    | some 1 => (writeItems definitions (!loose) (page.puts "<ol>\n") items).puts "</ol>\n"
    | some n =>
      (writeItems definitions (!loose) (page.puts ("<ol start=\"" ++ toString n ++ "\">\n"))
        items).puts "</ol>\n"
  | .table alignments header rows =>
    let row := fun (page : Page) (cells : List (List Char)) =>
      ((page.puts "<tr>").put (rowHtml definitions "td" alignments cells)).puts "</tr>\n"
    let page := ((page.puts "<table><thead><tr>").put
      (rowHtml definitions "th" alignments header)).puts "</tr></thead><tbody>\n"
    (rows.foldl row page).puts "</tbody></table>\n"
  | .definition _ => page

/-- Writes blocks. -/
def writeBlocks (definitions : List Definition) (tight : Bool) (page : Page) : List Block → Page
  | [] => page
  | b :: bs => writeBlocks definitions tight (writeBlock definitions tight page b) bs

/-- Writes the items of a list. -/
def writeItems (definitions : List Definition) (tight : Bool) (page : Page) :
    List (List Block) → Page
  | [] => page
  | item :: items =>
    writeItems definitions tight
      ((writeBlocks definitions tight (page.freshLine.puts "<li>") item).puts "</li>\n") items

end

/-- A markup text as HTML. -/
def html (cs : List Char) : List Char :=
  let blocks := blocks cs
  (writeBlocks (definitionsOf blocks) false [] blocks).reverse

end Markdown

/-- Reads the markup as markdown with tables and struck text. -/
def Markup.markdown : Markup := fun text =>
  String.ofList (Markdown.html text.toList)

end Hyperfiction
