import Hyperfiction.Markdown.Reference
import Hyperfiction.Markdown.Line
import Hyperfiction.Text.Punctuation

/-! # Link targets

    Where a link of the markup leads: a destination with a title. Targets stand
    behind the text of a link or in a definition, a line of its own that gives a
    label a target.
-/

namespace Hyperfiction.Markdown

/-- A destination and a title. -/
structure Target where
  destination : List Char
  title : List Char := []

/-- Backslash escapes and character references replaced by what they stand for;
    `fuel` bounds the length of the text. -/
def plainFrom : Nat → List Char → List Char
  | 0, cs => cs
  | _ + 1, [] => []
  | fuel + 1, '\\' :: c :: cs =>
    if Text.isAsciiPunctuation c then c :: plainFrom fuel cs else '\\' :: plainFrom fuel (c :: cs)
  | fuel + 1, '&' :: cs =>
    match readReference cs with
    | some (chars, rest) => chars ++ plainFrom fuel rest
    | none => '&' :: plainFrom fuel cs
  | fuel + 1, c :: cs => c :: plainFrom fuel cs

/-- Backslash escapes and character references replaced by what they stand for. -/
def plain (cs : List Char) : List Char :=
  plainFrom cs.length cs

/-! ## Labels -/

/-- A text up to an unescaped closing character, and what follows that; no
    `forbidden` character may stand unescaped in it. -/
def readUntil (close : Char) (forbidden : Char → Bool) :
    List Char → Option (List Char × List Char)
  | [] => none
  | '\\' :: c :: cs =>
    if Text.isAsciiPunctuation c then
      (readUntil close forbidden cs).map fun p => ('\\' :: c :: p.1, p.2)
    else if forbidden '\\' then none
    else (readUntil close forbidden (c :: cs)).map fun p => ('\\' :: p.1, p.2)
  | c :: cs =>
    if c = close then some ([], cs)
    else if forbidden c then none
    else (readUntil close forbidden cs).map fun p => (c :: p.1, p.2)

/-- The most characters a label may have. -/
def maxLabelLength : Nat := 999

/-- The label after an opening bracket and what follows its closing bracket. A
    label has no brackets in it and something that is not blank. -/
def readLabel (cs : List Char) : Option (List Char × List Char) :=
  match readUntil ']' (· = '[') cs with
  | some (label, rest) =>
    if label.all isSpaceOrEnd ∨ maxLabelLength < label.length then none else some (label, rest)
  | none => none

/-- Two labels are the same when their keys are: case and the number of blanks do
    not count. -/
def labelKey (label : List Char) : List Char :=
  Text.lower (Text.upper (Text.lower ([' '].intercalate (Text.words label))))

/-! ## Destinations and titles -/

/-- How deep parentheses may be nested in a destination. -/
def maxParentheses : Nat := 32

/-- A destination without angle brackets: it ends at a blank or a control
    character, or at a parenthesis that was not opened in it. -/
def readBare (depth : Nat) : List Char → Option (List Char × List Char)
  | [] => if depth = 0 then some ([], []) else none
  | '\\' :: c :: cs =>
    if Text.isAsciiPunctuation c then
      (readBare depth cs).map fun p => ('\\' :: c :: p.1, p.2)
    else (readBare depth (c :: cs)).map fun p => ('\\' :: p.1, p.2)
  | c :: cs =>
    if c.toNat ≤ 32 ∨ c.toNat = 127 then (if depth = 0 then some ([], c :: cs) else none)
    else if c = '(' then
      if depth < maxParentheses then (readBare (depth + 1) cs).map fun p => (c :: p.1, p.2)
      else none
    else if c = ')' then
      match depth with
      | 0 => some ([], c :: cs)
      | d + 1 => (readBare d cs).map fun p => (c :: p.1, p.2)
    else (readBare depth cs).map fun p => (c :: p.1, p.2)

/-- A destination, and what follows it. -/
def readDestination : List Char → Option (List Char × List Char)
  | '<' :: cs => readUntil '>' (fun c => c = '<' || c = '\n') cs
  | cs => readBare 0 cs

/-- A title in quotes or parentheses, and what follows it. -/
def readTitle : List Char → Option (List Char × List Char)
  | '"' :: cs => readUntil '"' (fun _ => false) cs
  | '\'' :: cs => readUntil '\'' (fun _ => false) cs
  | '(' :: cs => readUntil ')' (· = '(') cs
  | _ => none

/-- The target in parentheses behind the text of a link, after the opening one,
    and what follows the closing one. -/
def readTarget (cs : List Char) : Option (Target × List Char) := do
  let (destination, rest) ← readDestination (cs.dropWhile isSpaceOrEnd)
  let after := rest.dropWhile isSpaceOrEnd
  match after with
  | ')' :: rest => some ({ destination := plain destination }, rest)
  | _ =>
    if after.length = rest.length then none
    else
      let (title, rest) ← readTitle after
      match rest.dropWhile isSpaceOrEnd with
      | ')' :: rest => some ({ destination := plain destination, title := plain title }, rest)
      | _ => none

/-! ## Definitions -/

/-- A label with the target it stands for. -/
structure Definition where
  key : List Char
  target : Target

/-- What follows the end of the line, if only blanks come before it. -/
def afterLine (cs : List Char) : Option (List Char) :=
  match cs.dropWhile isSpace with
  | [] => some []
  | '\n' :: rest => some rest
  | _ => none

/-- A definition at the start of a text, and what follows its last line. -/
def readDefinition : List Char → Option (Definition × List Char)
  | '[' :: cs =>
    match readLabel cs with
    | some (label, ':' :: rest) =>
      let start := rest.dropWhile isSpaceOrEnd
      match readDestination start with
      | some (destination, rest) =>
        if rest.length = start.length then none
        else
          let define := fun title =>
            ({ key := labelKey label, target := { destination := plain destination, title } } :
              Definition)
          let after := rest.dropWhile isSpaceOrEnd
          let titled :=
            if after.length = rest.length then none
            else do
              let (title, rest) ← readTitle after
              let rest ← afterLine rest
              some (define (plain title), rest)
          titled <|> (afterLine rest).map fun rest => (define [], rest)
      | none => none
    | _ => none
  | _ => none

/-- The definitions a text starts with, and what follows them; `fuel` bounds
    their number. -/
def readDefinitionsFrom : Nat → List Char → List Definition × List Char
  | 0, cs => ([], cs)
  | fuel + 1, cs =>
    match readDefinition cs with
    | some (d, rest) =>
      let (ds, rest) := readDefinitionsFrom fuel rest
      (d :: ds, rest)
    | none => ([], cs)

/-- The definitions a text starts with, and what follows them. -/
def readDefinitions (cs : List Char) : List Definition × List Char :=
  readDefinitionsFrom cs.length cs

/-- The target of a label: the first definition of it counts. -/
def target? (definitions : List Definition) (label : List Char) : Option Target :=
  let key := labelKey label
  (definitions.find? (·.key = key)).map (·.target)

end Hyperfiction.Markdown
