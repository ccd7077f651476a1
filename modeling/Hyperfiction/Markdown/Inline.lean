import Hyperfiction.Markdown.Tag
import Hyperfiction.Markdown.Target

/-! # Text in markup

    The structure of the text in a block. Reading goes from left to right and
    keeps the brackets that are open; a bracket that closes a link settles the
    text in it. Runs of emphasis marks stay as they are until the text around
    them is settled, and are then matched with a stack of runs that may open.
-/

namespace Hyperfiction.Markdown

/-- A part of a text. -/
inductive Inline where
  | text (cs : List Char)
  | code (cs : List Char)
  /-- A tag that is passed on as it is. -/
  | tag (cs : List Char)
  | softBreak
  | hardBreak
  | emphasis (inside : List Inline)
  | strong (inside : List Inline)
  | struck (inside : List Inline)
  | link (target : Target) (inside : List Inline)
  | image (target : Target) (inside : List Inline)

/-! ## Emphasis -/

/-- A run of one emphasis mark. -/
structure Run where
  mark : Char
  /-- The marks that are not matched yet. -/
  count : Nat
  /-- The marks there were. -/
  length : Nat
  opens : Bool
  closes : Bool

/-- What is left of a run as a text. -/
def Run.text (r : Run) : Inline :=
  .text (List.replicate r.count r.mark)

/-- Whether a run that may close emphasis matches one that may open it. If either
    may do both, their lengths may not add up to a multiple of three, unless both
    are multiples of three. -/
def Run.closesRun (closer opener : Run) : Bool :=
  opener.mark = closer.mark && (closer.mark ≠ '~' || opener.length = closer.length) &&
    (!(opener.opens && opener.closes) && !(closer.opens && closer.closes) ||
      (opener.length + closer.length) % 3 ≠ 0 || closer.length % 3 = 0)

/-- A text with a number of emphasis marks around it: pairs of marks stand inside
    a single one. -/
def emphasize (mark : Char) : Nat → List Inline → List Inline
  | 0, inside => inside
  | 1, inside => if mark = '~' then [.struck inside] else [.emphasis inside]
  | n + 2, inside =>
    if mark = '~' then [.struck inside] else emphasize mark n [.strong inside]

/-- A run that may open emphasis, and what follows it, newest first. -/
structure Opener where
  run : Run
  inside : List Inline

/-- A text being settled: what comes before the runs that may open emphasis,
    newest first, and those runs, innermost first. -/
structure Settling where
  base : List Inline := []
  openers : List Opener := []

namespace Settling

/-- Adds parts, given newest first. -/
def push (parts : List Inline) : Settling → Settling
  | ⟨base, []⟩ => ⟨parts ++ base, []⟩
  | ⟨base, o :: os⟩ => ⟨base, { o with inside := parts ++ o.inside } :: os⟩

/-- What a run that opens nothing comes to, newest part first. -/
def openerParts (o : Opener) : List Inline :=
  o.inside ++ [o.run.text]

/-- Takes a run that closes emphasis, as often as it can; `fuel` bounds that. -/
def close (r : Run) : Nat → Settling → Settling
  | 0, s => s.push [r.text]
  | fuel + 1, s =>
    let rest := s.openers.dropWhile fun o => !r.closesRun o.run
    match rest with
    | opener :: below =>
      let unmatched := (s.openers.take (s.openers.length - rest.length)).flatMap openerParts
      let inside := (unmatched ++ opener.inside).reverse
      let taken := min r.count opener.run.count
      let settled := (emphasize r.mark taken inside).reverse
      let left := opener.run.count - taken
      let s : Settling :=
        if left = 0 then Settling.push settled ⟨s.base, below⟩
        else ⟨s.base, ⟨{ opener.run with count := left }, settled⟩ :: below⟩
      if r.count = taken then s else close { r with count := r.count - taken } fuel s
    | [] => if r.opens then ⟨s.base, ⟨r, []⟩ :: s.openers⟩ else s.push [r.text]

/-- Takes a run of marks. -/
def take (r : Run) (s : Settling) : Settling :=
  if r.closes then s.close r r.count
  else if r.opens then ⟨s.base, ⟨r, []⟩ :: s.openers⟩
  else s.push [r.text]

/-- The parts, in order, with the runs that matched nothing as text. -/
def parts (s : Settling) : List Inline :=
  (s.openers.flatMap openerParts ++ s.base).reverse

end Settling

/-- A part of a text, or a run of marks that is not matched yet. -/
inductive Piece where
  | part (i : Inline)
  | run (r : Run)

/-- Matches the runs of marks. -/
def settle (pieces : List Piece) : List Inline :=
  (pieces.foldl (fun (s : Settling) p =>
    match p with
    | .part i => s.push [i]
    | .run r => s.take r) {}).parts

/-- A run of marks between two characters. Runs of two tildes may stand within a
    word, as runs of asterisks may. -/
def Run.between (mark : Char) (length : Nat) (before after : Char) : Run :=
  let blankBefore := Text.isBlank before
  let blankAfter := Text.isBlank after
  let signBefore := Text.isPunctuation before
  let signAfter := Text.isPunctuation after
  let inWord := mark = '*' || (mark = '~' && 2 ≤ length)
  { mark, count := length, length
    opens := !blankAfter && ((inWord && (!signAfter || mark = '~')) || blankBefore || signBefore)
    closes := !blankBefore && ((inWord && !signBefore) || blankAfter || signAfter) }

/-! ## Code and addresses -/

/-- The code up to a run of exactly `n` ticks, and what follows that; `ticks` is
    the length of the run being read, and `fuel` bounds the length of the text. -/
def readCode (n : Nat) : Nat → List Char → Option (List Char × List Char)
  | 0, _ => none
  | fuel + 1, cs =>
    let code := cs.takeWhile (·.toNat ≠ 96)
    let rest := cs.drop code.length
    let ticks := rest.takeWhile (·.toNat = 96)
    if ticks.isEmpty then none
    else if ticks.length = n then some (code, rest.drop n)
    else (readCode n fuel (rest.drop ticks.length)).map fun p => (code ++ ticks ++ p.1, p.2)

/-- The text of a code span: line ends become blanks, and a blank at both ends goes
    away unless there is nothing else. -/
def codeText (cs : List Char) : List Char :=
  let cs := cs.map fun c => if c = '\n' then ' ' else c
  if cs.head? = some ' ' ∧ cs.getLast? = some ' ' ∧ !cs.all (· = ' ') then
    (cs.drop 1).dropLast
  else cs

/-- An address in angle brackets, after the opening one, and what follows the
    closing one. -/
def readAddress (cs : List Char) : Option (List Char × List Char) :=
  let isPart := fun (c : Char) => c.isAlphanum || c = '+' || c = '.' || c = '-'
  let scheme := cs.takeWhile isPart
  let rest := cs.drop scheme.length
  if scheme.head?.any Char.isAlpha ∧ 2 ≤ scheme.length ∧ scheme.length ≤ 32 ∧
      rest.head? = some ':' then
    let address := rest.takeWhile fun c => 32 < c.toNat && c.toNat ≠ 127 && c ≠ '<' && c ≠ '>'
    match rest.drop address.length with
    | '>' :: after => some (scheme ++ address, after)
    | _ => none
  else none

/-- Whether a text is a part of the name of a mail host. -/
def isHostLabel (label : List Char) : Bool :=
  !label.isEmpty && label.length ≤ 63 && label.all (fun c => c.isAlphanum || c = '-') &&
    label.head? ≠ some '-' && label.getLast? ≠ some '-'

/-- A mail address in angle brackets, after the opening one, and what follows the
    closing one. -/
def readMailAddress (cs : List Char) : Option (List Char × List Char) :=
  let isLocal := fun (c : Char) => c.isAlphanum || ".!#$%&'*+/=?^_\x7b|\x7d~-".toList.contains c ||
    c.toNat = 96
  let name := cs.takeWhile isLocal
  match cs.drop name.length with
  | '@' :: rest =>
    let host := rest.takeWhile fun c => c.isAlphanum || c = '.' || c = '-'
    match rest.drop host.length with
    | '>' :: after =>
      if !name.isEmpty ∧ (host.splitOn '.').all isHostLabel then some (name ++ '@' :: host, after)
      else none
    | _ => none
  | _ => none

/-! ## Reading -/

/-- A bracket that may open a link or an image. -/
structure Bracket where
  isImage : Bool
  /-- Whether a link may still start here; links do not stand in links. -/
  isActive : Bool
  /-- The text after the bracket. -/
  after : List Char
  /-- What comes before it, newest first. -/
  before : List Piece

/-- A text being read: what comes after the innermost open bracket, newest first,
    and the open brackets, innermost first. -/
structure Reading where
  pieces : List Piece := []
  brackets : List Bracket := []

namespace Reading

/-- Adds a part. -/
def push (i : Inline) (r : Reading) : Reading :=
  { r with pieces := .part i :: r.pieces }

/-- What comes after a bracket, and the bracket itself as text. -/
def withoutBracket (pieces : List Piece) (b : Bracket) : List Piece :=
  pieces ++ .part (.text (if b.isImage then ['!', '['] else ['['])) :: b.before

/-- The parts of the whole text. -/
def parts (r : Reading) : List Inline :=
  settle (r.brackets.foldl withoutBracket r.pieces).reverse

/-- The target of a link whose text is `label`, from what follows its closing
    bracket, and what follows the target. -/
def linkTarget? (definitions : List Definition) (label rest : List Char) :
    Option (Target × List Char) :=
  let inParentheses :=
    match rest with
    | '(' :: cs => readTarget cs
    | _ => none
  let byLabel :=
    match rest with
    | '[' :: cs =>
      match cs, readLabel cs with
      | _, some (other, after) => (target? definitions other).map fun t => (t, after)
      | ']' :: after, none => (own).map fun t => (t, after)
      | _, none => (own).map fun t => (t, rest)
    | _ => (own).map fun t => (t, rest)
  inParentheses <|> byLabel
where
  /-- The target of the text itself, if it is a label. -/
  own : Option Target :=
    match readLabel (label ++ [']']) with
    | some (_, []) => target? definitions label
    | _ => none

/-- Takes a closing bracket; `rest` is what follows it. -/
def close (definitions : List Definition) (rest : List Char) (r : Reading) :
    Reading × List Char :=
  match r.brackets with
  | [] => (r.push (.text [']']), rest)
  | b :: below =>
    let label := b.after.take (b.after.length - rest.length - 1)
    match if b.isActive then linkTarget? definitions label rest else none with
    | some (target, after) =>
      let inside := settle r.pieces.reverse
      let (part, below) :=
        if b.isImage then (Inline.image target inside, below)
        else (Inline.link target inside,
          below.map fun o => if o.isImage then o else { o with isActive := false })
      ({ pieces := .part part :: b.before, brackets := below }, after)
    | none =>
      ({ pieces := .part (.text [']']) :: withoutBracket r.pieces b, brackets := below }, rest)

end Reading

/-- Whether a character may start something other than text. -/
def isSpecial (c : Char) : Bool :=
  c = '\n' || c = '\\' || c.toNat = 96 || c = '*' || c = '_' || c = '~' || c = '[' || c = ']' ||
    c = '!' || c = '<' || c = '&' || c.toNat = 0

/-- Reads a text after the character `before`; `fuel` bounds its length. -/
def readInlines (definitions : List Definition) :
    Nat → Char → List Char → Reading → Reading
  | 0, _, _, r => r
  | _ + 1, _, [], r => r
  | fuel + 1, before, c :: cs, r =>
    let next := readInlines definitions fuel
    if !isSpecial c then
      let run := (c :: cs).takeWhile (!isSpecial ·)
      let rest := cs.drop (run.length - 1)
      match rest with
      | '\n' :: after =>
        let kept := trimSpaceEnd run
        let broken := if kept.length + 2 ≤ run.length then Inline.hardBreak else .softBreak
        next '\n' after ((r.push (.text kept)).push broken)
      | _ => next (run.getLast?.getD c) rest (r.push (.text run))
    else if c = '\n' then next '\n' cs (r.push .softBreak)
    else if c.toNat = 0 then next c cs (r.push (.text [Char.ofNat 0xFFFD]))
    else if c = '\\' then
      match cs with
      | '\n' :: after => next '\n' after (r.push .hardBreak)
      | d :: after =>
        if Text.isAsciiPunctuation d then next d after (r.push (.text [d]))
        else next c cs (r.push (.text [c]))
      | [] => r.push (.text [c])
    else if c.toNat = 96 then
      let ticks := (c :: cs).takeWhile (·.toNat = 96)
      let rest := cs.drop (ticks.length - 1)
      match readCode ticks.length rest.length rest with
      | some (code, after) => next c after (r.push (.code (codeText code)))
      | none => next c rest (r.push (.text ticks))
    else if c = '&' then
      match readReference cs with
      | some (chars, after) => next ';' after (r.push (.text chars))
      | none => next c cs (r.push (.text [c]))
    else if c = '<' then
      match readAddress cs, readMailAddress cs, Tag.afterAny cs with
      | some (address, after), _, _ =>
        next '>' after (r.push (.link { destination := address } [.text address]))
      | none, some (address, after), _ =>
        next '>' after
          (r.push (.link { destination := "mailto:".toList ++ address } [.text address]))
      | none, none, some after =>
        next '>' after (r.push (.tag (c :: cs.take (cs.length - after.length))))
      | none, none, none => next c cs (r.push (.text [c]))
    else if c = '!' then
      match cs with
      | '[' :: after =>
        next '[' after
          { pieces := []
            brackets := { isImage := true, isActive := true, after, before := r.pieces } ::
              r.brackets }
      | _ => next c cs (r.push (.text [c]))
    else if c = '[' then
      next c cs
        { pieces := []
          brackets := { isImage := false, isActive := true, after := cs, before := r.pieces } ::
            r.brackets }
    else if c = ']' then
      let (r, after) := r.close definitions cs
      next (if after.length < cs.length then ')' else c) after r
    else
      let run := (c :: cs).takeWhile (· = c)
      let rest := cs.drop (run.length - 1)
      if c = '~' ∧ 2 < run.length then next c rest (r.push (.text run))
      else
        let piece := Piece.run (.between c run.length before (rest.head?.getD '\n'))
        next c rest { r with pieces := piece :: r.pieces }

/-- The parts of a text. -/
def inlines (definitions : List Definition) (cs : List Char) : List Inline :=
  (readInlines definitions cs.length '\n' cs {}).parts

end Hyperfiction.Markdown
