import Hyperfiction.Script.Datum

/-! # Places in texts and arrays

    How the arguments of built-in functions name places and parts: by an index,
    which counts from the end if it is negative, by an index and a count, or by a
    range. And where a text stands in another one, and the parts it splits that
    into.
-/

namespace Hyperfiction.Script.Builtin

/-! ## Indexes -/

/-- The place an index stands for; negative ones count from the end. -/
def place? (size : Nat) (i : Int) : Option Nat :=
  if 0 ≤ i then (if i < size then some i.toNat else none)
  else if i.natAbs ≤ size then some (size - i.natAbs) else none

/-- The place an index stands for, moved to the ends if it is beyond them. -/
def clampedPlace (size : Nat) (i : Int) : Nat :=
  if 0 ≤ i then min i.toNat size else size - i.natAbs

/-- A place as an index, which is -1 if there is none. -/
def placeDatum (place : Option Nat) : Datum :=
  .int (place.elim (-1) fun n => (n : Int))

/-! ## Parts -/

/-- Where a part begins, and how many items it has of as many as are wanted. -/
structure Span where
  start : Nat
  count : Nat

/-- The part of at most `count` items from an index on. -/
def Span.ofIndex (size : Nat) (start count : Int) : Span :=
  let start := clampedPlace size start
  { start, count := min count.toNat (size - start) }

/-- The start and the count that arguments name: two integers, or a range. A range
    does not count from the end. -/
def partArgs? : List Datum → Option (Int × Int)
  | [.int start, .int count] => some (start, count)
  | [.range first last closed] =>
    let start := max first 0
    some (start, max last start - start + if closed then 1 else 0)
  | _ => none

/-- As `partArgs?`; one integer names all from there on. -/
def tailArgs? (size : Nat) : List Datum → Option (Int × Int)
  | [.int start] => some (start, size)
  | args => partArgs? args

section

variable {α : Type}

/-- The items of a part. -/
def Span.of (s : Span) (xs : List α) : List α :=
  (xs.drop s.start).take s.count

/-- All items but those of a part. -/
def Span.without (s : Span) (xs : List α) : List α :=
  xs.take s.start ++ xs.drop (s.start + s.count)

/-- Part of a list, `count` items from an index on. -/
def part (xs : List α) (start count : Int) : List α :=
  (Span.ofIndex xs.length start count).of xs

end

/-! ## Texts in texts -/

/-- The characters of a text, or of a single one. -/
def chars? : Datum → Option (List Char)
  | .str t => some t.toList
  | .char c => some [c]
  | _ => none

/-- The place of the first occurrence of `part`. -/
def placeOf? (part : List Char) (at_ : Nat) : List Char → Option Nat
  | [] => if part.isEmpty then some at_ else none
  | c :: cs => if part.isPrefixOf (c :: cs) then some at_ else placeOf? part (at_ + 1) cs

/-- The parts of a text between the occurrences of a separator that is not
    empty; `read` is the part being read, in reverse. -/
def splitAt (separator read : List Char) (cs : List Char) : List (List Char) :=
  match cs with
  | [] => [read.reverse]
  | c :: cs =>
    if separator.isPrefixOf (c :: cs) ∧ separator ≠ [] then
      read.reverse :: splitAt separator [] ((c :: cs).drop separator.length)
    else splitAt separator (c :: read) cs
termination_by cs.length
decreasing_by
  · rename_i h
    have := List.length_pos_iff.2 h.2
    simp only [List.length_drop, List.length_cons]
    omega
  · simp

/-- The parts of a text between the occurrences of a separator; an empty one
    stands between any two characters and at either end. -/
def split (separator cs : List Char) : List (List Char) :=
  if separator.isEmpty then [] :: (cs.map fun c => [c]) ++ [[]] else splitAt separator [] cs

/-- At most `count` parts of a text: the last has all that is left. -/
def splitIn (count : Nat) (separator cs : List Char) : List (List Char) :=
  let parts := split separator cs
  if parts.length ≤ count then parts
  else parts.take (count - 1) ++ [separator.intercalate (parts.drop (count - 1))]

/-- The parts that splitting a text from its end gives. -/
def fromEnd (splits : List Char → List Char → List (List Char)) (separator cs : List Char) :
    List (List Char) :=
  (splits separator.reverse cs.reverse).map List.reverse

/-- The text with another one in the place of every occurrence of `part`. -/
def replace (part other cs : List Char) : List Char :=
  other.intercalate (split part cs)

/-- As many characters as wanted, from a text that is repeated. -/
def repeated (cs : List Char) (count : Nat) : List Char :=
  (List.range count).map fun i => cs.getD (i % cs.length) ' '

end Hyperfiction.Script.Builtin
