import Hyperfiction.Text.CaseTable

/-! # Letter case

    Upper and lower case of characters and texts by the full mappings of
    Unicode. A letter may become several; a sigma that ends a word has a lower
    case of its own.
-/

namespace Hyperfiction.Text

/-- Where a code point leads in a table of runs. -/
def runTarget? (n : Nat) : List CaseRun → Option Nat
  | [] => none
  | (first, last, step, shift) :: runs =>
    if first ≤ n ∧ n ≤ last ∧ (n - first) % step = 0 then some (n + shift).toNat
    else runTarget? n runs

/-- The lower case of a character by itself. -/
def lowerChar (c : Char) : List Char :=
  if c.toNat < 128 then [c.toLower]
  else match lowerExpansions.lookup c.toNat with
    | some ns => ns.map Char.ofNat
    | none =>
      match runTarget? c.toNat lowerRuns with
      | some n => [Char.ofNat n]
      | none => [c]

/-- The upper case of a character. -/
def upperChar (c : Char) : List Char :=
  if c.toNat < 128 then [c.toUpper]
  else match upperExpansions.lookup c.toNat with
    | some ns => ns.map Char.ofNat
    | none =>
      match runTarget? c.toNat upperRuns with
      | some n => [Char.ofNat n]
      | none => [c]

/-- Whether a character is in one of some ranges. -/
def inRanges (ranges : List (Nat × Nat)) (c : Char) : Bool :=
  ranges.any fun r => r.1 ≤ c.toNat && c.toNat ≤ r.2

/-- Whether the first character that is not looked past is a cased letter. -/
def meetsLetter (cs : List Char) : Bool :=
  match cs.dropWhile (inRanges passedRanges) with
  | c :: _ => inRanges casedRanges c
  | [] => false

/-- The capital sigma, and the two small ones: within and at the end of a word. -/
def capitalSigma : Char := Char.ofNat 0x3A3
def smallSigma : Char := Char.ofNat 0x3C3
def finalSigma : Char := Char.ofNat 0x3C2

/-- The lower case of a text; `before` holds what stands before it, in reverse. -/
def lowerFrom (before : List Char) : List Char → List Char
  | [] => []
  | c :: cs =>
    if c = capitalSigma then
      (if meetsLetter before && !meetsLetter cs then finalSigma else smallSigma) ::
        lowerFrom (c :: before) cs
    else lowerChar c ++ lowerFrom (c :: before) cs

/-- The lower case of a text. -/
def lower (cs : List Char) : List Char :=
  lowerFrom [] cs

/-- The upper case of a text. -/
def upper (cs : List Char) : List Char :=
  cs.flatMap upperChar

end Hyperfiction.Text
