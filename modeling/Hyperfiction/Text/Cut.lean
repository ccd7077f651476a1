/-! # Cutting a text at a separator

    Finding the first place where a one- or two-character separator stands, and
    giving back what is before and after it. A cut that succeeds loses nothing:
    before, separator and after make up the text again.
-/

namespace Hyperfiction.Text

/-- The text before and after the first occurrence of `a`. -/
def cutAt (a : Char) : List Char → Option (List Char × List Char)
  | [] => none
  | c :: cs => if c = a then some ([], cs) else (cutAt a cs).map fun p => (c :: p.1, p.2)

/-- The text before and after the first occurrence of `a` followed by `b`. -/
def cutAtPair (a b : Char) : List Char → Option (List Char × List Char)
  | c :: d :: cs =>
    if c = a ∧ d = b then some ([], cs)
    else (cutAtPair a b (d :: cs)).map fun p => (c :: p.1, p.2)
  | _ => none

theorem eq_of_cutAtPair {a b : Char} {cs l r : List Char} (h : cutAtPair a b cs = some (l, r)) :
    cs = l ++ a :: b :: r := by
  fun_induction cutAtPair a b cs generalizing l r with
  | case1 c d cs hcd =>
    obtain ⟨rfl, rfl⟩ := hcd
    simp only [Option.some.injEq, Prod.mk.injEq] at h
    obtain ⟨rfl, rfl⟩ := h
    rfl
  | case2 c d cs hcd ih =>
    obtain ⟨⟨l', r'⟩, hp, he⟩ := Option.map_eq_some_iff.1 h
    simp only [Prod.mk.injEq] at he
    obtain ⟨rfl, rfl⟩ := he
    rw [ih hp]
    rfl
  | case3 => simp at h

/-- What follows a cut is shorter than the text. -/
theorem length_cutAtPair {a b : Char} {cs l r : List Char}
    (h : cutAtPair a b cs = some (l, r)) : r.length + 2 ≤ cs.length := by
  rw [eq_of_cutAtPair h]
  simp

theorem eq_of_cutAt {a : Char} {cs l r : List Char} (h : cutAt a cs = some (l, r)) :
    cs = l ++ a :: r := by
  fun_induction cutAt a cs generalizing l r with
  | case1 => simp at h
  | case2 cs =>
    simp only [Option.some.injEq, Prod.mk.injEq] at h
    obtain ⟨rfl, rfl⟩ := h
    rfl
  | case3 c cs hc ih =>
    obtain ⟨⟨l', r'⟩, hp, he⟩ := Option.map_eq_some_iff.1 h
    simp only [Prod.mk.injEq] at he
    obtain ⟨rfl, rfl⟩ := he
    rw [ih hp]
    rfl

/-- The lines of a text: it is cut at every line feed, a carriage return just
    before the line feed goes with it, and an empty last line does not count. -/
def linesFrom (line : List Char) : List Char → List (List Char)
  | [] => if line.isEmpty then [] else [line.reverse]
  | '\n' :: cs =>
    (match line with
      | '\r' :: rest => rest.reverse
      | _ => line.reverse) :: linesFrom [] cs
  | c :: cs => linesFrom (c :: line) cs

/-- The lines of a text, without their line ends. -/
def lines (cs : List Char) : List (List Char) :=
  linesFrom [] cs

end Hyperfiction.Text
