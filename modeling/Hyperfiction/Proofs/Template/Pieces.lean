import Hyperfiction.Proofs.Template.Stream

/-! # The pieces of a text

    A text is cut turn by turn. One turn takes what stands before the first `<%` and the tag
    up to the first `%>` after it, and there is a next turn as long as a complete tag is
    left. Every turn takes four characters at least, so the turns come to an end, and what
    no turn takes is the last piece.

    Whatever the turns are, nothing of the text is lost: what has been cut off and what is
    left make up the text. And what has been cut off is in order: a text that is not empty
    and opens no tag, or a tag that does not hold its own end.
-/

namespace Hyperfiction.Template

/-! ## Section 1: Turns -/

/-- How far a text has been cut: the pieces that are cut off, and what is left. -/
structure Cutting where
  done : List Piece
  rest : List Char

/-- One turn: the text before the first complete tag is cut off, and the tag. -/
inductive Turn : Cutting → Cutting → Prop where
  | tag {done : List Piece} {before body rest : List Char} :
      ¬ ['<', '%'] <:+: before → ¬ ['%', '>'] <:+: body →
      Turn ⟨done, before ++ Piece.tag body ++ rest⟩
        ⟨done ++ (Piece.texts before ++ [Piece.ofBody body]), rest⟩

/-- So many turns, one after the other. -/
inductive Turns : Nat → Cutting → Cutting → Prop where
  | none {c : Cutting} : Turns 0 c c
  | more {n : Nat} {c₁ c₂ c₃ : Cutting} : Turn c₁ c₂ → Turns n c₂ c₃ → Turns (n + 1) c₁ c₃

/-- There is a next turn exactly as long as a complete tag is left. -/
theorem exists_turn_iff {c : Cutting} : (∃ c', Turn c c') ↔ HasTag c.rest := by
  constructor
  · rintro ⟨c', hturn⟩
    cases hturn with
    | @tag done before body rest _ _ => exact ⟨before, body, rest, rfl⟩
  · intro h
    obtain ⟨done, cs⟩ := c
    obtain ⟨before, body, rest, hcs, hb, hc⟩ := h.first
    obtain rfl : cs = before ++ Piece.tag body ++ rest := hcs
    exact ⟨_, .tag hb hc⟩

/-- A turn takes the four delimiters at least. -/
theorem Turn.length_rest {c c' : Cutting} (h : Turn c c') :
    c'.rest.length + 4 ≤ c.rest.length := by
  cases h with
  | tag _ _ =>
    simp only [Piece.tag, List.length_append, List.length_cons, List.length_nil]
    omega

theorem Turns.length_rest {n : Nat} {c c' : Cutting} (h : Turns n c c') :
    c'.rest.length + 4 * n ≤ c.rest.length := by
  induction h with
  | none => omega
  | more hturn _ ih =>
    have hstep := hturn.length_rest
    omega

/-- The turns end with no complete tag left, and what is left then is the last piece. -/
theorem turns_split (done : List Piece) (cs : List Char) :
    ∃ n c, Turns n ⟨done, cs⟩ c ∧ ¬ HasTag c.rest ∧
      done ++ Piece.split cs = c.done ++ Piece.texts c.rest := by
  obtain ⟨ps, hcuts⟩ := exists_cuts cs
  induction hcuts generalizing done with
  | @plain cs h => exact ⟨0, _, .none, h, by rw [Piece.split_plain h]⟩
  | @tag before body rest _ hb hc _ ih =>
    obtain ⟨n, c, hturns, hplain, hsplit⟩ :=
      ih (done ++ (Piece.texts before ++ [Piece.ofBody body]))
    refine ⟨n + 1, c, .more (.tag hb hc) hturns, hplain, ?_⟩
    rw [Piece.split_tag hb hc, ← hsplit]
    simp only [List.append_assoc, List.cons_append, List.nil_append]

/-! ## Section 2: What every turn keeps -/

/-- A piece that has been cut off is in order: text is not empty and opens no tag, a tag does
    not hold its own end, and what begins like an interpolation is one. -/
def Piece.InOrder : Piece → Prop
  | .text cs => cs ≠ [] ∧ ¬ ['<', '%'] <:+: cs
  | .interpolation cs _ => ¬ ['%', '>'] <:+: cs
  | .code cs => ¬ ['%', '>'] <:+: cs ∧ cs.head? ≠ some '=' ∧ cs.head? ≠ some '-'

theorem Piece.eq_of_mem_texts {cs : List Char} {p : Piece} (h : p ∈ texts cs) :
    p = .text cs ∧ cs ≠ [] := by
  cases cs with
  | nil => cases h
  | cons c cs => exact ⟨List.mem_singleton.1 h, List.cons_ne_nil c cs⟩

theorem Piece.inOrder_of_mem_texts {before : List Char} (h : ¬ ['<', '%'] <:+: before)
    {p : Piece} (hp : p ∈ texts before) : p.InOrder := by
  obtain ⟨rfl, hne⟩ := eq_of_mem_texts hp
  exact ⟨hne, h⟩

theorem Piece.inOrder_ofBody {body : List Char} (h : ¬ ['%', '>'] <:+: body) :
    (ofBody body).InOrder := by
  unfold ofBody
  split
  · exact fun hcode => h (hcode.trans (List.suffix_cons _ _).isInfix)
  · exact fun hcode => h (hcode.trans (List.suffix_cons _ _).isInfix)
  · rename_i hequals hminus
    refine ⟨h, ?_, ?_⟩
    · intro hhead
      obtain ⟨cs, rfl⟩ := List.head?_eq_some_iff.1 hhead
      exact hequals cs rfl
    · intro hhead
      obtain ⟨cs, rfl⟩ := List.head?_eq_some_iff.1 hhead
      exact hminus cs rfl

/-- What has been cut off and what is left make up the text, and all that has been cut off is
    in order. -/
structure Cutting.Keeps (cs : List Char) (c : Cutting) : Prop where
  whole : c.done.flatMap Piece.source ++ c.rest = cs
  inOrder : ∀ p ∈ c.done, p.InOrder

theorem Cutting.keeps_start (cs : List Char) : Cutting.Keeps cs ⟨[], cs⟩ where
  whole := rfl
  inOrder := by simp

theorem Turn.keeps {cs : List Char} {c c' : Cutting} (h : Turn c c') (hc : c.Keeps cs) :
    c'.Keeps cs := by
  cases h with
  | @tag done before body rest hb hbody =>
    refine ⟨?_, ?_⟩
    · rw [← hc.whole]
      simp only [List.flatMap_append, List.flatMap_cons, List.flatMap_nil, List.append_assoc,
        Piece.flatMap_source_texts, Piece.source_ofBody, List.append_nil]
    · intro p hp
      rcases List.mem_append.1 hp with hp | hp
      · exact hc.inOrder p hp
      rcases List.mem_append.1 hp with hp | hp
      · exact Piece.inOrder_of_mem_texts hb hp
      · obtain rfl : p = Piece.ofBody body := List.mem_singleton.1 hp
        exact Piece.inOrder_ofBody hbody

theorem Turns.keeps {cs : List Char} {n : Nat} {c c' : Cutting} (h : Turns n c c')
    (hc : c.Keeps cs) : c'.Keeps cs := by
  induction h with
  | none => exact hc
  | more hturn _ ih => exact ih (hturn.keeps hc)

/-! ## Section 3: The pieces -/

/-- The pieces of a text are those that the turns have cut off, which are in order, and what
    is left when there is no next turn. -/
theorem exists_turns_split (cs : List Char) :
    ∃ n c, Turns n ⟨[], cs⟩ c ∧ ¬ HasTag c.rest ∧
      Piece.split cs = c.done ++ Piece.texts c.rest ∧ ∀ p ∈ c.done, p.InOrder := by
  obtain ⟨n, c, hturns, hplain, hsplit⟩ := turns_split [] cs
  exact ⟨n, c, hturns, hplain, hsplit, (hturns.keeps (Cutting.keeps_start cs)).inOrder⟩

theorem mem_split_cases {cs : List Char} {p : Piece} (h : p ∈ Piece.split cs) :
    p.InOrder ∨ ∃ rest, p = .text rest ∧ rest ≠ [] := by
  obtain ⟨n, c, -, -, hsplit, horder⟩ := exists_turns_split cs
  rw [hsplit, List.mem_append] at h
  rcases h with h | h
  · exact .inl (horder p h)
  · exact .inr ⟨c.rest, Piece.eq_of_mem_texts h⟩

/-- Where all pieces are in order, only what is left after them can open a tag. -/
theorem eq_rest_of_opens {done before after : List Piece} {rest text : List Char}
    (hdone : ∀ p ∈ done, p.InOrder) (hopens : ['<', '%'] <:+: text)
    (h : done ++ Piece.texts rest = before ++ .text text :: after) :
    after = [] ∧ text = rest := by
  have hlast : ∀ between, Piece.texts rest = between ++ .text text :: after →
      after = [] ∧ text = rest := by
    intro between hrest
    cases rest with
    | nil => simp [Piece.texts] at hrest
    | cons c cs =>
      have hone : [Piece.text (c :: cs)] = between ++ .text text :: after := hrest
      rcases List.singleton_eq_append_iff.1 hone with ⟨-, hpiece⟩ | ⟨-, hnone⟩
      · obtain ⟨htext, hafter⟩ := List.cons.inj hpiece
        exact ⟨hafter, Piece.text.inj htext⟩
      · cases hnone
  rcases List.append_eq_append_iff.1 h with ⟨between, -, hrest⟩ | ⟨between, hbefore, hrest⟩
  · exact hlast between hrest
  · cases between with
    | nil => exact hlast [] hrest.symm
    | cons p between =>
      -- the piece was cut off, so that it opens no tag
      obtain ⟨rfl, -⟩ := List.cons.inj hrest
      have hmem : Piece.text text ∈ done := by
        rw [hbefore]
        exact List.mem_append_right before List.mem_cons_self
      exact absurd hopens (hdone _ hmem).2

/-- A text among the pieces that opens a tag comes last, and no tag is complete in it. -/
theorem last_of_opens {cs text : List Char} {before after : List Piece}
    (h : Piece.split cs = before ++ .text text :: after) (hopens : ['<', '%'] <:+: text) :
    after = [] ∧ ¬ HasTag text := by
  obtain ⟨n, c, -, hplain, hsplit, horder⟩ := exists_turns_split cs
  obtain ⟨hafter, rfl⟩ := eq_rest_of_opens horder hopens (hsplit.symm.trans h)
  exact ⟨hafter, hplain⟩

/-- Where no tag is complete, none that is opened is closed. -/
theorem not_closed_of_not_hasTag {cs l r : List Char} (h : ¬ HasTag cs)
    (hcs : cs = l ++ '<' :: '%' :: r) : ¬ ['%', '>'] <:+: r := by
  rintro ⟨body, rest, hr⟩
  refine h ⟨l, body, rest, ?_⟩
  rw [hcs, ← hr]
  simp [Piece.tag]

/-- **Cutting a text into pieces loses nothing and stops.** Written back in order, the pieces
    are the text. Four times the turns are never more than its characters; the turns come to
    where there is no next one, and the pieces are those that are cut off then, and what is
    left. No text among the pieces is empty, no tag holds its own end, and code does not
    begin like an interpolation. A text that opens a tag is the last piece, and does not
    close the tag. -/
theorem split_loses_nothing (cs : List Char) :
    (Piece.split cs).flatMap Piece.source = cs ∧
    (∀ n c, Turns n ⟨[], cs⟩ c → 4 * n ≤ cs.length) ∧
    (∃ n c, Turns n ⟨[], cs⟩ c ∧ (∀ c', ¬ Turn c c') ∧
      Piece.split cs = c.done ++ Piece.texts c.rest) ∧
    (∀ text, .text text ∈ Piece.split cs → text ≠ []) ∧
    (∀ code escaped, .interpolation code escaped ∈ Piece.split cs → ¬ ['%', '>'] <:+: code) ∧
    (∀ code, .code code ∈ Piece.split cs →
      ¬ ['%', '>'] <:+: code ∧ code.head? ≠ some '=' ∧ code.head? ≠ some '-') ∧
    (∀ before text after, Piece.split cs = before ++ .text text :: after →
      ['<', '%'] <:+: text →
      after = [] ∧ ∀ l r, text = l ++ '<' :: '%' :: r → ¬ ['%', '>'] <:+: r) := by
  refine ⟨flatMap_source_split cs, ?_, ?_, ?_, ?_, ?_, ?_⟩
  · intro n c hturns
    have hlen := hturns.length_rest
    dsimp only at hlen
    omega
  · obtain ⟨n, c, hturns, hplain, hsplit, -⟩ := exists_turns_split cs
    exact ⟨n, c, hturns, fun c' hturn => hplain (exists_turn_iff.1 ⟨c', hturn⟩), hsplit⟩
  · intro text h
    rcases mem_split_cases h with horder | ⟨rest, hrest, hne⟩
    · exact horder.1
    · rw [Piece.text.inj hrest]
      exact hne
  · intro code escaped h
    rcases mem_split_cases h with horder | ⟨rest, hrest, -⟩
    · exact horder
    · cases hrest
  · intro code h
    rcases mem_split_cases h with horder | ⟨rest, hrest, -⟩
    · exact horder
    · cases hrest
  · intro before text after h hopens
    obtain ⟨hafter, hplain⟩ := last_of_opens h hopens
    exact ⟨hafter, fun l r => not_closed_of_not_hasTag hplain⟩

/-- Delimiters that share characters: the `<%` of `<%>` is not closed by the `%>` in it. -/
example : Piece.split "<<%>%%><%>".toList
    = [.text ['<'], .code ['>', '%'], .text ['<', '%', '>']] := by cbv

end Hyperfiction.Template
