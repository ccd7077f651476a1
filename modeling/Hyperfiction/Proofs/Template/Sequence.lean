import Hyperfiction.Proofs.Template.Calls
import Hyperfiction.Proofs.Template.RoundTrip

/-! # Templates in a row

    Two template texts, one after the other, are a template, and to expand it is to expand
    the first and then the second. They must not run into each other where they meet: the
    first leaves no tag open, and no `<%` stands across the seam.

    The pieces of the first text stay as they are, except that a literal at its end is joined
    with one at the start of the second. So the tokens of the row are those of the first text
    up to its last tag, followed by those of the second text with that literal before them.
-/

namespace Hyperfiction.Template

variable {σ : Type}

/-! ## Section 1: Texts without an open tag -/

/-- No `<%` of the text is left open: it is literals and closed tags in turn. A tag reaches
    from the first `<%` to the first `%>` after it, and what stands in it opens no other. -/
inductive Terminated : List Char → Prop where
  | plain {cs : List Char} : ¬ ['<', '%'] <:+: cs → Terminated cs
  | tag {before body rest : List Char} : ¬ ['<', '%'] <:+: before → ¬ ['%', '>'] <:+: body →
      Terminated rest → Terminated (before ++ Piece.tag body ++ rest)

theorem Terminated.nil : Terminated [] :=
  .plain (by simp)

theorem mem_texts_iff {cs text : List Char} :
    .text text ∈ Piece.texts cs ↔ cs ≠ [] ∧ text = cs := by
  unfold Piece.texts
  cases cs <;> simp

theorem ofBody_ne_text (body text : List Char) : Piece.ofBody body ≠ .text text := by
  unfold Piece.ofBody
  split <;> simp

/-- That is, no piece of plain text holds a `<%`. -/
theorem terminated_iff {cs : List Char} :
    Terminated cs ↔ ∀ text, .text text ∈ Piece.split cs → ¬ ['<', '%'] <:+: text := by
  constructor
  · intro h
    induction h with
    | plain hplain =>
      intro text htext
      rw [Piece.split_plain (not_hasTag_of_not_pair hplain), mem_texts_iff] at htext
      rw [htext.2]
      exact hplain
    | @tag before body rest hb hc _ ih =>
      intro text htext
      rw [Piece.split_tag hb hc, List.mem_append, List.mem_cons] at htext
      rcases htext with hbefore | htag | hrest
      · rw [(mem_texts_iff.1 hbefore).2]
        exact hb
      · exact absurd htag.symm (ofBody_ne_text body text)
      · exact ih text hrest
  · intro h
    generalize hn : cs.length = n
    induction n using Nat.strongRecOn generalizing cs with
    | ind n ih =>
      subst hn
      by_cases htag : HasTag cs
      · obtain ⟨before, body, rest, rfl, hb, hc⟩ := htag.first
        have hshorter : rest.length < (before ++ Piece.tag body ++ rest).length := by
          simp only [Piece.tag, List.length_append, List.length_cons]
          omega
        refine .tag hb hc (ih rest.length hshorter ?_ rfl)
        intro text htext
        apply h text
        rw [Piece.split_tag hb hc]
        exact List.mem_append_right _ (List.mem_cons_of_mem _ htext)
      · by_cases hempty : cs = []
        · rw [hempty]
          exact .nil
        · apply Terminated.plain
          apply h cs
          rw [Piece.split_plain htag]
          exact mem_texts_iff.2 ⟨hempty, rfl⟩

/-- Plain text in which a `<%` is left open. -/
def Piece.isOpen : Piece → Bool
  | .text cs => decide (['<', '%'] <:+: cs)
  | _ => false

theorem all_not_isOpen_iff {cs : List Char} :
    (Piece.split cs).all (! ·.isOpen) = true ↔ Terminated cs := by
  rw [terminated_iff, List.all_eq_true]
  constructor
  · intro h text htext
    simpa [Piece.isOpen] using h _ htext
  · intro h p hp
    cases p with
    | text text => simpa [Piece.isOpen] using h text hp
    | interpolation code escaped => rfl
    | code cs => rfl

instance (cs : List Char) : Decidable (Terminated cs) :=
  decidable_of_iff _ all_not_isOpen_iff

/-- The tokens of a literal, which are none if it is empty. -/
def literalTokens (cs : List Char) : List Token :=
  (Piece.texts cs).map Token.ofPiece

theorem literalTokens_nil : literalTokens [] = [] := rfl

theorem literalTokens_of_ne {cs : List Char} (h : cs ≠ []) :
    literalTokens cs = [.literal (String.ofList cs)] := by
  unfold literalTokens Piece.texts
  rw [if_neg (mt List.isEmpty_iff.1 h)]
  rfl

/-- A literal and the tag after it are read apart from the rest. -/
theorem tokens_literal_tag {before body : List Char} (hb : ¬ ['<', '%'] <:+: before)
    (hc : ¬ ['%', '>'] <:+: body) (rest : List Char) :
    tokens (before ++ Piece.tag body ++ rest)
      = literalTokens before ++ Token.ofPiece (Piece.ofBody body) :: tokens rest := by
  unfold tokens literalTokens
  rw [Piece.split_tag hb hc, List.map_append, List.map_cons]

theorem tokens_plain {cs : List Char} (h : ¬ HasTag cs) : tokens cs = literalTokens cs := by
  unfold tokens literalTokens
  rw [Piece.split_plain h]

/-- A terminated text ends with a literal, which may be empty. What is before it is read the
    same whatever comes after it. -/
theorem Terminated.exists_last {cs : List Char} (h : Terminated cs) :
    ∃ front last, cs = front ++ last ∧ ¬ ['<', '%'] <:+: last ∧
      ∀ more, tokens (front ++ more) = tokens front ++ tokens more := by
  -- along the tags: the last literal is the one of the text behind the first tag
  induction h with
  | @plain cs hplain =>
    refine ⟨[], cs, rfl, hplain, ?_⟩
    intro more
    rw [tokens_nil]
    rfl
  | @tag before body rest hb hc _ ih =>
    obtain ⟨front, last, rfl, hlast, hread⟩ := ih
    refine ⟨before ++ Piece.tag body ++ front, last, by simp, hlast, ?_⟩
    intro more
    have hrow : before ++ Piece.tag body ++ front ++ more
        = before ++ Piece.tag body ++ (front ++ more) := by simp
    rw [hrow, tokens_literal_tag hb hc, hread, tokens_literal_tag hb hc]
    simp

/-! ## Section 2: Tokens of a row -/

/-- The tokens with a literal in front of them, joined with the first one if that is a
    literal too. -/
def joinLiteral (text : String) : List Token → List Token
  | .literal next :: ts => .literal (text ++ next) :: ts
  | ts => .literal text :: ts

theorem joinLiteral_of_ne {text : String} {ts : List Token}
    (h : ∀ next, ts.head? ≠ some (.literal next)) : joinLiteral text ts = .literal text :: ts := by
  unfold joinLiteral
  split
  · rename_i next ts
    exact absurd rfl (h next)
  · rfl

/-- A tag is no literal. -/
theorem ofPiece_ofBody_ne (body : List Char) (text : String) :
    Token.ofPiece (Piece.ofBody body) ≠ .literal text := by
  intro htok
  have hread := reads_iff.2 htok
  have hpiece := ofBody_ne_text body
  generalize Piece.ofBody body = p at hread hpiece
  cases hread with
  | @literal cs => exact hpiece cs rfl
  | @code code _ hspells =>
    generalize Text.trim code = trimmed at hspells
    cases hspells

/-- A literal before a text without a complete tag completes none, unless they share the
    `<%` that opens it. -/
theorem not_hasTag_append {last cs : List Char} (hlast : ¬ ['<', '%'] <:+: last)
    (hseam : ¬ (last.getLast? = some '<' ∧ cs.head? = some '%')) (h : ¬ HasTag cs) :
    ¬ HasTag (last ++ cs) := by
  rintro ⟨before, body, rest, hrow⟩
  rw [List.append_assoc] at hrow
  rcases List.append_eq_append_iff.1 hrow with ⟨between, rfl, hcs⟩ | ⟨between, rfl, htag⟩
  · -- the tag stands in the second text
    apply h
    exact ⟨between, body, rest, by rw [hcs, List.append_assoc]⟩
  · match between, htag with
    | [], htag => exact h ⟨[], body, rest, htag.symm⟩
    | [c], htag =>
      obtain ⟨rfl, hcs⟩ := List.cons.inj htag
      have hstart : '%' :: (body ++ ['%', '>'] ++ rest) = cs := hcs
      apply hseam
      rw [← hstart]
      exact ⟨List.getLast?_concat, rfl⟩
    | c :: d :: between, htag =>
      obtain ⟨rfl, hcs⟩ := List.cons.inj htag
      obtain ⟨rfl, -⟩ := List.cons.inj hcs
      exact hlast ⟨before, between, by simp⟩

/-- A literal before a text, if no `<%` stands across the seam. -/
theorem tokens_append_literal {last cs : List Char} (hne : last ≠ [])
    (hlast : ¬ ['<', '%'] <:+: last)
    (hseam : ¬ (last.getLast? = some '<' ∧ cs.head? = some '%')) :
    tokens (last ++ cs) = joinLiteral (String.ofList last) (tokens cs) := by
  by_cases htag : HasTag cs
  · obtain ⟨before, body, rest, rfl, hb, hc⟩ := htag.first
    have hjoined : ¬ ['<', '%'] <:+: last ++ before := by
      rw [Text.pair_infix_append]
      rintro (h | h | ⟨hend, hstart⟩)
      · exact hlast h
      · exact hb h
      · apply hseam
        refine ⟨hend, ?_⟩
        obtain ⟨before, rfl⟩ := List.head?_eq_some_iff.1 hstart
        rfl
    have hrow : last ++ (before ++ Piece.tag body ++ rest)
        = last ++ before ++ Piece.tag body ++ rest := by simp
    rw [hrow, tokens_literal_tag hjoined hc, tokens_literal_tag hb hc,
      literalTokens_of_ne (List.append_ne_nil_of_left_ne_nil hne before)]
    by_cases hempty : before = []
    · rw [hempty, literalTokens_nil, List.append_nil, List.nil_append, joinLiteral_of_ne]
      · rfl
      · intro next hnext
        exact ofPiece_ofBody_ne body next (Option.some.inj hnext)
    · rw [literalTokens_of_ne hempty, String.ofList_append]
      rfl
  · rw [tokens_plain (not_hasTag_append hlast hseam htag), tokens_plain htag,
      literalTokens_of_ne (List.append_ne_nil_of_left_ne_nil hne cs)]
    by_cases hempty : cs = []
    · rw [hempty, List.append_nil]
      rfl
    · rw [literalTokens_of_ne hempty, String.ofList_append]
      rfl

/-! ## Section 3: Trees of a row -/

/-- Blocks in a row are a block. -/
theorem Derives.append {ts us : List Token} {a b : Template} (ha : Derives ts (.block a))
    (hb : Derives us (.block b)) : Derives (ts ++ us) (.block (a ++ b)) := by
  have hfirst : Nesting.start.run ts = .ok ⟨a, []⟩ := ha.isRead [] []
  -- no block is open after the first part, so the second one goes on in the same list
  have hrun : Nesting.start.run (ts ++ us) = .ok ⟨a ++ b, []⟩ := by
    rw [Nesting.run_append hfirst]
    exact hb.isRead a []
  apply nest_eq_ok_iff.1
  unfold nest
  rw [hrun]
  rfl

/-- A literal that ends a block is its last segment. -/
theorem Derives.of_append_literal {ts : List Token} {text : String} {a : Template}
    (h : Derives (ts ++ [.literal text]) (.block a)) :
    ∃ front, Derives ts (.block front) ∧ a = front ++ [.literal text] := by
  have hrun : Nesting.start.run (ts ++ [.literal text]) = .ok ⟨a, []⟩ := h.isRead [] []
  obtain ⟨n, hfirst, hlast⟩ := Nesting.exists_run_of_run_append hrun
  obtain ⟨current, blocks⟩ := n
  have hadded : (⟨current ++ [.literal text], blocks⟩ : Nesting) = ⟨a, []⟩ :=
    Except.ok.inj hlast
  obtain ⟨rfl, rfl⟩ := Nesting.mk.inj hadded
  refine ⟨current, ?_, rfl⟩
  apply nest_eq_ok_iff.1
  unfold nest
  rw [hfirst]
  rfl

section

variable (ev : Evaluator σ) (scene : Scene)

theorem expandSegments_literal (text : String) (ss : List Segment) :
    expandSegments ev scene (.literal text :: ss) = (do
      let more ← expandSegments ev scene ss
      return text.toList ++ more) := by
  simp [expandSegments, expandSegment]

/-- Segments in a row are expanded one after the other. -/
theorem expandSegments_append (ss ss' : List Segment) :
    expandSegments ev scene (ss ++ ss') = (do
      let text ← expandSegments ev scene ss
      let more ← expandSegments ev scene ss'
      return text ++ more) := by
  induction ss with
  | nil => simp [expandSegments]
  | cons s ss ih =>
    simp only [List.cons_append, expandSegments, ih, bind_assoc, pure_bind, List.append_assoc]

end

/-- A block with a literal in front is a block that shows the literal first. -/
theorem Derives.exists_joinLiteral {ts : List Token} {b : Template} (h : Derives ts (.block b))
    (text : String) :
    ∃ t, Derives (joinLiteral text ts) (.block t) ∧
      ∀ {σ : Type} (ev : Evaluator σ) (scene : Scene), expandSegments ev scene t
        = expandSegments ev scene (.literal text :: b) := by
  by_cases hliteral : ∃ next, ts.head? = some (.literal next)
  · obtain ⟨next, hnext⟩ := hliteral
    obtain ⟨ts, rfl⟩ := List.head?_eq_some_iff.1 hnext
    cases h with
    | @literal _ _ ss h =>
      refine ⟨.literal (text ++ next) :: ss, .literal h, ?_⟩
      intro σ ev scene
      simp [expandSegments_literal]
  · have hne : ∀ next, ts.head? ≠ some (.literal next) := by
      intro next hnext
      exact hliteral ⟨next, hnext⟩
    rw [joinLiteral_of_ne hne]
    exact ⟨.literal text :: b, .literal h, fun _ _ => rfl⟩

/-! ## Section 4: Texts in a row -/

/-- The text is a template by itself, and leaves no tag open. -/
structure IsWhole (text : String) (t : Template) : Prop where
  parsed : parse text = .ok t
  terminated : Terminated text.toList

variable {first second : String} {a b : Template}

/-- Two templates in a row are a template, which is expanded as the one and then the
    other. -/
theorem IsWhole.exists_parse_append (ha : IsWhole first a) (hb : parse second = .ok b)
    (hseam : ¬ (first.toList.getLast? = some '<' ∧ second.toList.head? = some '%')) :
    ∃ t, parse (first ++ second) = .ok t ∧
      ∀ {σ : Type} (ev : Evaluator σ) (scene : Scene), expandSegments ev scene t
        = expandSegments ev scene (a ++ b) := by
  obtain ⟨front, last, hfirst, hlast, hread⟩ := ha.terminated.exists_last
  have hda : Derives (tokens front ++ tokens last) (.block a) := by
    rw [← hread, ← hfirst]
    exact nest_eq_ok_iff.1 ha.parsed
  have hdb : Derives (tokens second.toList) (.block b) := nest_eq_ok_iff.1 hb
  have htokens : tokens (first ++ second).toList
      = tokens front ++ tokens (last ++ second.toList) := by
    rw [String.toList_append, hfirst, List.append_assoc, hread]
  by_cases hempty : last = []
  · -- the first text ends with a tag
    rw [hempty, tokens_nil, List.append_nil] at hda
    rw [hempty, List.nil_append] at htokens
    refine ⟨a ++ b, ?_, fun _ _ => rfl⟩
    apply nest_eq_ok_iff.2
    rw [htokens]
    exact hda.append hdb
  · rw [hfirst, List.getLast?_append_of_ne_nil _ hempty] at hseam
    rw [tokens_plain (not_hasTag_of_not_pair hlast), literalTokens_of_ne hempty] at hda
    obtain ⟨start, hstart, rfl⟩ := hda.of_append_literal
    obtain ⟨t, ht, hexpand⟩ := hdb.exists_joinLiteral (String.ofList last)
    refine ⟨start ++ t, ?_, ?_⟩
    · apply nest_eq_ok_iff.2
      rw [htokens, tokens_append_literal hempty hlast hseam]
      exact hstart.append ht
    · intro σ ev scene
      rw [List.append_assoc, List.singleton_append, expandSegments_append, hexpand,
        ← expandSegments_append]

theorem expandText_of_parse {text : String} {t : Template} (h : parse text = .ok t)
    (ev : Evaluator σ) (scene : Scene) : ev.expandText scene text = (do
      let cs ← expandSegments ev scene t
      return String.ofList cs) := by
  unfold Evaluator.expandText
  rw [h]
  rfl

/-- **Templates in a row are expanded in sequence.** Where the first text leaves no tag open,
    and no `<%` stands across the seam, the row is a template. Every evaluator that expands
    it, in every scene and world, is asked for what the first text asks for and then, if that
    succeeds, for what the second one asks for in the world that the first one leaves. It
    comes to the world and the error that this comes to, or else to the two texts in a
    row. -/
theorem expansion_append (ha : IsWhole first a) (hb : parse second = .ok b)
    (hseam : ¬ (first.toList.getLast? = some '<' ∧ second.toList.head? = some '%')) :
    (∃ t, parse (first ++ second) = .ok t) ∧
    ∀ {σ : Type} (ev : Evaluator σ) (scene : Scene) (w : World σ),
      ev.expansion scene (first ++ second) w =
        (ev.expansion scene first w).andThen fun text w₁ =>
          (ev.expansion scene second w₁).andThen fun more w₂ =>
            { calls := [], result := .ok (text ++ more), world := w₂ } := by
  obtain ⟨t, ht, hexpand⟩ := ha.exists_parse_append hb hseam
  refine ⟨⟨t, ht⟩, ?_⟩
  intro σ ev scene w
  -- every evaluator does so, in particular the one that notes the calls of another
  have hrow : ∀ {τ : Type} (ev : Evaluator τ), ev.expandText scene (first ++ second) = (do
      let text ← ev.expandText scene first
      let more ← ev.expandText scene second
      return text ++ more) := by
    intro τ ev
    rw [expandText_of_parse ht, expandText_of_parse ha.parsed, expandText_of_parse hb, hexpand,
      expandSegments_append]
    simp [String.ofList_append]
  have hnotes := ev.notes_expandText scene
  rw [Evaluator.expansion_eq, hrow, hrow, Expansion.ofNoted_bind (hnotes first)]
  · congr 1
    funext text w₁
    rw [Expansion.ofNoted_bind (hnotes second)]
    · rfl
    · intro more
      exact .pure _
  · intro text
    exact .bind (hnotes second) fun more => .pure _

/-- The first text ends with a literal that a `<%` may follow, and the second one with a `<%`
    that nothing closes. -/
theorem expansion_append_lamp :
    IsWhole "<% if lamp %>Lit<% end %>, <"
      [.conditional [("lamp", [.literal "Lit"])] [], .literal ", <"] ∧
    parse "<% gild() %> <%" = .ok [.statement "gild()", .literal " <%"] ∧
    (∃ t, parse ("<% if lamp %>Lit<% end %>, <" ++ "<% gild() %> <%") = .ok t) ∧
    ∀ {σ : Type} (ev : Evaluator σ) (scene : Scene) (w : World σ),
      ev.expansion scene ("<% if lamp %>Lit<% end %>, <" ++ "<% gild() %> <%") w =
        (ev.expansion scene "<% if lamp %>Lit<% end %>, <" w).andThen fun text w₁ =>
          (ev.expansion scene "<% gild() %> <%" w₁).andThen fun more w₂ =>
            { calls := [], result := .ok (text ++ more), world := w₂ } := by
  have hlamp : IsWhole "<% if lamp %>Lit<% end %>, <"
      [.conditional [("lamp", [.literal "Lit"])] [], .literal ", <"] := by
    have htokens : tokens "<% if lamp %>Lit<% end %>, <".toList
        = [.opening "lamp", .literal "Lit", .closing, .literal ", <"] := by decide +kernel
    exact ⟨by rw [parse, htokens]; rfl, by decide +kernel⟩
  have hgild : parse "<% gild() %> <%" = .ok [.statement "gild()", .literal " <%"] := by
    have htokens : tokens "<% gild() %> <%".toList = [.statement "gild()", .literal " <%"] := by
      decide +kernel
    rw [parse, htokens]
    rfl
  exact ⟨hlamp, hgild, expansion_append hlamp hgild (by decide)⟩

end Hyperfiction.Template
