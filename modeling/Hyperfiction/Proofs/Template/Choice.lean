import Hyperfiction.Proofs.Template.Sequence

/-! # Choices in a template

    A text chosen by two conditions can be written with `elif`, with `else if`, or with a
    second choice inside of `else`. All three are expanded alike. The conditions are asked for
    one after the other, up to the first that holds or fails, and then the text that was
    chosen is expanded, and nothing of the others.

    The texts to choose from may hold blocks of their own. Since they are templates by
    themselves, their tokens are those of a block wherever they stand, and no `elif`, `else`
    or `end` after them is taken for one of theirs.
-/

namespace Hyperfiction.Template

variable {σ : Type}

/-! ## Section 1: Choices as template text -/

/-- A tag with a command and its argument. -/
def commandText (word code : String) : String :=
  "<% " ++ word ++ " " ++ code ++ " %>"

/-- One text if the condition holds, else the other. -/
def choiceText (c yes no : String) : String :=
  commandText "if" c ++ yes ++ "<% else %>" ++ no ++ "<% end %>"

/-- The first text whose condition holds, else the last; `word` goes before the second
    condition. -/
def chainText (word c₁ first c₂ second last : String) : String :=
  commandText "if" c₁ ++ first ++ commandText word c₂ ++ second ++ "<% else %>" ++ last
    ++ "<% end %>"

theorem toList_commandText (word code : String) :
    (commandText word code).toList = spacedTag (' ' :: word.toList) code := by
  simp [commandText, spacedTag]

theorem toList_else : "<% else %>".toList = spacedTag [] "else" := by decide

theorem toList_end : "<% end %>".toList = spacedTag [] "end" := by decide

/-! ## Section 2: Reading a choice -/

theorem tokens_alternative {word c : String} (hw : word ∈ ["elif", "else if"]) (h : IsCode c)
    (rest : List Char) :
    tokens (spacedTag (' ' :: word.toList) c ++ rest) = .alternative c :: tokens rest := by
  rcases List.mem_pair.1 hw with rfl | rfl
  · exact tokens_elif h rest
  · have hs := Spells.elseIf (isCommand_spaced h "else if".toList)
    rw [String.ofList_toList] at hs
    exact tokens_command h (by decide) (by decide) (by decide) hs rest

theorem tokens_else (rest : List Char) :
    tokens (spacedTag [] "else" ++ rest) = .otherwise :: tokens rest :=
  tokens_word .otherwise (by decide) (by decide) rest

theorem tokens_end (rest : List Char) :
    tokens (spacedTag [] "end" ++ rest) = .closing :: tokens rest :=
  tokens_word .closing (by decide) (by decide) rest

/-- What stops a literal does not begin with one. -/
theorem Stops.head?_tokens_ne {cs : List Char} (h : Stops cs) (text : String) :
    (tokens cs).head? ≠ some (.literal text) := by
  rcases h with rfl | ⟨body, rest, hbody, rfl⟩
  · rw [tokens_nil]
    simp
  · rw [tokens_tag hbody]
    intro hhead
    exact ofPiece_ofBody_ne body text (Option.some.inj hhead)

/-- A terminated text is read apart from the tag that follows it. -/
theorem Terminated.tokens_append {cs rest : List Char} (h : Terminated cs) (hs : Stops rest) :
    tokens (cs ++ rest) = tokens cs ++ tokens rest := by
  obtain ⟨front, last, rfl, hlast, hread⟩ := h.exists_last
  rw [List.append_assoc, hread, hread, List.append_assoc]
  congr 1
  by_cases hempty : last = []
  · rw [hempty, tokens_nil]
    rfl
  · -- a tag begins with `<`, so that no `<%` stands across the seam
    have hseam : ¬ (last.getLast? = some '<' ∧ rest.head? = some '%') := by
      rcases hs with rfl | ⟨body, more, -, rfl⟩
      · simp
      · simp [Piece.tag]
    rw [tokens_append_literal hempty hlast hseam, joinLiteral_of_ne hs.head?_tokens_ne,
      tokens_plain (not_hasTag_of_not_pair hlast), literalTokens_of_ne hempty]
    rfl

/-- A closed tag between two terminated texts leaves nothing open. -/
theorem Terminated.append_spacedTag {cs rest : List Char} (h : Terminated cs)
    (hrest : Terminated rest) {mark : List Char} {code : String} (hm : '%' ∉ mark)
    (hcode : ¬ ['%', '>'] <:+: code.toList) : Terminated (cs ++ (spacedTag mark code ++ rest)) := by
  rw [spacedTag_eq, ← List.append_assoc]
  -- along the tags of the first text: the new tag follows its last literal
  induction h with
  | plain hplain => exact .tag hplain (unclosed_spaced hm hcode) hrest
  | @tag before body cs hb hc _ ih =>
    rw [List.append_assoc] at ih
    rw [List.append_assoc, List.append_assoc]
    exact .tag hb hc ih

section

variable {c c₁ c₂ yes no first second last : String} {a b d : Template}

theorem toList_choiceText (c yes no : String) : (choiceText c yes no).toList
    = spacedTag [' ', 'i', 'f'] c ++ (yes.toList ++ (spacedTag [] "else" ++ (no.toList
      ++ spacedTag [] "end"))) := by
  simp only [choiceText, String.toList_append, toList_commandText, toList_else, toList_end,
    List.append_assoc]
  rfl

theorem toList_chainText (word c₁ first c₂ second last : String) :
    (chainText word c₁ first c₂ second last).toList
      = spacedTag [' ', 'i', 'f'] c₁ ++ (first.toList ++ (spacedTag (' ' :: word.toList) c₂
        ++ (second.toList ++ (spacedTag [] "else" ++ (last.toList ++ spacedTag [] "end"))))) := by
  simp only [chainText, String.toList_append, toList_commandText, toList_else, toList_end,
    List.append_assoc]
  rfl

theorem IsWhole.derives (h : IsWhole no b) : Derives (tokens no.toList) (.block b) :=
  nest_eq_ok_iff.1 h.parsed

/-- The tokens of a whole text stay a block of their own in front of a tag. -/
theorem IsWhole.tokens_append (h : IsWhole yes a) {mark : List Char} {code : String}
    (hm : '%' ∉ mark) (hcode : ¬ ['%', '>'] <:+: code.toList) (rest : List Char) :
    tokens (yes.toList ++ (spacedTag mark code ++ rest))
      = tokens yes.toList ++ tokens (spacedTag mark code ++ rest) :=
  h.terminated.tokens_append (stops_spacedTag hm hcode rest)

/-- `else`, a text and the end close a choice with the template of the text. -/
theorem IsWhole.derives_else (h : IsWhole no b) :
    Derives (tokens (spacedTag [] "else" ++ (no.toList ++ spacedTag [] "end")))
      (.rest [] b) := by
  have hclose := @IsWhole.tokens_append _ _ h [] "end" (by decide) (by decide) []
  have hend := tokens_end []
  rw [List.append_nil] at hclose hend
  rw [tokens_else, hclose, hend, tokens_nil]
  exact .otherwise h.derives

/-- A choice between whole texts is a whole text. -/
theorem IsWhole.choice (hc : IsCode c) (ha : IsWhole yes a) (hb : IsWhole no b) :
    IsWhole (choiceText c yes no) [.conditional [(c, a)] b] := by
  have hd : Derives _ (.block [.conditional [(c, a)] b]) :=
    .conditional ha.derives hb.derives_else .nothing
  have hend : Terminated (no.toList ++ (spacedTag [] "end" ++ [])) :=
    hb.terminated.append_spacedTag .nil (by decide) (by decide)
  have helse : Terminated (yes.toList ++ (spacedTag [] "else"
      ++ (no.toList ++ (spacedTag [] "end" ++ [])))) :=
    ha.terminated.append_spacedTag hend (by decide) (by decide)
  rw [List.append_nil] at hd helse
  refine ⟨?_, ?_⟩
  · apply nest_eq_ok_iff.2
    rw [toList_choiceText, tokens_if hc, ha.tokens_append (by decide) (by decide)]
    exact hd
  · rw [toList_choiceText]
    exact Terminated.nil.append_spacedTag helse (by decide) hc.unclosed

theorem parse_chainText {word : String} (hw : word ∈ ["elif", "else if"]) (h₁ : IsCode c₁)
    (h₂ : IsCode c₂) (ha : IsWhole first a) (hb : IsWhole second b) (hd : IsWhole last d) :
    parse (chainText word c₁ first c₂ second last) = .ok [.conditional [(c₁, a), (c₂, b)] d] := by
  have hrest : Derives _ (.rest [(c₂, b)] d) := .alternative hb.derives hd.derives_else
  have hblock : Derives _ (.block [.conditional [(c₁, a), (c₂, b)] d]) :=
    .conditional ha.derives hrest .nothing
  have hmark : '%' ∉ ' ' :: word.toList := by
    rcases List.mem_pair.1 hw with rfl | rfl <;> decide
  apply nest_eq_ok_iff.2
  rw [toList_chainText, tokens_if h₁, ha.tokens_append hmark h₂.unclosed,
    tokens_alternative hw h₂, hb.tokens_append (by decide) (by decide)]
  rwa [List.append_nil] at hblock

/-! ## Section 3: Expanding a choice -/

/-- A conditional is a choice by its first condition. -/
theorem expandSegments_conditional_cons (ev : Evaluator σ) (scene : Scene) (c : String)
    (body otherwise : List Segment) (bs : List (String × List Segment)) :
    expandSegments ev scene [.conditional ((c, body) :: bs) otherwise] = (do
      let v ← ev.evaluate scene c
      if v.truthy then expandSegments ev scene body
      else expandSegments ev scene [.conditional bs otherwise]) := by
  simp only [expandSegments, expandSegment, expandBranches, bind_assoc, pure_bind,
    List.append_nil, bind_pure]
  congr 1
  funext v
  by_cases hv : v.truthy = true
  · simp [hv]
  · simp [hv]

/-- Without a condition nothing is left to choose. -/
theorem expandSegments_conditional_nil (ev : Evaluator σ) (scene : Scene)
    (otherwise : List Segment) : expandSegments ev scene [.conditional [] otherwise]
      = expandSegments ev scene otherwise := by
  simp [expandSegments, expandSegment, expandBranches]

/-- So what follows the first condition may as well stand in a conditional of its own. -/
theorem expandSegments_nested (ev : Evaluator σ) (scene : Scene) (c : String)
    (body otherwise : List Segment) (bs : List (String × List Segment)) :
    expandSegments ev scene [.conditional ((c, body) :: bs) otherwise]
      = expandSegments ev scene [.conditional [(c, body)] [.conditional bs otherwise]] := by
  rw [expandSegments_conditional_cons, expandSegments_conditional_cons,
    expandSegments_conditional_nil]

theorem expandText_choiceText (hc : IsCode c) (ha : IsWhole yes a) (hb : IsWhole no b)
    (ev : Evaluator σ) (scene : Scene) :
    ev.expandText scene (choiceText c yes no) = (do
      let v ← ev.evaluate scene c
      if v.truthy then ev.expandText scene yes else ev.expandText scene no) := by
  rw [expandText_of_parse (ha.choice hc hb).parsed, expandText_of_parse ha.parsed,
    expandText_of_parse hb.parsed, expandSegments_conditional_cons,
    expandSegments_conditional_nil, bind_assoc]
  congr 1
  funext v
  by_cases hv : v.truthy = true
  · rw [if_pos hv, if_pos hv]
  · rw [if_neg hv, if_neg hv]

/-- A choice comes to what asking for the condition comes to, and then the text chosen. -/
theorem expansion_choiceText (hc : IsCode c) (ha : IsWhole yes a) (hb : IsWhole no b)
    (ev : Evaluator σ) (scene : Scene) (w : World σ) :
    ev.expansion scene (choiceText c yes no) w
      = (ev.asking scene c w).andThen fun v w₁ =>
          if v.truthy then ev.expansion scene yes w₁ else ev.expansion scene no w₁ := by
  have hnotes := ev.notes_expandText scene
  have hcondition : Action.Notes (ev.noting.evaluate scene c) (ev.evaluate scene c) :=
    Action.notes_noted _ _
  have hchosen : ∀ v : Value, Action.Notes
      (if v.truthy then ev.noting.expandText scene yes else ev.noting.expandText scene no)
      (if v.truthy then ev.expandText scene yes else ev.expandText scene no) :=
    fun v => .ite (hnotes yes) (hnotes no)
  -- with and without the notes it is a sequence that begins with the condition
  rw [Evaluator.expansion_eq, expandText_choiceText hc ha hb, expandText_choiceText hc ha hb,
    Expansion.ofNoted_bind hcondition hchosen, Evaluator.asking_eq]
  congr 1
  funext v w₁
  rw [Expansion.ofNoted_ite, Evaluator.expansion_eq, Evaluator.expansion_eq]

/-- A second condition stands for a choice inside of `else`. -/
theorem expandText_chainText {word : String} (hw : word ∈ ["elif", "else if"]) (h₁ : IsCode c₁)
    (h₂ : IsCode c₂) (ha : IsWhole first a) (hb : IsWhole second b) (hd : IsWhole last d)
    (ev : Evaluator σ) (scene : Scene) :
    ev.expandText scene (chainText word c₁ first c₂ second last)
      = ev.expandText scene (choiceText c₁ first (choiceText c₂ second last)) := by
  have hnested := ha.choice h₁ (hb.choice h₂ hd)
  rw [expandText_of_parse (parse_chainText hw h₁ h₂ ha hb hd),
    expandText_of_parse hnested.parsed, expandSegments_nested]

/-- **`elif` is a choice inside of `else`.** The three ways to write a choice by two
    conditions are templates, if the texts to choose from are templates that leave no tag
    open. Each of them, with every evaluator, in every scene and world, comes to the same
    calls, the same result or error and the same world. The first condition is asked for. If
    it holds, the first text is expanded; else the second condition is asked for, and decides
    between the other two. An error ends all, and no code of a text that was not chosen is
    asked for. -/
theorem choices_expand_alike (h₁ : IsCode c₁) (h₂ : IsCode c₂) (ha : IsWhole first a)
    (hb : IsWhole second b) (hd : IsWhole last d) :
    ∀ text ∈ [chainText "elif" c₁ first c₂ second last,
        chainText "else if" c₁ first c₂ second last,
        choiceText c₁ first (choiceText c₂ second last)],
      (∃ t, parse text = .ok t) ∧
      ∀ {σ : Type} (ev : Evaluator σ) (scene : Scene) (w : World σ),
        ev.expansion scene text w = (ev.asking scene c₁ w).andThen fun v₁ w₁ =>
          if v₁.truthy then ev.expansion scene first w₁
          else (ev.asking scene c₂ w₁).andThen fun v₂ w₂ =>
            if v₂.truthy then ev.expansion scene second w₂ else ev.expansion scene last w₂ := by
  have hinner := hb.choice h₂ hd
  have hnested : ∀ {σ : Type} (ev : Evaluator σ) (scene : Scene) (w : World σ),
      ev.expansion scene (choiceText c₁ first (choiceText c₂ second last)) w
        = (ev.asking scene c₁ w).andThen fun v₁ w₁ =>
          if v₁.truthy then ev.expansion scene first w₁
          else (ev.asking scene c₂ w₁).andThen fun v₂ w₂ =>
            if v₂.truthy then ev.expansion scene second w₂ else ev.expansion scene last w₂ := by
    intro σ ev scene w
    rw [expansion_choiceText h₁ ha hinner]
    simp only [expansion_choiceText h₂ hb hd]
  -- the evaluator that notes its calls sees no difference either
  have hchain : ∀ word ∈ ["elif", "else if"], ∀ {σ : Type} (ev : Evaluator σ) (scene : Scene),
      ev.expansion scene (chainText word c₁ first c₂ second last)
        = ev.expansion scene (choiceText c₁ first (choiceText c₂ second last)) := by
    intro word hw σ ev scene
    rw [Evaluator.expansion_eq, expandText_chainText hw h₁ h₂ ha hb hd,
      expandText_chainText hw h₁ h₂ ha hb hd, Evaluator.expansion_eq]
  intro text htext
  simp only [List.mem_cons, List.not_mem_nil, or_false] at htext
  rcases htext with rfl | rfl | rfl
  · refine ⟨⟨_, parse_chainText (by decide) h₁ h₂ ha hb hd⟩, ?_⟩
    intro σ ev scene w
    rw [hchain "elif" (by decide), hnested]
  · refine ⟨⟨_, parse_chainText (by decide) h₁ h₂ ha hb hd⟩, ?_⟩
    intro σ ev scene w
    rw [hchain "else if" (by decide), hnested]
  · exact ⟨⟨_, (ha.choice h₁ hinner).parsed⟩, hnested⟩

/-- The first text has an `elif` of its own and ends with `<`, the second one is empty, and
    its condition begins with the word of a command. -/
theorem choices_expand_alike_lamp :
    IsWhole "<% if oil %>Lit<% elif wick %>Dim<% end %> <"
      [.conditional [("oil", [.literal "Lit"]), ("wick", [.literal "Dim"])] [], .literal " <"] ∧
    IsWhole "" [] ∧ IsWhole "100%>" [.literal "100%>"] ∧
    ∀ text ∈ [
        chainText "elif" "lamp" "<% if oil %>Lit<% elif wick %>Dim<% end %> <" "if dusk" ""
          "100%>",
        chainText "else if" "lamp" "<% if oil %>Lit<% elif wick %>Dim<% end %> <" "if dusk" ""
          "100%>",
        choiceText "lamp" "<% if oil %>Lit<% elif wick %>Dim<% end %> <"
          (choiceText "if dusk" "" "100%>")],
      (∃ t, parse text = .ok t) ∧
      ∀ {σ : Type} (ev : Evaluator σ) (scene : Scene) (w : World σ),
        ev.expansion scene text w = (ev.asking scene "lamp" w).andThen fun v₁ w₁ =>
          if v₁.truthy then ev.expansion scene "<% if oil %>Lit<% elif wick %>Dim<% end %> <" w₁
          else (ev.asking scene "if dusk" w₁).andThen fun v₂ w₂ =>
            if v₂.truthy then ev.expansion scene "" w₂ else ev.expansion scene "100%>" w₂ := by
  have hoil : IsWhole "<% if oil %>Lit<% elif wick %>Dim<% end %> <"
      [.conditional [("oil", [.literal "Lit"]), ("wick", [.literal "Dim"])] [],
        .literal " <"] := by
    have htokens : tokens "<% if oil %>Lit<% elif wick %>Dim<% end %> <".toList
        = [.opening "oil", .literal "Lit", .alternative "wick", .literal "Dim", .closing,
          .literal " <"] := by decide +kernel
    exact ⟨by rw [parse, htokens]; rfl, by decide +kernel⟩
  have hempty : IsWhole "" [] := ⟨by cbv, .nil⟩
  have hfull : IsWhole "100%>" [.literal "100%>"] := ⟨by cbv, by decide +kernel⟩
  exact ⟨hoil, hempty, hfull,
    choices_expand_alike (by decide) (by decide) hoil hempty hfull⟩

end

end Hyperfiction.Template
