import Hyperfiction.Proofs.Template.Grammar

/-! # Printing templates and reading them back

    A template that has been printed reads as the same template, if it is one that a text
    can stand for: literals are as long as they can be and hold no `<%`; code can be told
    from the blanks around it, from the end of its tag and from the words of the block
    language. What is printed next to each other is read apart: a tag ends where it was
    closed, and a literal where the next tag begins, even if it ends with `<` itself.
-/

namespace Hyperfiction.Template

/-! ## Section 1: Trees that can be printed -/

/-- Code that a tag can hold. -/
structure IsCode (code : String) : Prop where
  nonempty : code ≠ ""
  trimmed : Text.Trimmed code.toList
  unclosed : ¬ ['%', '>'] <:+: code.toList

/-- Code that is no word of the block language. -/
structure IsStatement (code : String) : Prop extends IsCode code where
  not_otherwise : code ≠ "else"
  not_closing : code ≠ "end"
  not_command : ∀ word ∈ ["if", "elif", "else if"], ∀ arg,
    ¬ IsCommand word.toList code.toList arg

instance (code : String) : Decidable (IsCode code) :=
  decidable_of_iff
    (code ≠ "" ∧ Text.Trimmed code.toList ∧ ¬ ['%', '>'] <:+: code.toList)
    ⟨fun h => ⟨h.1, h.2.1, h.2.2⟩, fun h => ⟨h.nonempty, h.trimmed, h.unclosed⟩⟩

instance (code : String) : Decidable (IsStatement code) :=
  decidable_of_iff
    (IsCode code ∧ code ≠ "else" ∧ code ≠ "end" ∧
      ∀ word ∈ ["if", "elif", "else if"], keywordArg word.toList code.toList = none)
    ⟨fun h => ⟨h.1, h.2.1, h.2.2.1, fun word hw => keywordArg_eq_none_iff.1 (h.2.2.2 word hw)⟩,
      fun h => ⟨h.toIsCode, h.not_otherwise, h.not_closing,
        fun word hw => keywordArg_eq_none_iff.2 (h.not_command word hw)⟩⟩

/-- A tree that is read back as it was printed. -/
inductive Canonical : Part → Prop where
  | nothing : Canonical (.block [])
  /-- A literal is not empty, holds no `<%`, and is followed by no other literal. -/
  | literal {text : String} {ss : List Segment} : text ≠ "" → ¬ ['<', '%'] <:+: text.toList →
      (∀ next, ss.head? ≠ some (.literal next)) → Canonical (.block ss) →
      Canonical (.block (.literal text :: ss))
  | interpolation {code : String} {escaped : Bool} {ss : List Segment} : IsCode code →
      Canonical (.block ss) → Canonical (.block (.interpolation code escaped :: ss))
  | statement {code : String} {ss : List Segment} : IsStatement code → Canonical (.block ss) →
      Canonical (.block (.statement code :: ss))
  /-- A conditional has a first branch. -/
  | conditional {c : String} {first otherwise ss : List Segment}
      {branches : List (String × List Segment)} : IsCode c → Canonical (.block first) →
      Canonical (.rest branches otherwise) → Canonical (.block ss) →
      Canonical (.block (.conditional ((c, first) :: branches) otherwise :: ss))
  | alternative {c : String} {next otherwise : List Segment}
      {branches : List (String × List Segment)} : IsCode c → Canonical (.block next) →
      Canonical (.rest branches otherwise) → Canonical (.rest ((c, next) :: branches) otherwise)
  | otherwise {ss : List Segment} : Canonical (.block ss) → Canonical (.rest [] ss)

/-! ## Section 2: Reading tags and literals -/

theorem tokens_nil : tokens [] = [] := by
  have hplain : ¬ HasTag [] := by
    rintro ⟨before, body, rest, h⟩
    simp [Piece.tag] at h
  unfold tokens
  rw [Piece.split_plain hplain]
  rfl

theorem tokens_tag {body : List Char} (h : ¬ ['%', '>'] <:+: body) (rest : List Char) :
    tokens (Piece.tag body ++ rest) = Token.ofPiece (Piece.ofBody body) :: tokens rest := by
  have hsplit : Piece.split ([] ++ Piece.tag body ++ rest) = _ := Piece.split_tag (by simp) h rest
  unfold tokens
  rw [List.nil_append] at hsplit
  rw [hsplit]
  rfl

/-- A literal can stop here: the text is at its end, or a tag begins. -/
def Stops (cs : List Char) : Prop :=
  cs = [] ∨ ∃ body rest, ¬ ['%', '>'] <:+: body ∧ cs = Piece.tag body ++ rest

theorem tokens_literal {text : String} (hne : text ≠ "")
    (h : ¬ ['<', '%'] <:+: text.toList) {cs : List Char} (hs : Stops cs) :
    tokens (text.toList ++ cs) = .literal text :: tokens cs := by
  have htexts : (Piece.texts text.toList).map Token.ofPiece = [.literal text] := by
    have hne' : text.toList ≠ [] := mt String.toList_eq_nil_iff.1 hne
    unfold Piece.texts
    rw [if_neg (mt List.isEmpty_iff.1 hne')]
    simp [Token.ofPiece]
  rcases hs with rfl | ⟨body, rest, hbody, rfl⟩
  · rw [List.append_nil, tokens_nil]
    unfold tokens
    rw [Piece.split_plain (not_hasTag_of_not_pair h), htexts]
  · rw [tokens_tag hbody, ← List.append_assoc]
    unfold tokens
    rw [Piece.split_tag h hbody, List.map_append, htexts]
    rfl

/-! ## Section 3: Reading what is printed -/

/-- A tag that is printed ends where it was closed. -/
theorem unclosed_spaced {mark cs : List Char} (hm : '%' ∉ mark) (h : ¬ ['%', '>'] <:+: cs) :
    ¬ ['%', '>'] <:+: mark ++ ' ' :: (cs ++ [' ']) := by
  have hgap : '%' ∉ [' '] := by decide
  exact Text.not_pair_infix_append hm
    (Text.not_pair_infix_append hgap (Text.not_pair_infix_concat (by decide) h))

theorem spacedTag_eq (mark : List Char) (code : String) :
    spacedTag mark code = Piece.tag (mark ++ ' ' :: (code.toList ++ [' '])) := by
  simp [spacedTag, Piece.tag]

theorem trim_spaced {cs : List Char} (h : Text.Trimmed cs) :
    Text.trim (' ' :: (cs ++ [' '])) = cs := by
  have hgap : Text.Blank [' '] := by decide
  exact Text.trim_pad hgap h hgap

/-- A tag of code that is spelt like a word is read as that word. -/
theorem tokens_spelt {cs : List Char} {t : Token} (hs : Spells cs t) (ht : Text.Trimmed cs)
    (hc : ¬ ['%', '>'] <:+: cs) (rest : List Char) :
    tokens (Piece.tag (' ' :: (cs ++ [' '])) ++ rest) = t :: tokens rest := by
  have hread : Reads (.code (' ' :: (cs ++ [' ']))) t := by
    refine .code ?_
    rw [trim_spaced ht]
    exact hs
  have hclosed : ¬ ['%', '>'] <:+: ' ' :: (cs ++ [' ']) := @unclosed_spaced [] cs nofun hc
  rw [tokens_tag hclosed]
  exact congrArg (· :: _) (reads_iff.1 hread)

theorem IsCode.toList_ne_nil {code : String} (h : IsCode code) : code.toList ≠ [] :=
  mt String.toList_eq_nil_iff.1 h.nonempty

theorem tokens_interpolation {code : String} (h : IsCode code) (escaped : Bool)
    (rest : List Char) : tokens (segmentSource (.interpolation code escaped) ++ rest)
      = .interpolation code escaped :: tokens rest := by
  have hne : Text.trim (' ' :: (code.toList ++ [' '])) ≠ [] := by
    rw [trim_spaced h.trimmed]
    exact h.toList_ne_nil
  have hread := reads_iff.1 (@Reads.interpolation _ escaped hne)
  rw [trim_spaced h.trimmed, String.ofList_toList] at hread
  cases escaped with
  | false =>
    show tokens (spacedTag ['='] code ++ rest) = _
    rw [spacedTag_eq, tokens_tag (unclosed_spaced (by decide) h.unclosed)]
    exact congrArg (· :: _) hread
  | true =>
    show tokens (spacedTag ['-'] code ++ rest) = _
    rw [spacedTag_eq, tokens_tag (unclosed_spaced (by decide) h.unclosed)]
    exact congrArg (· :: _) hread

theorem tokens_statement {code : String} (h : IsStatement code) (rest : List Char) :
    tokens (segmentSource (.statement code) ++ rest) = .statement code :: tokens rest := by
  have hs : Spells code.toList (.statement (String.ofList code.toList)) :=
    .statement h.toList_ne_nil (mt String.toList_inj.1 h.not_otherwise)
      (mt String.toList_inj.1 h.not_closing) h.not_command
  rw [String.ofList_toList] at hs
  show tokens (spacedTag [] code ++ rest) = _
  rw [spacedTag_eq]
  exact tokens_spelt hs h.trimmed h.unclosed rest

/-- A word before code, as it is printed. -/
theorem isCommand_spaced {c : String} (h : IsCode c) (word : List Char) :
    IsCommand word (word ++ [' '] ++ c.toList) c.toList :=
  ⟨[' '], [], by simp, by decide, h.toList_ne_nil, h.trimmed, nofun, by simp⟩

/-- A keyword and its argument, as they are printed. -/
theorem tokens_command {word : List Char} {c : String} {t : Token} (h : IsCode c)
    (hw : Text.Trimmed word) (hne : word ≠ []) (hm : '%' ∉ word)
    (hs : Spells (word ++ [' '] ++ c.toList) t) (rest : List Char) :
    tokens (spacedTag (' ' :: word) c ++ rest) = t :: tokens rest := by
  have hclosed : ¬ ['%', '>'] <:+: word ++ [' '] ++ c.toList := by
    rw [List.append_assoc]
    exact Text.not_pair_infix_append hm (Text.not_pair_infix_append (by decide) h.unclosed)
  have htag : spacedTag (' ' :: word) c
      = Piece.tag (' ' :: (word ++ [' '] ++ c.toList ++ [' '])) := by
    simp [spacedTag_eq]
  rw [htag]
  exact tokens_spelt hs (hw.append h.trimmed hne h.toList_ne_nil _) hclosed rest

theorem tokens_if {c : String} (h : IsCode c) (rest : List Char) :
    tokens (spacedTag [' ', 'i', 'f'] c ++ rest) = .opening c :: tokens rest := by
  have hs := Spells.opening (isCommand_spaced h "if".toList)
  rw [String.ofList_toList] at hs
  exact tokens_command h (by decide) (by decide) (by decide) hs rest

theorem tokens_elif {c : String} (h : IsCode c) (rest : List Char) :
    tokens (spacedTag [' ', 'e', 'l', 'i', 'f'] c ++ rest) = .alternative c :: tokens rest := by
  have hs := Spells.elif (isCommand_spaced h "elif".toList)
  rw [String.ofList_toList] at hs
  exact tokens_command h (by decide) (by decide) (by decide) hs rest

/-- A word alone, as it is printed. -/
theorem tokens_word {word : String} {t : Token} (hs : Spells word.toList t)
    (hw : Text.Trimmed word.toList) (hc : ¬ ['%', '>'] <:+: word.toList) (rest : List Char) :
    tokens (spacedTag [] word ++ rest) = t :: tokens rest := by
  rw [spacedTag_eq]
  exact tokens_spelt hs hw hc rest

/-! ## Section 4: The round trip -/

/-- The rest of a conditional as template text. -/
def restSource (branches : List (String × List Segment)) (otherwise : List Segment) :
    List Char :=
  branchesSource ['e', 'l', 'i', 'f'] branches ++
    (match otherwise with
      | [] => []
      | _ => spacedTag [] "else" ++ segmentsSource otherwise) ++
    spacedTag [] "end"

theorem segmentSource_conditional (c : String) (first otherwise : List Segment)
    (branches : List (String × List Segment)) :
    segmentSource (.conditional ((c, first) :: branches) otherwise)
      = spacedTag [' ', 'i', 'f'] c ++ segmentsSource first ++ restSource branches otherwise := by
  cases otherwise <;> simp [segmentSource, branchesSource, restSource]

theorem restSource_cons (c : String) (next otherwise : List Segment)
    (branches : List (String × List Segment)) :
    restSource ((c, next) :: branches) otherwise
      = spacedTag [' ', 'e', 'l', 'i', 'f'] c ++ segmentsSource next
        ++ restSource branches otherwise := by
  cases otherwise <;> simp [branchesSource, restSource]

theorem restSource_otherwise {ss : List Segment} (h : ss ≠ []) :
    restSource [] ss = spacedTag [] "else" ++ segmentsSource ss ++ spacedTag [] "end" := by
  cases ss with
  | nil => exact absurd rfl h
  | cons s ss => simp [branchesSource, restSource]

theorem restSource_nil : restSource [] [] = spacedTag [] "end" := by
  simp [branchesSource, restSource]

/-- The part is printed as tokens that are derived from it. A block may end with a literal,
    which needs a place to stop. -/
def Part.IsPrinted : Part → Prop
  | .block ss => ∃ ts, Derives ts (.block ss) ∧ ∀ more, Stops more →
      tokens (segmentsSource ss ++ more) = ts ++ tokens more
  | .rest branches otherwise => ∃ ts, Derives ts (.rest branches otherwise) ∧ ∀ more,
      tokens (restSource branches otherwise ++ more) = ts ++ tokens more

theorem stops_spacedTag {mark : List Char} {code : String} (hm : '%' ∉ mark)
    (h : ¬ ['%', '>'] <:+: code.toList) (rest : List Char) :
    Stops (spacedTag mark code ++ rest) := by
  rw [spacedTag_eq]
  exact .inr ⟨_, rest, unclosed_spaced hm h, rfl⟩

/-- A conditional goes on with a tag after the block of a branch. -/
theorem Canonical.stops_rest {branches : List (String × List Segment)}
    {otherwise : List Segment} (h : Canonical (.rest branches otherwise)) (more : List Char) :
    Stops (restSource branches otherwise ++ more) := by
  cases h with
  | alternative hcode =>
    rw [restSource_cons, List.append_assoc, List.append_assoc]
    exact stops_spacedTag (by decide) hcode.unclosed _
  | otherwise =>
    by_cases hempty : otherwise = []
    · rw [hempty, restSource_nil]
      exact stops_spacedTag List.not_mem_nil (by decide) _
    · rw [restSource_otherwise hempty, List.append_assoc, List.append_assoc]
      exact stops_spacedTag List.not_mem_nil (by decide) _

/-- A block that does not begin with a literal begins with a tag, if it is not empty. -/
theorem Canonical.stops_block {ss : List Segment} (h : Canonical (.block ss))
    (hhead : ∀ next, ss.head? ≠ some (.literal next)) {more : List Char} (hm : Stops more) :
    Stops (segmentsSource ss ++ more) := by
  cases h with
  | nothing => exact hm
  | literal => exact absurd rfl (hhead _)
  | @interpolation code escaped _ hcode =>
    cases escaped <;>
    · rw [segmentsSource, segmentSource, List.append_assoc]
      exact stops_spacedTag (by decide) hcode.unclosed _
  | statement hcode =>
    rw [segmentsSource, segmentSource, List.append_assoc]
    exact stops_spacedTag List.not_mem_nil hcode.unclosed _
  | conditional hcode =>
    rw [segmentsSource, segmentSource_conditional]
    simp only [List.append_assoc]
    exact stops_spacedTag (by decide) hcode.unclosed _

theorem Canonical.isPrinted {p : Part} (h : Canonical p) : p.IsPrinted := by
  induction h with
  | nothing => exact ⟨[], .nothing, fun _ _ => rfl⟩
  | literal hne hopen hhead hc ih =>
    obtain ⟨ts, hd, hread⟩ := ih
    refine ⟨_, .literal hd, ?_⟩
    intro more hm
    rw [segmentsSource, segmentSource, List.append_assoc,
      tokens_literal hne hopen (hc.stops_block hhead hm), hread more hm]
    rfl
  | interpolation hcode _ ih =>
    obtain ⟨ts, hd, hread⟩ := ih
    refine ⟨_, .interpolation hd, ?_⟩
    intro more hm
    rw [segmentsSource, List.append_assoc, tokens_interpolation hcode, hread more hm]
    rfl
  | statement hcode _ ih =>
    obtain ⟨ts, hd, hread⟩ := ih
    refine ⟨_, .statement hd, ?_⟩
    intro more hm
    rw [segmentsSource, List.append_assoc, tokens_statement hcode, hread more hm]
    rfl
  | conditional hcode _ hrest _ ihfirst ihrest ih =>
    obtain ⟨body, hbody, hreadBody⟩ := ihfirst
    obtain ⟨rest, hrestDerived, hreadRest⟩ := ihrest
    obtain ⟨ts, hd, hread⟩ := ih
    refine ⟨_, .conditional hbody hrestDerived hd, ?_⟩
    intro more hm
    rw [segmentsSource, segmentSource_conditional]
    simp only [List.append_assoc]
    rw [tokens_if hcode,
      hreadBody _ (hrest.stops_rest _), hreadRest, hread more hm]
    simp
  | alternative hcode _ hrest ihnext ihrest =>
    obtain ⟨body, hbody, hreadBody⟩ := ihnext
    obtain ⟨rest, hrestDerived, hreadRest⟩ := ihrest
    refine ⟨_, .alternative hbody hrestDerived, ?_⟩
    intro more
    rw [restSource_cons]
    simp only [List.append_assoc]
    rw [tokens_elif hcode,
      hreadBody _ (hrest.stops_rest _), hreadRest]
    simp
  | @otherwise ss _ ih =>
    obtain ⟨body, hbody, hreadBody⟩ := ih
    have hend : ∀ more, tokens (spacedTag [] "end" ++ more) = .closing :: tokens more :=
      tokens_word .closing (by decide) (by decide)
    by_cases hempty : ss = []
    · refine ⟨[.closing], ?_, ?_⟩
      · rw [hempty]
        exact .closing
      · intro more
        rw [hempty, restSource_nil, hend]
        rfl
    · refine ⟨_, .otherwise hbody, ?_⟩
      intro more
      rw [restSource_otherwise hempty]
      simp only [List.append_assoc]
      rw [tokens_word .otherwise (by decide) (by decide),
        hreadBody _ (stops_spacedTag List.not_mem_nil (by decide) more), hend]
      simp

/-- **Printing and parsing again gives the same template.** This holds of every tree whose
    literals are not empty, hold no `<%` and are followed by no other literal; whose code is
    not empty, has no blank at either end and holds no `%>`; whose statements are no words
    of the block language; and whose conditionals have a branch. -/
theorem parse_source {t : Template} (h : Canonical (.block t)) : parse (source t) = .ok t := by
  obtain ⟨ts, hd, hread⟩ := h.isPrinted
  have htokens := hread [] (.inl rfl)
  rw [List.append_nil, tokens_nil, List.append_nil] at htokens
  unfold parse source
  rw [String.toList_ofList, htokens]
  exact nest_eq_ok_iff.2 hd

/-- A template in which tags stand next to what looks like one: a literal ends with `<`,
    code ends with `%`, and statements begin like words of the block language. -/
def ledgerTemplate : Template :=
  [.literal "%> owed <",
    .conditional
      [("gold", [.literal "<", .interpolation "gold%" true]),
        ("if lamp", [.conditional [("dusk", [])] [.statement "else lamp"]])]
      [.interpolation "=debt" false],
    .statement "endow"]

theorem canonical_ledgerTemplate : Canonical (.block ledgerTemplate) := by
  refine .literal (by decide) (by decide) (by simp) (.conditional (by decide) ?gold ?rest ?owed)
  case gold =>
    refine .literal (by decide) (by decide) (by simp) ?_
    exact .interpolation (by decide) .nothing
  case rest =>
    refine .alternative (by decide) ?lamp (.otherwise (.interpolation (by decide) .nothing))
    case lamp =>
      refine .conditional (by decide) .nothing (.otherwise ?_) .nothing
      exact .statement (by decide) .nothing
  case owed => exact .statement (by decide) .nothing

/-- All of it is read back. -/
theorem parse_source_ledger :
    source ledgerTemplate = "%> owed <<% if gold %><<%- gold% %><% elif if lamp %>"
      ++ "<% if dusk %><% else %><% else lamp %><% end %><% else %><%= =debt %><% end %>"
      ++ "<% endow %>" ∧
    parse (source ledgerTemplate) = .ok ledgerTemplate :=
  ⟨by cbv, parse_source canonical_ledgerTemplate⟩

end Hyperfiction.Template
