import Mathlib.Data.List.Forall2
import Hyperfiction.Proofs.Text.Delimiter
import Hyperfiction.Template.Segment

/-! # The tag stream of a text

    How a text is cut into pieces, and how a piece is read as a word of the block
    language, said as relations between texts, pieces and words. Both are functions read
    backwards: each text is cut in one way only, and that is how `split` cuts it; each
    piece is read in one way only, and that is how `Token.ofPiece` reads it.
-/

namespace Hyperfiction.Template

/-! ## Section 1: Cutting a text into pieces -/

/-- A complete tag stands somewhere in the text. -/
def HasTag (cs : List Char) : Prop :=
  ∃ before body rest, cs = before ++ Piece.tag body ++ rest

/-- Where no tag is opened none is complete. -/
theorem not_hasTag_of_not_pair {cs : List Char} (h : ¬ ['<', '%'] <:+: cs) : ¬ HasTag cs := by
  rintro ⟨before, body, rest, rfl⟩
  exact h ⟨before, body ++ ['%', '>'] ++ rest, by simp [Piece.tag]⟩

/-- The pieces that a text is cut into. A tag reaches from the first `<%` to the first
    `%>` after it. -/
inductive Cuts : List Char → List Piece → Prop where
  /-- Without a complete tag all is text, a `<%` that nothing closes as well. -/
  | plain {cs : List Char} : ¬ HasTag cs → Cuts cs (Piece.texts cs)
  | tag {before body rest : List Char} {ps : List Piece} :
      ¬ ['<', '%'] <:+: before → ¬ ['%', '>'] <:+: body → Cuts rest ps →
      Cuts (before ++ Piece.tag body ++ rest) (Piece.texts before ++ Piece.ofBody body :: ps)

namespace Piece

theorem split_plain {cs : List Char} (h : ¬ HasTag cs) : split cs = texts cs := by
  rw [split]
  split
  · rfl
  · rename_i before after hopen
    split
    · rfl
    · rename_i body rest hclose
      refine absurd ⟨before, body, rest, ?_⟩ h
      rw [Text.eq_of_cutAtPair hopen, Text.eq_of_cutAtPair hclose]
      simp [tag]

theorem split_tag {before body : List Char} (hb : ¬ ['<', '%'] <:+: before)
    (hc : ¬ ['%', '>'] <:+: body) (rest : List Char) :
    split (before ++ tag body ++ rest) = texts before ++ ofBody body :: split rest := by
  have hopen : Text.cutAtPair '<' '%' (before ++ tag body ++ rest)
      = some (before, body ++ '%' :: '>' :: rest) := by
    rw [← Text.cutAtPair_append (by decide) hb]
    simp [tag]
  have hclose := Text.cutAtPair_append (by decide) hc rest
  rw [split]
  split
  · rename_i h
    rw [hopen] at h
    cases h
  · rename_i before' after h
    rw [hopen] at h
    obtain ⟨rfl, rfl⟩ := Prod.mk.inj (Option.some.inj h)
    split
    · rename_i h'
      rw [hclose] at h'
      cases h'
    · rename_i body' rest' h'
      rw [hclose] at h'
      obtain ⟨rfl, rfl⟩ := Prod.mk.inj (Option.some.inj h')
      rfl

end Piece

/-- A text with a complete tag begins with text up to the first `<%`, and a tag up to the
    first `%>` after it. -/
theorem HasTag.first {cs : List Char} (h : HasTag cs) :
    ∃ before body rest, cs = before ++ Piece.tag body ++ rest ∧ ¬ ['<', '%'] <:+: before ∧
      ¬ ['%', '>'] <:+: body := by
  obtain ⟨l, m, r, hcs⟩ := h
  have hcs' : cs = l ++ '<' :: '%' :: (m ++ '%' :: '>' :: r) := by
    rw [hcs]
    simp [Piece.tag]
  obtain ⟨⟨before, after⟩, hopen⟩ : ∃ p, Text.cutAtPair '<' '%' cs = some p := by
    refine Option.ne_none_iff_exists'.1 (mt Text.cutAtPair_eq_none_iff.1 (not_not_intro ?_))
    exact ⟨l, m ++ '%' :: '>' :: r, by simp [hcs']⟩
  obtain ⟨hbefore, hb⟩ := (Text.cutAtPair_eq_some_iff (by decide)).1 hopen
  -- the `%>` of the tag that there is comes after the first `<%`
  obtain ⟨between, hafter⟩ := Text.suffix_of_first_pair (by decide) hb (hbefore.symm.trans hcs')
  obtain ⟨⟨body, rest⟩, hclose⟩ : ∃ p, Text.cutAtPair '%' '>' after = some p := by
    refine Option.ne_none_iff_exists'.1 (mt Text.cutAtPair_eq_none_iff.1 (not_not_intro ?_))
    exact ⟨between ++ m, r, by simp [← hafter]⟩
  obtain ⟨hrest, hc⟩ := (Text.cutAtPair_eq_some_iff (by decide)).1 hclose
  refine ⟨before, body, rest, ?_, hb, hc⟩
  rw [hbefore, hrest]
  simp [Piece.tag]

theorem exists_cuts (cs : List Char) : ∃ ps, Cuts cs ps := by
  by_cases h : HasTag cs
  · obtain ⟨before, body, rest, hcs, hb, hc⟩ := h.first
    have hshorter : rest.length < cs.length := by
      rw [hcs]
      simp only [Piece.tag, List.length_append, List.length_cons]
      omega
    obtain ⟨ps, hps⟩ := exists_cuts rest
    rw [hcs]
    exact ⟨_, .tag hb hc hps⟩
  · exact ⟨_, .plain h⟩
termination_by cs.length

theorem Cuts.split_eq {cs : List Char} {ps : List Piece} (h : Cuts cs ps) :
    Piece.split cs = ps := by
  induction h with
  | plain h => exact Piece.split_plain h
  | tag hb hc _ ih => rw [Piece.split_tag hb hc, ih]

/-- Every text is cut in one way only. -/
theorem cuts_iff {cs : List Char} {ps : List Piece} : Cuts cs ps ↔ Piece.split cs = ps := by
  refine ⟨Cuts.split_eq, ?_⟩
  rintro rfl
  obtain ⟨ps, h⟩ := exists_cuts cs
  rw [h.split_eq]
  exact h

theorem Piece.source_ofBody (body : List Char) : (Piece.ofBody body).source = Piece.tag body := by
  unfold Piece.ofBody
  split <;> rfl

theorem Piece.flatMap_source_texts (cs : List Char) : (texts cs).flatMap source = cs := by
  cases cs with
  | nil => rfl
  | cons c cs => exact List.append_nil _

theorem Cuts.source_eq {cs : List Char} {ps : List Piece} (h : Cuts cs ps) :
    ps.flatMap Piece.source = cs := by
  induction h with
  | plain _ => exact Piece.flatMap_source_texts _
  | tag _ _ _ ih =>
    rw [List.flatMap_append, List.flatMap_cons, Piece.flatMap_source_texts, Piece.source_ofBody,
      ih, List.append_assoc]

/-- Written back in order, the pieces are the text. -/
theorem flatMap_source_split (cs : List Char) : (Piece.split cs).flatMap Piece.source = cs :=
  (cuts_iff.2 rfl).source_eq

/-! ## Section 2: Commands -/

/-- The code is a keyword and its argument: the word, a gap of blanks and the argument,
    which may be followed by blanks again. -/
def IsCommand (word code arg : List Char) : Prop :=
  ∃ gap after, gap ≠ [] ∧ Text.Blank gap ∧ arg ≠ [] ∧ Text.Trimmed arg ∧ Text.Blank after ∧
    code = word ++ (gap ++ arg ++ after)

theorem IsCommand.starts {word code arg : List Char} (h : IsCommand word code arg) :
    ∃ rest, code = word ++ rest := by
  obtain ⟨gap, after, -, -, -, -, -, hcode⟩ := h
  exact ⟨_, hcode⟩

theorem afterWord_eq_some_iff {word code rest : List Char} :
    afterWord word code = some rest ↔ code = word ++ rest := by
  induction word generalizing code with
  | nil => simp [afterWord, eq_comm]
  | cons w word ih =>
    cases code with
    | nil => simp [afterWord]
    | cons c code =>
      by_cases hwc : w = c
      · simp [afterWord, hwc, ih]
      · simp [afterWord, hwc, eq_comm]

theorem keywordArg_eq_some_iff {word code arg : List Char} :
    keywordArg word code = some arg ↔ IsCommand word code arg := by
  constructor
  · intro h
    unfold keywordArg at h
    split at h
    · rename_i c cs hword
      split_ifs at h with hblank
      obtain ⟨gap, after, hgap, hafter, hcs⟩ := Text.exists_pad (c :: cs)
      split at h
      · cases h
      · rename_i arg' hne
        obtain rfl := Option.some.inj h
        refine ⟨gap, after, ?_, hgap, fun hnil => hne hnil, Text.trimmed_trim _, hafter, ?_⟩
        · -- without a gap the argument would begin with the blank `c`
          rintro rfl
          have hhead := (Text.trimmed_trim (c :: cs)).head
          cases harg : Text.trim (c :: cs) with
          | nil => exact hne harg
          | cons d arg =>
            rw [harg] at hcs hhead
            obtain ⟨rfl, -⟩ := List.cons.inj hcs
            rw [hhead c rfl] at hblank
            cases hblank
        · rw [← hcs]
          exact afterWord_eq_some_iff.1 hword
    · cases h
  · rintro ⟨gap, after, hne, hgap, harg, htrimmed, hafter, rfl⟩
    obtain ⟨c, gap, rfl⟩ := List.exists_cons_of_ne_nil hne
    have hword : afterWord word (word ++ (c :: gap ++ arg ++ after))
        = some (c :: (gap ++ arg ++ after)) := afterWord_eq_some_iff.2 (by simp)
    have htrim : Text.trim (c :: (gap ++ arg ++ after)) = arg := Text.trim_pad hgap htrimmed hafter
    have hblank : Text.isBlank c = true := hgap c List.mem_cons_self
    unfold keywordArg
    rw [hword]
    dsimp only
    rw [if_pos hblank, htrim]
    cases arg with
    | nil => exact absurd rfl harg
    | cons d arg => rfl

theorem keywordArg_eq_none_iff {word code : List Char} :
    keywordArg word code = none ↔ ∀ arg, ¬ IsCommand word code arg := by
  rw [Option.eq_none_iff_forall_ne_some]
  exact forall_congr' fun arg => not_congr keywordArg_eq_some_iff

/-! ## Section 3: Reading a piece -/

/-- How a word of the block language is spelt in the code of a tag. -/
inductive Spells : List Char → Token → Prop where
  | blank : Spells [] .blankCode
  | opening {code arg : List Char} :
      IsCommand "if".toList code arg → Spells code (.opening (String.ofList arg))
  | elif {code arg : List Char} :
      IsCommand "elif".toList code arg → Spells code (.alternative (String.ofList arg))
  | elseIf {code arg : List Char} :
      IsCommand "else if".toList code arg → Spells code (.alternative (String.ofList arg))
  | otherwise : Spells "else".toList .otherwise
  | closing : Spells "end".toList .closing
  | statement {code : List Char} : code ≠ [] → code ≠ "else".toList → code ≠ "end".toList →
      (∀ word ∈ ["if", "elif", "else if"], ∀ arg, ¬ IsCommand word.toList code arg) →
      Spells code (.statement (String.ofList code))

/-- How a piece of a text is read. Blanks around code do not count. -/
inductive Reads : Piece → Token → Prop where
  | literal {cs : List Char} : Reads (.text cs) (.literal (String.ofList cs))
  | interpolation {cs : List Char} {escaped : Bool} : Text.trim cs ≠ [] →
      Reads (.interpolation cs escaped) (.interpolation (String.ofList (Text.trim cs)) escaped)
  | blankInterpolation {cs : List Char} {escaped : Bool} : Text.trim cs = [] →
      Reads (.interpolation cs escaped) .blankInterpolation
  | code {cs : List Char} {t : Token} : Spells (Text.trim cs) t → Reads (.code cs) t

theorem Spells.ofCode_eq {code : List Char} {t : Token} (h : Spells code t) :
    Token.ofCode code = t := by
  unfold Token.ofCode
  cases h with
  | blank => rfl
  | opening h =>
    have hif : keywordArg ['i', 'f'] code = some _ := keywordArg_eq_some_iff.2 h
    rw [hif]
  | elif h =>
    have helif : keywordArg ['e', 'l', 'i', 'f'] code = some _ := keywordArg_eq_some_iff.2 h
    obtain ⟨rest, rfl⟩ := h.starts
    have hif : keywordArg ['i', 'f'] ("elif".toList ++ rest) = none := rfl
    rw [hif, helif]
  | elseIf h =>
    have helseIf : keywordArg ['e', 'l', 's', 'e', ' ', 'i', 'f'] code = some _ :=
      keywordArg_eq_some_iff.2 h
    obtain ⟨rest, rfl⟩ := h.starts
    have hif : keywordArg ['i', 'f'] ("else if".toList ++ rest) = none := rfl
    have helif : keywordArg ['e', 'l', 'i', 'f'] ("else if".toList ++ rest) = none := rfl
    rw [hif, helif, helseIf]
  | otherwise => rfl
  | closing => rfl
  | statement hne helse hend hnone =>
    have hif : keywordArg ['i', 'f'] code = none := keywordArg_eq_none_iff.2 (hnone "if" (by simp))
    have helif : keywordArg ['e', 'l', 'i', 'f'] code = none :=
      keywordArg_eq_none_iff.2 (hnone "elif" (by simp))
    have helseIf : keywordArg ['e', 'l', 's', 'e', ' ', 'i', 'f'] code = none :=
      keywordArg_eq_none_iff.2 (hnone "else if" (by simp))
    have hnotElse : code ≠ ['e', 'l', 's', 'e'] := helse
    have hnotEnd : code ≠ ['e', 'n', 'd'] := hend
    rw [hif, helif, helseIf]
    dsimp only
    rw [if_neg hnotElse, if_neg hnotEnd, if_neg (mt List.isEmpty_iff.1 hne)]

theorem spells_ofCode (code : List Char) : Spells code (Token.ofCode code) := by
  unfold Token.ofCode
  split
  · rename_i arg h
    exact .opening (keywordArg_eq_some_iff.1 h)
  · rename_i hif
    split
    · rename_i arg h
      exact .elif (keywordArg_eq_some_iff.1 h)
    · rename_i helif
      split
      · rename_i arg h
        exact .elseIf (keywordArg_eq_some_iff.1 h)
      · rename_i helseIf
        split_ifs with helse hend hempty
        · rw [helse]
          exact .otherwise
        · rw [hend]
          exact .closing
        · rw [List.isEmpty_iff.1 hempty]
          exact .blank
        · refine .statement (mt List.isEmpty_iff.2 hempty) helse hend ?_
          simp only [List.mem_cons, List.not_mem_nil, or_false]
          rintro word (rfl | rfl | rfl)
          · exact keywordArg_eq_none_iff.1 hif
          · exact keywordArg_eq_none_iff.1 helif
          · exact keywordArg_eq_none_iff.1 helseIf

/-- Every code is read in one way only. -/
theorem spells_iff {code : List Char} {t : Token} : Spells code t ↔ Token.ofCode code = t := by
  refine ⟨Spells.ofCode_eq, ?_⟩
  rintro rfl
  exact spells_ofCode code

/-- Every piece is read in one way only. -/
theorem reads_iff {p : Piece} {t : Token} : Reads p t ↔ Token.ofPiece p = t := by
  constructor
  · intro h
    cases h with
    | literal => rfl
    | @interpolation cs escaped hne =>
      unfold Token.ofPiece
      dsimp only
      split
      · exact absurd (by assumption) hne
      · rfl
    | blankInterpolation hnil =>
      unfold Token.ofPiece
      dsimp only
      rw [hnil]
    | code h => exact spells_iff.1 h
  · rintro rfl
    cases p with
    | text cs => exact .literal
    | interpolation cs escaped =>
      unfold Token.ofPiece
      dsimp only
      split
      · exact .blankInterpolation (by assumption)
      · rename_i hne
        exact .interpolation hne
    | code cs => exact .code (spells_ofCode _)

/-! ## Section 4: Reading a text -/

/-- The words of the block language that a text reads as. -/
def Streams (cs : List Char) (ts : List Token) : Prop :=
  ∃ ps, Cuts cs ps ∧ List.Forall₂ Reads ps ts

theorem forall₂_reads_iff {ps : List Piece} {ts : List Token} :
    List.Forall₂ Reads ps ts ↔ ps.map Token.ofPiece = ts := by
  have hreads : Reads = fun p t => Token.ofPiece p = t := funext₂ fun _ _ => propext reads_iff
  rw [hreads, ← List.forall₂_eq_eq_eq, List.forall₂_map_left_iff]

/-- The literals of a text are its plain pieces. -/
theorem literal_mem_tokens_iff {cs : List Char} {text : String} :
    .literal text ∈ tokens cs ↔ .text text.toList ∈ Piece.split cs := by
  unfold tokens
  rw [List.mem_map]
  constructor
  · rintro ⟨p, hp, htok⟩
    cases reads_iff.2 htok with
    | literal =>
      rw [String.toList_ofList]
      exact hp
    | @code code _ h =>
      generalize Text.trim code = trimmed at h
      cases h
  · intro h
    exact ⟨_, h, congrArg Token.literal String.ofList_toList⟩

/-- Every text has one tag stream. -/
theorem streams_iff {cs : List Char} {ts : List Token} : Streams cs ts ↔ tokens cs = ts := by
  simp only [Streams, cuts_iff, forall₂_reads_iff, exists_eq_left']
  rfl

end Hyperfiction.Template
