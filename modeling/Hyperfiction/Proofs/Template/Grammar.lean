import Hyperfiction.Proofs.Template.Stream

/-! # The block grammar

    A template is a row of texts, interpolations, statements and conditionals:

      Block ::= (text | interpolation | blank code | statement
                | `if` Block Rest)*
      Rest  ::= `elif` Block Rest | `else` Block `end` | `end`

    The parser knows nothing of this grammar. It reads the tokens once, from left to
    right, with a stack of open blocks. The two agree in both directions: reading what is
    derived from `Block` adds its segments and leaves the stack as it was; and what empties
    the stack falls into a derived part for every block on it.
-/

namespace Hyperfiction.Template

/-! ## Section 1: The grammar -/

/-- What tokens are derived from, with the trees that they stand for. -/
inductive Part where
  | block (segments : List Segment)
  /-- The rest of a conditional after the block of a branch: the branches that are left,
      what is shown otherwise, and the end. -/
  | rest (branches : List (String × List Segment)) (otherwise : List Segment)

/-- The tokens are derived from the part. -/
inductive Derives : List Token → Part → Prop where
  | nothing : Derives [] (.block [])
  | literal {text : String} {ts : List Token} {ss : List Segment} :
      Derives ts (.block ss) → Derives (.literal text :: ts) (.block (.literal text :: ss))
  | interpolation {code : String} {escaped : Bool} {ts : List Token} {ss : List Segment} :
      Derives ts (.block ss) →
      Derives (.interpolation code escaped :: ts) (.block (.interpolation code escaped :: ss))
  | blankCode {ts : List Token} {ss : List Segment} :
      Derives ts (.block ss) → Derives (.blankCode :: ts) (.block ss)
  | statement {code : String} {ts : List Token} {ss : List Segment} :
      Derives ts (.block ss) → Derives (.statement code :: ts) (.block (.statement code :: ss))
  | conditional {c : String} {body rest ts : List Token} {first otherwise ss : List Segment}
      {branches : List (String × List Segment)} :
      Derives body (.block first) → Derives rest (.rest branches otherwise) →
      Derives ts (.block ss) →
      Derives (.opening c :: (body ++ rest) ++ ts)
        (.block (.conditional ((c, first) :: branches) otherwise :: ss))
  | alternative {c : String} {body rest : List Token} {next otherwise : List Segment}
      {branches : List (String × List Segment)} :
      Derives body (.block next) → Derives rest (.rest branches otherwise) →
      Derives (.alternative c :: (body ++ rest)) (.rest ((c, next) :: branches) otherwise)
  | otherwise {body : List Token} {ss : List Segment} :
      Derives body (.block ss) → Derives (.otherwise :: (body ++ [.closing])) (.rest [] ss)
  | closing : Derives [.closing] (.rest [] [])

/-! ## Section 2: Reading tokens -/

/-- What reading one token can do, if it does not fail. -/
inductive Steps : Nesting → Token → Nesting → Prop where
  | literal {current : List Segment} {blocks : List OpenBlock} {text : String} :
      Steps ⟨current, blocks⟩ (.literal text) ⟨current ++ [.literal text], blocks⟩
  | interpolation {current : List Segment} {blocks : List OpenBlock} {code : String}
      {escaped : Bool} : Steps ⟨current, blocks⟩ (.interpolation code escaped)
        ⟨current ++ [.interpolation code escaped], blocks⟩
  | statement {current : List Segment} {blocks : List OpenBlock} {code : String} :
      Steps ⟨current, blocks⟩ (.statement code) ⟨current ++ [.statement code], blocks⟩
  | blankCode {n : Nesting} : Steps n .blankCode n
  | opening {current : List Segment} {blocks : List OpenBlock} {c : String} :
      Steps ⟨current, blocks⟩ (.opening c) ⟨[], ⟨current, [], some c⟩ :: blocks⟩
  | alternative {current before : List Segment} {complete : List (String × List Segment)}
      {last c : String} {blocks : List OpenBlock} :
      Steps ⟨current, ⟨before, complete, some last⟩ :: blocks⟩ (.alternative c)
        ⟨[], ⟨before, complete ++ [(last, current)], some c⟩ :: blocks⟩
  | otherwise {current before : List Segment} {complete : List (String × List Segment)}
      {last : String} {blocks : List OpenBlock} :
      Steps ⟨current, ⟨before, complete, some last⟩ :: blocks⟩ .otherwise
        ⟨[], ⟨before, complete ++ [(last, current)], none⟩ :: blocks⟩
  | closing {current : List Segment} {b : OpenBlock} {blocks : List OpenBlock} :
      Steps ⟨current, b :: blocks⟩ .closing ⟨b.before ++ [b.close current], blocks⟩

namespace Nesting

theorem steps_of_step {n n' : Nesting} {t : Token} (h : n.step t = .ok n') : Steps n t n' := by
  obtain ⟨current, blocks⟩ := n
  cases t with
  | literal | interpolation | statement | blankCode | opening =>
    obtain rfl := Except.ok.inj h
    constructor
  | blankInterpolation => cases h
  | alternative | otherwise =>
    match blocks, h with
    | ⟨_, _, some _⟩ :: _, h =>
      obtain rfl := Except.ok.inj h
      constructor
  | closing =>
    match blocks, h with
    | _ :: _, h =>
      obtain rfl := Except.ok.inj h
      constructor

theorem run_cons {n n' : Nesting} {t : Token} (h : n.step t = .ok n') (ts : List Token) :
    n.run (t :: ts) = n'.run ts := by
  rw [run, h]

theorem run_append {n n' : Nesting} {ts : List Token} (h : n.run ts = .ok n')
    (more : List Token) : n.run (ts ++ more) = n'.run more := by
  induction ts generalizing n with
  | nil =>
    obtain rfl := Except.ok.inj h
    rfl
  | cons t ts ih =>
    rw [run] at h
    split at h
    · cases h
    · rename_i n₁ hstep
      rw [List.cons_append, run_cons hstep, ih h]

/-- Tokens that are read to the end have been read up to any place in them. -/
theorem exists_run_of_run_append {n n' : Nesting} {ts more : List Token}
    (h : n.run (ts ++ more) = .ok n') : ∃ m, n.run ts = .ok m ∧ m.run more = .ok n' := by
  induction ts generalizing n with
  | nil => exact ⟨n, rfl, h⟩
  | cons t ts ih =>
    rw [List.cons_append, run] at h
    split at h
    · cases h
    · rename_i n₁ hstep
      rw [run_cons hstep]
      exact ih h

theorem exists_steps_of_run_cons {n n' : Nesting} {t : Token} {ts : List Token}
    (h : n.run (t :: ts) = .ok n') : ∃ m, Steps n t m ∧ m.run ts = .ok n' := by
  rw [run] at h
  split at h
  · cases h
  · rename_i m hstep
    exact ⟨m, steps_of_step hstep, h⟩

end Nesting

/-! ## Section 3: What is derived is read -/

/-- What reading tokens derived from the part comes to, wherever it is done: a block adds
    its segments to the list being read; the rest of a conditional closes the innermost
    block. -/
def Part.IsRead : Part → List Token → Prop
  | .block ss, ts => ∀ current blocks,
      Nesting.run ⟨current, blocks⟩ ts = .ok ⟨current ++ ss, blocks⟩
  | .rest branches otherwise, ts => ∀ before complete c current blocks,
      Nesting.run ⟨current, ⟨before, complete, some c⟩ :: blocks⟩ ts
        = .ok ⟨before ++ [.conditional (complete ++ (c, current) :: branches) otherwise], blocks⟩

theorem Derives.isRead {ts : List Token} {p : Part} (h : Derives ts p) : p.IsRead ts := by
  induction h with
  | nothing =>
    intro current blocks
    rw [List.append_nil]
    rfl
  | literal _ ih | interpolation _ ih | statement _ ih =>
    intro current blocks
    rw [Nesting.run_cons rfl]
    refine (ih _ blocks).trans ?_
    rw [List.append_assoc]
    rfl
  | blankCode _ ih =>
    intro current blocks
    exact (Nesting.run_cons rfl _).trans (ih current blocks)
  | @conditional c body rest ts first otherwise ss branches _ _ _ ihfirst ihrest ih =>
    intro current blocks
    have hbody := ihfirst [] (⟨current, [], some c⟩ :: blocks)
    have hrest := ihrest current [] c first blocks
    rw [List.cons_append, Nesting.run_cons rfl, List.append_assoc, Nesting.run_append hbody,
      List.nil_append, Nesting.run_append hrest]
    refine (ih _ blocks).trans ?_
    rw [List.append_assoc]
    rfl
  | @alternative c' body rest next otherwise branches _ _ ihnext ihrest =>
    intro before complete c current blocks
    have hbody := ihnext [] (⟨before, complete ++ [(c, current)], some c'⟩ :: blocks)
    have hrest := ihrest before (complete ++ [(c, current)]) c' next blocks
    rw [Nesting.run_cons rfl, Nesting.run_append hbody, List.nil_append, hrest,
      List.append_assoc]
    rfl
  | @otherwise body ss _ ih =>
    intro before complete c current blocks
    have hbody := ih [] (⟨before, complete ++ [(c, current)], none⟩ :: blocks)
    rw [Nesting.run_cons rfl, Nesting.run_append hbody]
    rfl
  | closing =>
    intro before complete c current blocks
    rfl

/-! ## Section 4: What is read is derived -/

/-- The tokens close a block whose last list is `last`, which comes to the segment. -/
inductive Closes (last : List Segment) : OpenBlock → List Token → Segment → Prop where
  | branch {before otherwise : List Segment} {complete branches : List (String × List Segment)}
      {c : String} {ts : List Token} : Derives ts (.rest branches otherwise) →
      Closes last ⟨before, complete, some c⟩ ts
        (.conditional (complete ++ (c, last) :: branches) otherwise)
  | otherwise {before : List Segment} {complete : List (String × List Segment)} :
      Closes last ⟨before, complete, none⟩ [.closing] (.conditional complete last)

/-- The tokens complete what has been read so far to the template: a block and what closes
    it, for every block that is open, and a block at the end. -/
inductive Completes : Nesting → List Token → Template → Prop where
  | last {current ss : List Segment} {ts : List Token} :
      Derives ts (.block ss) → Completes ⟨current, []⟩ ts (current ++ ss)
  | inner {current ss : List Segment} {b : OpenBlock} {blocks : List OpenBlock}
      {body rest more : List Token} {s : Segment} {t : Template} :
      Derives body (.block ss) → Closes (current ++ ss) b rest s →
      Completes ⟨b.before ++ [s], blocks⟩ more t →
      Completes ⟨current, b :: blocks⟩ (body ++ (rest ++ more)) t

/-- Tokens that begin a block with segments may have been read already. -/
theorem Completes.prepend {current start : List Segment} {blocks : List OpenBlock}
    {ts : List Token} {t : Template} (first : List Token)
    (hfirst : ∀ us ss, Derives us (.block ss) → Derives (first ++ us) (.block (start ++ ss)))
    (h : Completes ⟨current ++ start, blocks⟩ ts t) :
    Completes ⟨current, blocks⟩ (first ++ ts) t := by
  cases h with
  | last hd =>
    rw [List.append_assoc]
    exact .last (hfirst _ _ hd)
  | inner hd hc hmore =>
    rw [List.append_assoc] at hc
    rw [← List.append_assoc]
    exact .inner (hfirst _ _ hd) hc hmore

theorem Completes.close {current : List Segment} {b : OpenBlock} {blocks : List OpenBlock}
    {ts more : List Token} {s : Segment} {t : Template} (hc : Closes current b ts s)
    (h : Completes ⟨b.before ++ [s], blocks⟩ more t) :
    Completes ⟨current, b :: blocks⟩ (ts ++ more) t := by
  rw [← List.append_nil current] at hc
  exact .inner .nothing hc h

/-- A token that is read goes before the tokens that complete what has been read then. -/
theorem Completes.step {n n' : Nesting} {tok : Token} {ts : List Token} {t : Template}
    (hstep : Steps n tok n') (h : Completes n' ts t) : Completes n (tok :: ts) t := by
  cases hstep with
  | @literal _ _ text => exact h.prepend [.literal text] fun _ _ => .literal
  | @interpolation _ _ code escaped =>
    exact h.prepend [.interpolation code escaped] fun _ _ => .interpolation
  | @statement _ _ code => exact h.prepend [.statement code] fun _ _ => .statement
  | blankCode =>
    obtain ⟨current, blocks⟩ := n
    rw [← List.append_nil current] at h
    exact h.prepend [.blankCode] fun _ _ => .blankCode
  | @opening _ _ c =>
    cases h with
    | inner hbody hc hmore =>
      cases hc with
      | branch hrest =>
        rw [← List.append_assoc]
        exact hmore.prepend (.opening c :: (_ ++ _)) fun _ _ => .conditional hbody hrest
  | alternative =>
    cases h with
    | inner hbody hc hmore =>
      cases hc with
      | branch hrest =>
        rw [List.append_assoc] at hmore
        rw [← List.append_assoc]
        exact .close (.branch (.alternative hbody hrest)) hmore
  | otherwise =>
    cases h with
    | inner hbody hc hmore =>
      cases hc with
      | otherwise =>
        rw [← List.append_assoc]
        exact .close (.branch (.otherwise hbody)) hmore
  | @closing _ b =>
    obtain ⟨before, complete, condition⟩ := b
    cases condition with
    | none => exact .close .otherwise h
    | some last => exact .close (.branch .closing) h

theorem Completes.of_run {n n' : Nesting} {ts : List Token} (hrun : n.run ts = .ok n')
    (hclosed : n'.blocks = []) : Completes n ts n'.current := by
  induction ts generalizing n with
  | nil =>
    obtain rfl := Except.ok.inj hrun
    obtain ⟨current, blocks⟩ := n
    obtain rfl : blocks = [] := hclosed
    have h : Completes ⟨current, []⟩ [] (current ++ []) := .last .nothing
    rwa [List.append_nil] at h
  | cons t ts ih =>
    obtain ⟨m, hstep, hrest⟩ := Nesting.exists_steps_of_run_cons hrun
    exact .step hstep (ih hrest)

/-- The parser nests exactly the derived blocks, to the trees that they stand for. -/
theorem nest_eq_ok_iff {ts : List Token} {t : Template} :
    nest ts = .ok t ↔ Derives ts (.block t) := by
  constructor
  · intro h
    unfold nest at h
    split at h
    · cases h
    · rename_i n hrun
      split_ifs at h with hclosed
      obtain rfl := Except.ok.inj h
      cases Completes.of_run hrun (List.isEmpty_iff.1 hclosed) with
      | last hd => exact hd
  · intro h
    have hrun : Nesting.start.run ts = .ok ⟨t, []⟩ := h.isRead [] []
    unfold nest
    rw [hrun]
    rfl

/-! ## Section 5: Blocks that are open -/

/-- The token opens a block. -/
def Token.opens : Token → Bool
  | .opening _ => true
  | _ => false

/-- The token begins another list of the block that it stands in. -/
def Token.continues : Token → Bool
  | .alternative _ | .otherwise => true
  | _ => false

/-- Blocks are opened and closed as they should be: what holds of all derived tokens, at
    any depth. -/
structure WellNested (ts : List Token) : Prop where
  /-- No interpolation is blank. -/
  filled : .blankInterpolation ∉ ts
  /-- At every `elif`, `else` and `end`, a block is open. -/
  inside : ∀ before t after, ts = before ++ t :: after → t.continues = true ∨ t = .closing →
    before.count .closing < before.countP Token.opens
  /-- After `else` and the block that follows, the conditional has no other list. -/
  ordered : ∀ before body ss t after, ts = before ++ .otherwise :: (body ++ t :: after) →
    Derives body (.block ss) → t.continues = false
  /-- No block is left open. -/
  closed : ts.count .closing = ts.countP Token.opens

namespace Nesting

/-- A token opens a block, closes one, or leaves them as many as they are. -/
theorem blocks_of_steps {n n' : Nesting} {t : Token} (h : Steps n t n') :
    n'.blocks.length + [t].count .closing = n.blocks.length + [t].countP Token.opens := by
  cases h <;> rfl

theorem run_blocks {n n' : Nesting} {ts : List Token} (h : n.run ts = .ok n') :
    n'.blocks.length + ts.count .closing = n.blocks.length + ts.countP Token.opens := by
  induction ts generalizing n with
  | nil =>
    obtain rfl := Except.ok.inj h
    rfl
  | cons t ts ih =>
    obtain ⟨m, hstep, hrest⟩ := exists_steps_of_run_cons h
    have hfirst := blocks_of_steps hstep
    have hlater := ih hrest
    rw [← List.singleton_append, List.count_append, List.countP_append]
    omega

/-- An `elif`, `else` or `end` that can be read stands in a block. -/
theorem blocks_ne_nil_of_steps {n n' : Nesting} {t : Token} (h : Steps n t n')
    (ht : t.continues = true ∨ t = .closing) : n.blocks ≠ [] := by
  cases h with
  | alternative | otherwise | closing => exact List.cons_ne_nil _ _
  | literal | interpolation | statement | blankCode | opening => simp [Token.continues] at ht

end Nesting

theorem Derives.wellNested {ts : List Token} {t : Template} (h : Derives ts (.block t)) :
    WellNested ts := by
  have hrun : Nesting.start.run ts = .ok ⟨t, []⟩ := h.isRead [] []
  refine ⟨?_, ?_, ?_, ?_⟩
  · intro hmem
    obtain ⟨before, after, rfl⟩ := List.append_of_mem hmem
    obtain ⟨n, -, hrest⟩ := Nesting.exists_run_of_run_append hrun
    cases hrest
  · rintro before t after rfl ht
    obtain ⟨n, hbefore, hrest⟩ := Nesting.exists_run_of_run_append hrun
    obtain ⟨m, hstep, -⟩ := Nesting.exists_steps_of_run_cons hrest
    have hopen := List.length_pos_iff.2 (Nesting.blocks_ne_nil_of_steps hstep ht)
    have hcount := Nesting.run_blocks hbefore
    simp only [Nesting.start, List.length_nil] at hcount
    omega
  · rintro before body ss t after rfl hbody
    obtain ⟨n, -, hrest⟩ := Nesting.exists_run_of_run_append hrun
    obtain ⟨m, hstep, hrest⟩ := Nesting.exists_steps_of_run_cons hrest
    obtain ⟨m', hread, hrest⟩ := Nesting.exists_run_of_run_append hrest
    obtain ⟨m'', hnext, -⟩ := Nesting.exists_steps_of_run_cons hrest
    cases hstep with
    | otherwise =>
      -- the block in between leaves the stack alone, with no condition on top
      obtain rfl := Except.ok.inj ((hbody.isRead _ _).symm.trans hread)
      cases hnext <;> rfl
  · have hcount := Nesting.run_blocks hrun
    simp only [Nesting.start, List.length_nil] at hcount
    omega

/-! ## Section 6: The texts that are templates -/

/-- **The parser accepts exactly the block grammar.** Every text has one tag stream. The
    parser gives the tree that the stream is derived with, if it is derived from `Block`
    at all, and else an error. Of the streams that are derived none has a blank
    interpolation, an `elif` or another `else` after `else`, an `elif`, `else` or `end`
    outside of a block, or a block that is left open, at any depth. -/
theorem parse_accepts_iff (text : String) :
    ∃ ts, (∀ ts', Streams text.toList ts' ↔ ts' = ts) ∧
      (∀ t, parse text = .ok t ↔ Derives ts (.block t)) ∧
      ((∃ e, parse text = .error e) ↔ ¬ ∃ t, Derives ts (.block t)) ∧
      ((∃ t, Derives ts (.block t)) → WellNested ts) := by
  have hparse : ∀ t, parse text = .ok t ↔ Derives (tokens text.toList) (.block t) :=
    fun _ => nest_eq_ok_iff
  refine ⟨tokens text.toList, fun _ => streams_iff.trans eq_comm, hparse, ?_, ?_⟩
  · constructor
    · rintro ⟨e, he⟩ ⟨t, ht⟩
      rw [(hparse t).2 ht] at he
      cases he
    · intro hnone
      cases h : parse text with
      | error e => exact ⟨e, rfl⟩
      | ok t => exact absurd ⟨t, (hparse t).1 h⟩ hnone
  · rintro ⟨t, ht⟩
    exact ht.wellNested

/-- The block after `else` hides nothing: what follows it is still inside of `else`. -/
example : parse "<% if a %><% else %><% if b %><% end %><% elif c %><% end %>"
    = .error .alternativeAfterOtherwise := by cbv

end Hyperfiction.Template
