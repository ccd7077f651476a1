import Hyperfiction.Proofs.Outcome
import Hyperfiction.Proofs.Template.Grammar

/-! # The texts of a template

    What a template may come to, whatever its code does: `Yields` follows the segments and
    lets an interpolation show any text and a conditional any of its lists. Every expansion
    that succeeds comes to such a text. And every such text is what some evaluator expands
    the template to: one that is told what to answer by a variable.
-/

namespace Hyperfiction.Template

variable {σ : Type}

/-! ## Section 1: Texts without code -/

/-- The segments may come to the text. -/
inductive Yields : List Segment → List Char → Prop where
  | nil : Yields [] []
  | literal {text : String} {ss : List Segment} {more : List Char} :
      Yields ss more → Yields (.literal text :: ss) (text.toList ++ more)
  /-- Any text may be shown as it is. -/
  | raw {code : String} {ss : List Segment} {more : List Char} (shown : List Char) :
      Yields ss more → Yields (.interpolation code false :: ss) (shown ++ more)
  /-- Or with entities. -/
  | escaped {code : String} {ss : List Segment} {more : List Char} (shown : List Char) :
      Yields ss more → Yields (.interpolation code true :: ss) (Entity.encode shown ++ more)
  | statement {code : String} {ss : List Segment} {more : List Char} :
      Yields ss more → Yields (.statement code :: ss) more
  /-- Any branch may be taken, or none. -/
  | conditional {branches : List (String × List Segment)} {otherwise body ss : List Segment}
      {text more : List Char} : body ∈ otherwise :: branches.map Prod.snd → Yields body text →
      Yields ss more → Yields (.conditional branches otherwise :: ss) (text ++ more)

/-! ## Section 2: Expansions come to such texts -/

section

variable {ev : Evaluator σ} {scene : Scene}

mutual

/-- What a segment expands to goes before what the segments after it may come to. -/
theorem yields_of_expandSegment : ∀ (s : Segment) {w w' : World σ} {text more : List Char}
    {ss : List Segment}, (expandSegment ev scene s).outcome w = (.ok text, w') →
    Yields ss more → Yields (s :: ss) (text ++ more)
  | .literal text, w, w', _, more, ss, h, hss => by
    unfold expandSegment at h
    obtain rfl := Except.ok.inj (Prod.mk.inj h).1
    exact .literal hss
  | .interpolation code escaped, w, w', _, more, ss, h, hss => by
    unfold expandSegment at h
    obtain ⟨v, w₁, -, h⟩ := Action.bind_eq_ok.1 h
    obtain rfl := Except.ok.inj (Prod.mk.inj h).1
    cases escaped with
    | false => exact .raw v.displayChars hss
    | true => exact .escaped v.displayChars hss
  | .statement code, w, w', _, more, ss, h, hss => by
    unfold expandSegment at h
    obtain ⟨_, w₁, -, h⟩ := Action.bind_eq_ok.1 h
    obtain rfl := Except.ok.inj (Prod.mk.inj h).1
    exact .statement hss
  | .conditional branches otherwise, w, w', _, more, ss, h, hss => by
    unfold expandSegment at h
    obtain ⟨chosen, w₁, hbranches, h⟩ := Action.bind_eq_ok.1 h
    -- the text is that of the branch taken, or of what stands after the branches
    cases chosen with
    | some text =>
      obtain rfl := Except.ok.inj (Prod.mk.inj h).1
      obtain ⟨body, hbody, hyields⟩ := yields_of_expandBranches branches hbranches
      exact .conditional (List.mem_cons_of_mem _ hbody) hyields hss
    | none =>
      have hyields := yields_of_expandSegments otherwise h
      exact .conditional List.mem_cons_self hyields hss

theorem yields_of_expandSegments : ∀ (ss : List Segment) {w w' : World σ} {text : List Char},
    (expandSegments ev scene ss).outcome w = (.ok text, w') → Yields ss text
  | [], w, w', _, h => by
    unfold expandSegments at h
    obtain rfl := Except.ok.inj (Prod.mk.inj h).1
    exact .nil
  | s :: rest, w, w', _, h => by
    unfold expandSegments at h
    obtain ⟨text, w₁, hs, h⟩ := Action.bind_eq_ok.1 h
    obtain ⟨more, w₂, hrest, h⟩ := Action.bind_eq_ok.1 h
    obtain rfl := Except.ok.inj (Prod.mk.inj h).1
    exact yields_of_expandSegment s hs (yields_of_expandSegments rest hrest)

theorem yields_of_expandBranches : ∀ (bs : List (String × List Segment)) {w w' : World σ}
    {text : List Char}, (expandBranches ev scene bs).outcome w = (.ok (some text), w') →
    ∃ body ∈ bs.map Prod.snd, Yields body text
  | [], w, w', _, h => by
    unfold expandBranches at h
    cases (Prod.mk.inj h).1
  | (condition, body) :: rest, w, w', _, h => by
    unfold expandBranches at h
    obtain ⟨v, w₁, -, h⟩ := Action.bind_eq_ok.1 h
    by_cases hv : v.truthy = true
    · rw [if_pos hv] at h
      obtain ⟨text, w₂, hbody, h⟩ := Action.bind_eq_ok.1 h
      obtain rfl := Option.some.inj (Except.ok.inj (Prod.mk.inj h).1)
      exact ⟨body, List.mem_cons_self, yields_of_expandSegments body hbody⟩
    · rw [if_neg hv] at h
      obtain ⟨later, hlater, hyields⟩ := yields_of_expandBranches rest h
      exact ⟨later, List.mem_cons_of_mem _ hlater, hyields⟩

end

end

/-! ## Section 3: Such texts are expansions -/

/-- The variables that tell an evaluator its answers. -/
def prompts (answers : List Value) : StateBag :=
  [("answers", .arr answers)]

/-- An evaluator that answers every expression with the next of the answers that it is told,
    and runs no statement. What it does depends on the variables only. -/
def prompter : Evaluator σ where
  evaluate _ code := do
    match (← get).state with
    | [(_, .arr (v :: rest))] =>
      modify fun w => { w with state := prompts rest }
      return v
    | _ => throw (.unknownIdentifier code)
  execute _ _ := pure ()

theorem evaluate_prompter (scene : Scene) (code : String) (v : Value) (rest : List Value)
    (m : σ) : (prompter.evaluate scene code).outcome ⟨prompts (v :: rest), m⟩
      = (.ok v, ⟨prompts rest, m⟩) := rfl

/-- Told the answers, the evaluator expands the segments to the text, and uses all of them
    up. -/
def Answers (σ : Type) (ss : List Segment) (text : List Char) (answers : List Value) : Prop :=
  ∀ (scene : Scene) (later : List Value) (m : σ),
    (expandSegments prompter scene ss).outcome ⟨prompts (answers ++ later), m⟩
      = (.ok text, ⟨prompts later, m⟩)

/-- Answers for a segment go before those for the segments after it. -/
theorem Answers.cons {s : Segment} {ss : List Segment} {text more : List Char}
    {first answers : List Value} (hs : ∀ (scene : Scene) (later : List Value) (m : σ),
      (expandSegment prompter scene s).outcome ⟨prompts (first ++ later), m⟩
        = (.ok text, ⟨prompts later, m⟩)) (hss : Answers σ ss more answers) :
    Answers σ (s :: ss) (text ++ more) (first ++ answers) := by
  intro scene later m
  unfold expandSegments
  rw [List.append_assoc]
  refine Action.bind_eq_ok.2 ⟨text, _, hs scene (answers ++ later) m, ?_⟩
  exact Action.bind_eq_ok.2 ⟨more, _, hss scene later m, rfl⟩

/-- One answer for an interpolation: the text that it shows. -/
theorem expandSegment_prompter (scene : Scene) (code : String) (escaped : Bool)
    (shown : List Char) (later : List Value) (m : σ) :
    (expandSegment prompter scene (.interpolation code escaped)).outcome
        ⟨prompts (.str (String.ofList shown) :: later), m⟩
      = (.ok (if escaped then Entity.encode shown else shown), ⟨prompts later, m⟩) := by
  unfold expandSegment
  refine Action.bind_eq_ok.2 ⟨_, _, evaluate_prompter scene code _ later m, ?_⟩
  have hshown : (Value.str (String.ofList shown)).displayChars = shown := by
    unfold Value.displayChars
    exact String.toList_ofList
  rw [hshown]
  rfl

/-- No branch is taken while all answers are no. -/
theorem expandBranches_refused (scene : Scene) (bs : List (String × List Segment))
    (later : List Value) (m : σ) :
    (expandBranches prompter scene bs).outcome
        ⟨prompts (List.replicate bs.length (.bool false) ++ later), m⟩
      = (.ok none, ⟨prompts later, m⟩) := by
  induction bs with
  | nil =>
    unfold expandBranches
    rfl
  | cons b bs ih =>
    obtain ⟨condition, body⟩ := b
    unfold expandBranches
    exact Action.bind_eq_ok.2 ⟨.bool false, _, evaluate_prompter scene condition _ _ m, ih⟩

/-- Any branch is taken after as many answers of no as it takes. -/
theorem exists_answers_branch {bs : List (String × List Segment)} {body : List Segment}
    {text : List Char} {answers : List Value} (hbody : body ∈ bs.map Prod.snd)
    (h : Answers σ body text answers) :
    ∃ first, ∀ (scene : Scene) (later : List Value) (m : σ),
      (expandBranches prompter scene bs).outcome ⟨prompts (first ++ later), m⟩
        = (.ok (some text), ⟨prompts later, m⟩) := by
  induction bs with
  | nil => cases hbody
  | cons b bs ih =>
    obtain ⟨condition, first⟩ := b
    rcases List.mem_cons.1 hbody with rfl | hlater
    · refine ⟨.bool true :: answers, fun scene later m => ?_⟩
      unfold expandBranches
      refine Action.bind_eq_ok.2 ⟨.bool true, _, evaluate_prompter scene condition _ _ m, ?_⟩
      exact Action.bind_eq_ok.2 ⟨text, _, h scene later m, rfl⟩
    · obtain ⟨answers', h'⟩ := ih hlater
      refine ⟨.bool false :: answers', fun scene later m => ?_⟩
      unfold expandBranches
      exact Action.bind_eq_ok.2
        ⟨.bool false, _, evaluate_prompter scene condition _ _ m, h' scene later m⟩

theorem Yields.exists_answers {ss : List Segment} {text : List Char} (h : Yields ss text) :
    ∃ answers, Answers σ ss text answers := by
  induction h with
  | nil =>
    refine ⟨[], fun scene later m => ?_⟩
    unfold expandSegments
    rfl
  | literal _ ih =>
    obtain ⟨answers, h⟩ := ih
    refine ⟨[] ++ answers, Answers.cons (fun scene later m => ?_) h⟩
    unfold expandSegment
    rfl
  | @raw code _ _ shown _ ih =>
    obtain ⟨answers, h⟩ := ih
    exact ⟨[.str (String.ofList shown)] ++ answers,
      Answers.cons (expandSegment_prompter · code false shown) h⟩
  | @escaped code _ _ shown _ ih =>
    obtain ⟨answers, h⟩ := ih
    exact ⟨[.str (String.ofList shown)] ++ answers,
      Answers.cons (expandSegment_prompter · code true shown) h⟩
  | @statement code ss more _ ih =>
    obtain ⟨answers, h⟩ := ih
    -- a statement asks for no answer and shows nothing
    have hsilent : Answers σ (.statement code :: ss) ([] ++ more) ([] ++ answers) := by
      refine Answers.cons (fun scene later m => ?_) h
      unfold expandSegment
      rfl
    exact ⟨answers, hsilent⟩
  | @conditional branches otherwise body ss text more hbody _ _ ihbody ih =>
    obtain ⟨inner, hinner⟩ := ihbody
    obtain ⟨answers, h⟩ := ih
    rcases List.mem_cons.1 hbody with rfl | hbranch
    · -- without a branch the rest is shown
      refine ⟨(List.replicate branches.length (.bool false) ++ inner) ++ answers,
        Answers.cons (fun scene later m => ?_) h⟩
      unfold expandSegment
      rw [List.append_assoc]
      exact Action.bind_eq_ok.2
        ⟨none, _, expandBranches_refused scene branches (inner ++ later) m, hinner scene later m⟩
    · obtain ⟨first, hfirst⟩ := exists_answers_branch hbranch hinner
      refine ⟨first ++ answers, Answers.cons (fun scene later m => ?_) h⟩
      unfold expandSegment
      exact Action.bind_eq_ok.2 ⟨some text, _, hfirst scene later m, rfl⟩

/-! ## Section 4: Places in a template -/

/-- What a token may come to, if it is shown. -/
inductive Token.Shows : Token → List Char → Prop where
  | literal {text : String} : Shows (.literal text) text.toList
  | raw {code : String} (shown : List Char) : Shows (.interpolation code false) shown
  | escaped {code : String} (shown : List Char) :
      Shows (.interpolation code true) (Entity.encode shown)

section

variable {P : List Char → Prop}

/-- In some text of the segments `x` is shown, and `P` holds of what is before it. -/
def ShownAfter (P : List Char → Prop) (ss : List Segment) (x : List Char) : Prop :=
  ∃ before after, P before ∧ Yields ss (before ++ x ++ after)

/-- `P` holds of some text of the segments, and whatever one of the tokens may come to is
    shown after a text of which `P` holds. -/
structure ShowsEach (P : List Char → Prop) (ss : List Segment) (ts : List Token) : Prop where
  some : ∃ text, P text ∧ Yields ss text
  each : ∀ tok ∈ ts, ∀ x, tok.Shows x → ShownAfter P ss x

/-- What a segment comes to goes before what the others do. -/
theorem ShownAfter.cons {s : Segment} {ss : List Segment} {text x : List Char}
    (happend : ∀ l r, P l → P r → P (l ++ r)) (htext : P text)
    (hs : ∀ more, Yields ss more → Yields (s :: ss) (text ++ more)) (h : ShownAfter P ss x) :
    ShownAfter P (s :: ss) x := by
  obtain ⟨before, after, hbefore, hyields⟩ := h
  refine ⟨text ++ before, after, happend _ _ htext hbefore, ?_⟩
  have hrow : text ++ before ++ x ++ after = text ++ (before ++ x ++ after) := by simp
  rw [hrow]
  exact hs _ hyields

/-- What is shown in a list of a conditional is shown when that list is taken. -/
theorem ShownAfter.conditional {branches : List (String × List Segment)}
    {otherwise body ss : List Segment} {x more : List Char}
    (hbody : body ∈ otherwise :: branches.map Prod.snd) (hmore : Yields ss more)
    (h : ShownAfter P body x) : ShownAfter P (.conditional branches otherwise :: ss) x := by
  obtain ⟨before, after, hbefore, hyields⟩ := h
  refine ⟨before, after ++ more, hbefore, ?_⟩
  rw [← List.append_assoc]
  exact .conditional hbody hyields hmore

/-- A token and the segment that it stands for, in front of others. -/
theorem ShowsEach.cons {s : Segment} {ss : List Segment} {tok : Token} {ts : List Token}
    {text : List Char} (hnil : P []) (happend : ∀ l r, P l → P r → P (l ++ r)) (htext : P text)
    (hs : ∀ more, Yields ss more → Yields (s :: ss) (text ++ more))
    (htok : ∀ x, tok.Shows x → ∀ more, Yields ss more → Yields (s :: ss) (x ++ more))
    (h : ShowsEach P ss ts) : ShowsEach P (s :: ss) (tok :: ts) := by
  obtain ⟨rest, hrest, hyields⟩ := h.some
  refine ⟨⟨text ++ rest, happend _ _ htext hrest, hs rest hyields⟩, ?_⟩
  intro t ht x hx
  rcases List.mem_cons.1 ht with rfl | ht
  · exact ⟨[], rest, hnil, htok x hx rest hyields⟩
  · exact (h.each t ht x hx).cons happend htext hs

/-- The tokens of a conditional, in front of others: its first branch is taken, or the list
    where something is to be shown. -/
theorem ShowsEach.conditional {c : String} {first otherwise ss : List Segment}
    {branches : List (String × List Segment)} {body rest ts : List Token}
    (happend : ∀ l r, P l → P r → P (l ++ r)) (hfirst : ShowsEach P first body)
    (hrest : ∀ tok ∈ rest, ∀ x, tok.Shows x →
      ∃ list ∈ otherwise :: branches.map Prod.snd, ShownAfter P list x)
    (h : ShowsEach P ss ts) :
    ShowsEach P (.conditional ((c, first) :: branches) otherwise :: ss)
      (.opening c :: (body ++ rest) ++ ts) := by
  have htaken : first ∈ otherwise :: ((c, first) :: branches).map Prod.snd := by simp
  obtain ⟨inner, hinner, hyieldsInner⟩ := hfirst.some
  obtain ⟨outer, houter, hyieldsOuter⟩ := h.some
  refine ⟨⟨inner ++ outer, happend _ _ hinner houter,
    .conditional htaken hyieldsInner hyieldsOuter⟩, ?_⟩
  intro tok htok x hx
  rcases List.mem_append.1 htok with htok | htok
  · rcases List.mem_cons.1 htok with rfl | htok
    · cases hx
    · rcases List.mem_append.1 htok with htok | htok
      · exact (hfirst.each tok htok x hx).conditional htaken hyieldsOuter
      · obtain ⟨list, hlist, hshown⟩ := hrest tok htok x hx
        have hlist' : list ∈ otherwise :: ((c, first) :: branches).map Prod.snd := by
          rw [List.map_cons]
          rcases List.mem_cons.1 hlist with rfl | hlist
          · exact List.mem_cons_self
          · exact List.mem_cons_of_mem _ (List.mem_cons_of_mem _ hlist)
        exact hshown.conditional hlist' hyieldsOuter
  · exact (h.each tok htok x hx).cons happend hinner
      fun more hmore => .conditional htaken hyieldsInner hmore

/-- What is said of a part: all that its tokens may come to is shown, in the segments of a
    block, and in one of the lists that the rest of a conditional adds. -/
def Part.IsShown (P : List Char → Prop) : Part → List Token → Prop
  | .block ss, ts => ShowsEach P ss ts
  | .rest branches otherwise, ts => ∀ tok ∈ ts, ∀ x, tok.Shows x →
      ∃ list ∈ otherwise :: branches.map Prod.snd, ShownAfter P list x

/-- **Every place in a template can be shown.** Whatever a token may come to, at any depth,
    is in some text of the template, after a text of which `P` holds, if `P` holds of the
    literals and of texts in a row of which it holds. -/
theorem Derives.isShown (hnil : P []) (happend : ∀ l r, P l → P r → P (l ++ r))
    {ts : List Token} {part : Part} (h : Derives ts part)
    (hliterals : ∀ text, .literal text ∈ ts → P text.toList) : part.IsShown P ts := by
  induction h with
  | nothing => exact ⟨⟨[], hnil, .nil⟩, fun tok htok => by cases htok⟩
  | @literal text ts ss _ ih =>
    have hrest := ih fun t ht => hliterals t (List.mem_cons_of_mem _ ht)
    refine hrest.cons hnil happend (hliterals text List.mem_cons_self) (fun _ => .literal) ?_
    rintro x ⟨⟩ more hmore
    exact .literal hmore
  | @interpolation code escaped ts ss _ ih =>
    have hrest := ih fun t ht => hliterals t (List.mem_cons_of_mem _ ht)
    -- it may show any text, and shows none while another token is to be shown
    have hany : ∀ x, (Token.interpolation code escaped).Shows x → ∀ more, Yields ss more →
        Yields (.interpolation code escaped :: ss) (x ++ more) := by
      intro x hx more hmore
      cases hx with
      | raw => exact .raw x hmore
      | escaped shown => exact .escaped shown hmore
    have hnone : (Token.interpolation code escaped).Shows [] := by
      cases escaped with
      | false => exact .raw []
      | true => exact .escaped []
    exact hrest.cons hnil happend hnil (hany [] hnone) hany
  | blankCode _ ih =>
    have hrest := ih fun t ht => hliterals t (List.mem_cons_of_mem _ ht)
    refine ⟨hrest.some, fun tok htok x hx => ?_⟩
    rcases List.mem_cons.1 htok with rfl | htok
    · cases hx
    · exact hrest.each tok htok x hx
  | statement _ ih =>
    have hrest := ih fun t ht => hliterals t (List.mem_cons_of_mem _ ht)
    exact hrest.cons hnil happend hnil (fun _ => .statement) fun x hx => by cases hx
  | conditional _ _ _ ihfirst ihrest ih =>
    -- the literals of each of its three parts are literals of the whole
    refine .conditional happend (ihfirst fun t ht => hliterals t ?_)
      (ihrest fun t ht => hliterals t ?_) (ih fun t ht => hliterals t ?_)
    · exact List.mem_append_left _ (List.mem_cons_of_mem _ (List.mem_append_left _ ht))
    · exact List.mem_append_left _ (List.mem_cons_of_mem _ (List.mem_append_right _ ht))
    · exact List.mem_append_right _ ht
  | @alternative c body rest next otherwise branches _ _ ihnext ihrest =>
    have hnext := ihnext fun t ht => hliterals t
      (List.mem_cons_of_mem _ (List.mem_append_left _ ht))
    have hrest := ihrest fun t ht => hliterals t
      (List.mem_cons_of_mem _ (List.mem_append_right _ ht))
    intro tok htok x hx
    rw [List.map_cons]
    rcases List.mem_cons.1 htok with rfl | htok
    · cases hx
    · rcases List.mem_append.1 htok with htok | htok
      · exact ⟨next, List.mem_cons_of_mem _ List.mem_cons_self, hnext.each tok htok x hx⟩
      · obtain ⟨list, hlist, hshown⟩ := hrest tok htok x hx
        rcases List.mem_cons.1 hlist with rfl | hlist
        · exact ⟨list, List.mem_cons_self, hshown⟩
        · exact ⟨list, List.mem_cons_of_mem _ (List.mem_cons_of_mem _ hlist), hshown⟩
  | @otherwise body ss _ ih =>
    have hbody := ih fun t ht => hliterals t
      (List.mem_cons_of_mem _ (List.mem_append_left _ ht))
    intro tok htok x hx
    rcases List.mem_cons.1 htok with rfl | htok
    · cases hx
    · rcases List.mem_append.1 htok with htok | htok
      · exact ⟨ss, List.mem_cons_self, hbody.each tok htok x hx⟩
      · obtain rfl := List.mem_singleton.1 htok
        cases hx
  | closing =>
    intro tok htok x hx
    obtain rfl := List.mem_singleton.1 htok
    cases hx

end

end Hyperfiction.Template
