import Hyperfiction.Link
import Hyperfiction.Proofs.Text.Delimiter

/-! # Cutting a text at its links

    Which text is the body of a link: one without a line break, closed by the first `]]`
    after the brackets that open it. From this come three equations for the links of a text,
    one for the end, one for a link and one for a character that begins none, and an
    induction that follows them. The links of two texts in a row are those of the one and
    those of the other, if the first leaves nothing open that the second could close.
-/

namespace Hyperfiction.LinkPiece

/-! ## Section 1: Bodies -/

/-- The text can stand between the brackets of a link: it is on one line, and what closes
    the link is the first `]]` after it begins. -/
structure IsBody (b : List Char) : Prop where
  oneLine : '\n' ∉ b
  shortest : ¬ [']', ']'] <:+: b ++ [']']

instance (b : List Char) : Decidable (IsBody b) :=
  decidable_of_iff ('\n' ∉ b ∧ ¬ [']', ']'] <:+: b ++ [']'])
    ⟨fun h => ⟨h.1, h.2⟩, fun h => ⟨h.oneLine, h.shortest⟩⟩

theorem isBody_nil : IsBody [] := by decide

/-- The end of a body is a body. -/
theorem IsBody.of_append {l b : List Char} (h : IsBody (l ++ b)) : IsBody b where
  oneLine := fun hb => h.oneLine (List.mem_append_right l hb)
  shortest := fun hpair => h.shortest (by
    rw [List.append_assoc]
    exact hpair.trans (List.suffix_append l _).isInfix)

/-- A body begins with any character that does not make it end at once. -/
theorem isBody_cons {c : Char} {b : List Char} :
    IsBody (c :: b) ↔ c ≠ '\n' ∧ ¬ (c = ']' ∧ (b ++ [']']).head? = some ']') ∧ IsBody b := by
  constructor
  · intro h
    refine ⟨?_, ?_, h.of_append (l := [c])⟩
    · rintro rfl
      exact h.oneLine List.mem_cons_self
    · rintro ⟨rfl, hhead⟩
      exact h.shortest (Text.pair_infix_cons.2 (.inl ⟨rfl, hhead⟩))
  · rintro ⟨hline, hhere, hb⟩
    refine ⟨?_, ?_⟩
    · rw [List.mem_cons, not_or]
      exact ⟨hline.symm, hb.oneLine⟩
    · rw [List.cons_append, Text.pair_infix_cons]
      rintro (⟨rfl, hhead⟩ | hlater)
      · exact hhere ⟨rfl, hhead⟩
      · exact hb.shortest hlater

/-- A text that ends otherwise than with a bracket is a body if it is on one line and holds
    no `]]`. -/
theorem isBody_of_not_pair {b : List Char} (hline : '\n' ∉ b) (hpair : ¬ [']', ']'] <:+: b)
    (hlast : b.getLast? ≠ some ']') : IsBody b where
  oneLine := hline
  shortest := by
    rw [Text.pair_infix_append]
    rintro (h | h | ⟨h, -⟩)
    · exact hpair h
    · simp [Text.pair_infix_cons] at h
    · exact hlast h

/-- The body that is read is the shortest one, on one line. -/
theorem isBody_of_readBody {cs b r : List Char} (h : readBody cs = some (b, r)) : IsBody b := by
  fun_induction readBody cs generalizing b r with
  | case1 => cases h
  | case2 =>
    obtain ⟨rfl, rfl⟩ := Prod.mk.inj (Option.some.inj h)
    exact isBody_nil
  | case3 => cases h
  | case4 c cs hclose hline ih =>
    obtain ⟨⟨b', r'⟩, hread, he⟩ := Option.map_eq_some_iff.1 h
    obtain ⟨rfl, rfl⟩ := Prod.mk.inj he
    refine isBody_cons.2 ⟨hline, ?_, ih hread⟩
    rintro ⟨rfl, hhead⟩
    -- the text goes on as the body does, so it would be closed here already
    rw [eq_of_readBody hread] at hclose
    cases b' with
    | nil => exact hclose _ rfl rfl
    | cons d b' =>
      obtain rfl : d = ']' := Option.some.inj hhead
      exact hclose _ rfl rfl

theorem readBody_append_close {b : List Char} (h : IsBody b) (r : List Char) :
    readBody (b ++ ']' :: ']' :: r) = some (b, r) := by
  induction b with
  | nil => rfl
  | cons c b ih =>
    obtain ⟨hline, hhere, hb⟩ := isBody_cons.1 h
    rw [List.cons_append, readBody]
    · rw [if_neg hline, ih hb]
      rfl
    · -- a bracket here and one after it would have closed the body
      rintro cs rfl heq
      refine hhere ⟨rfl, ?_⟩
      cases b with
      | nil => rfl
      | cons d b => exact congrArg List.head? heq

/-- Which body is read, and what follows it. -/
theorem readBody_eq_some_iff {cs b r : List Char} :
    readBody cs = some (b, r) ↔ IsBody b ∧ cs = b ++ ']' :: ']' :: r := by
  constructor
  · intro h
    exact ⟨isBody_of_readBody h, eq_of_readBody h⟩
  · rintro ⟨hb, rfl⟩
    exact readBody_append_close hb r

/-! ## Section 2: The links of a text -/

/-- The body of the link that the text begins with, and what follows the link. -/
def readLink? : List Char → Option (List Char × List Char)
  | '[' :: '[' :: cs => readBody cs
  | _ => none

/-- The link markup with a body. -/
def markup (b : List Char) : List Char :=
  '[' :: '[' :: (b ++ [']', ']'])

theorem readLink?_markup_append {b : List Char} (h : IsBody b) (r : List Char) :
    readLink? (markup b ++ r) = some (b, r) := by
  have hread := readBody_append_close h r
  simpa [markup, readLink?] using hread

theorem eq_of_readLink? {cs b r : List Char} (h : readLink? cs = some (b, r)) :
    IsBody b ∧ cs = markup b ++ r := by
  unfold readLink? at h
  split at h
  · obtain ⟨hb, rfl⟩ := readBody_eq_some_iff.1 h
    exact ⟨hb, by simp [markup]⟩
  · cases h

theorem length_readLink? {cs b r : List Char} (h : readLink? cs = some (b, r)) :
    r.length < cs.length := by
  rw [(eq_of_readLink? h).2, markup]
  simp only [List.length_append, List.length_cons]
  omega

theorem cutFrom_link {cs b r : List Char} (h : readLink? cs = some (b, r))
    (before : List Char) :
    cutFrom before cs = literals before.reverse ++ .body b :: cut r := by
  unfold readLink? at h
  split at h
  · rw [cutFrom]
    split
    · rename_i b' r' hread
      obtain ⟨rfl, rfl⟩ := Prod.mk.inj (Option.some.inj (hread.symm.trans h))
      rfl
    · rename_i hnone
      cases hnone.symm.trans h
  · cases h

theorem cutFrom_skip {c : Char} {cs : List Char} (h : readLink? (c :: cs) = none)
    (before : List Char) : cutFrom before (c :: cs) = cutFrom (c :: before) cs := by
  by_cases hopen : ∃ cs', c :: cs = '[' :: '[' :: cs'
  · -- brackets that no body follows: only the first of them is passed over
    obtain ⟨cs', hcs⟩ := hopen
    obtain ⟨rfl, rfl⟩ := List.cons.inj hcs
    rw [cutFrom]
    split
    · rename_i hread
      cases h.symm.trans hread
    · rfl
  · rw [cutFrom]
    rintro cs' rfl rfl
    exact hopen ⟨cs', rfl⟩

/-- **Induction along a text**: at its end, at a link, and at a character that begins no
    link. -/
theorem link_induction {motive : List Char → Prop} (nil : motive [])
    (link : ∀ cs b r, readLink? cs = some (b, r) → motive r → motive cs)
    (skip : ∀ c cs, readLink? (c :: cs) = none → motive cs → motive (c :: cs))
    (cs : List Char) : motive cs := by
  generalize hn : cs.length = n
  induction n using Nat.strongRecOn generalizing cs with
  | ind n ih =>
    subst hn
    cases cs with
    | nil => exact nil
    | cons c cs =>
      -- what follows a link is shorter than the text, if only by its brackets
      cases h : readLink? (c :: cs) with
      | some p => exact link _ p.1 p.2 h (ih p.2.length (length_readLink? h) p.2 rfl)
      | none => exact skip c cs h (ih cs.length (Nat.lt_succ_self _) cs rfl)

/-- The links of a text, in order. -/
def linksIn (cs : List Char) : List Link :=
  (cut cs).filterMap link?

theorem extract_eq (text : String) : Link.extract text = linksIn text.toList := rfl

theorem replaceAll_links (text : String) : (Link.replaceAll text).links = linksIn text.toList :=
  rfl

@[simp] theorem filterMap_link?_literals (text : List Char) :
    (literals text).filterMap link? = [] := by
  unfold literals
  split <;> rfl

/-- The links do not depend on the literal before them. -/
theorem filterMap_link?_cutFrom (before cs : List Char) :
    (cutFrom before cs).filterMap link? = linksIn cs := by
  induction cs using link_induction generalizing before with
  | nil =>
    rw [linksIn, cut, cutFrom, cutFrom]
    simp
  | link cs b r h _ =>
    rw [linksIn, cut, cutFrom_link h, cutFrom_link h]
    simp
  | skip c cs h ih =>
    rw [linksIn, cut, cutFrom_skip h, cutFrom_skip h, ih, ih]

@[simp] theorem linksIn_nil : linksIn [] = [] := by
  rw [linksIn, cut, cutFrom]
  exact filterMap_link?_literals _

theorem linksIn_link {cs b r : List Char} (h : readLink? cs = some (b, r)) :
    linksIn cs = Link.ofBody b :: linksIn r := by
  rw [linksIn, cut, cutFrom_link h, List.filterMap_append, List.reverse_nil,
    filterMap_link?_literals]
  rfl

theorem linksIn_skip {c : Char} {cs : List Char} (h : readLink? (c :: cs) = none) :
    linksIn (c :: cs) = linksIn cs := by
  rw [linksIn, cut, cutFrom_skip h, filterMap_link?_cutFrom]

theorem linksIn_markup_append {b : List Char} (h : IsBody b) (r : List Char) :
    linksIn (markup b ++ r) = Link.ofBody b :: linksIn r :=
  linksIn_link (readLink?_markup_append h r)

/-- Link markup alone is one link, with nothing before and after it. -/
theorem cut_markup {b : List Char} (h : IsBody b) : cut (markup b) = [.body b] := by
  have hlink := readLink?_markup_append h []
  rw [List.append_nil] at hlink
  rw [cut, cutFrom_link hlink, cut, cutFrom]
  rfl

/-- Every link of a text is that of a body. -/
theorem exists_isBody_of_mem_linksIn {cs : List Char} {l : Link} (h : l ∈ linksIn cs) :
    ∃ b, IsBody b ∧ l = Link.ofBody b := by
  induction cs using link_induction with
  | nil => simp at h
  | link cs b r hlink ih =>
    rw [linksIn_link hlink, List.mem_cons] at h
    rcases h with rfl | h
    · exact ⟨b, (eq_of_readLink? hlink).1, rfl⟩
    · exact ih h
  | skip c cs hskip ih =>
    rw [linksIn_skip hskip] at h
    exact ih h

theorem suffix_splitBody (b : List Char) : (Link.splitBody b).2 <:+ b := by
  unfold Link.splitBody
  split
  · rename_i parts hcut
    exact ⟨parts.1 ++ ['|'], by simp [Text.eq_of_cutAt hcut]⟩
  · split
    · rename_i parts hcut
      exact ⟨parts.1 ++ ['-', '>'], by simp [Text.eq_of_cutAtPair hcut]⟩
    · exact List.suffix_rfl

/-- The target of every link of a text can be written after a bar. -/
theorem isBody_target_of_mem_linksIn {cs : List Char} {l : Link} (h : l ∈ linksIn cs) :
    IsBody ('|' :: l.target.toList) := by
  obtain ⟨b, hb, rfl⟩ := exists_isBody_of_mem_linksIn h
  have htarget : (Link.ofBody b).target.toList = (Link.splitBody b).2 := String.toList_ofList
  obtain ⟨before, hsplit⟩ := suffix_splitBody b
  rw [htarget, isBody_cons]
  rw [← hsplit] at hb
  exact ⟨by decide, by simp, hb.of_append⟩

/-! ## Section 3: Texts in a row -/

/-- It shows in the text whether a body that begins here is closed, and where: there is a
    line break or a `]]` in it. -/
def Decided (cs : List Char) : Prop :=
  '\n' ∈ cs ∨ [']', ']'] <:+: cs

/-- The text leaves no link open that a text after it could close: it does not end within
    opening brackets, and shows of each `[[` whether it begins a link. -/
structure Settled (cs : List Char) : Prop where
  closed : cs.getLast? ≠ some '['
  decided : ∀ before after, cs = before ++ '[' :: '[' :: after → Decided after

instance (cs : List Char) : Decidable (Decided cs) :=
  inferInstanceAs (Decidable (_ ∨ _))

/-- Which can be seen from what follows every place in the text. -/
theorem settled_iff {cs : List Char} :
    Settled cs ↔ cs.getLast? ≠ some '[' ∧
      ∀ t ∈ cs.tails, ['[', '['] <+: t → Decided (t.drop 2) := by
  constructor
  · intro h
    refine ⟨h.closed, fun t ht hopen => ?_⟩
    obtain ⟨before, rfl⟩ := (List.mem_tails _ _).1 ht
    obtain ⟨after, rfl⟩ := hopen
    exact h.decided before after rfl
  · rintro ⟨hclosed, hdecided⟩
    refine ⟨hclosed, ?_⟩
    rintro before after rfl
    exact hdecided ('[' :: '[' :: after) ((List.mem_tails _ _).2 ⟨before, rfl⟩) ⟨after, rfl⟩

instance (cs : List Char) : Decidable (Settled cs) :=
  decidable_of_iff _ settled_iff.symm

theorem Decided.append {cs : List Char} (h : Decided cs) (more : List Char) :
    Decided (cs ++ more) :=
  h.imp (List.mem_append_left more) (·.trans (List.prefix_append cs more).isInfix)

theorem readBody_append {cs : List Char} (h : Decided cs) (more : List Char) :
    readBody (cs ++ more) = (readBody cs).map fun p => (p.1, p.2 ++ more) := by
  fun_induction readBody cs with
  | case1 => simp [Decided] at h
  | case2 => rfl
  | case3 cs hclose =>
    rw [List.cons_append, readBody]
    · rfl
    · simp
  | case4 c cs hclose hline ih =>
    have hrest : Decided cs := by
      rcases h with h | h
      · exact .inl (List.mem_of_ne_of_mem (Ne.symm hline) h)
      · rcases Text.pair_infix_cons.1 h with ⟨rfl, hhead⟩ | h
        · obtain ⟨cs', rfl⟩ := List.head?_eq_some_iff.1 hhead
          exact absurd rfl (hclose cs' rfl)
        · exact .inr h
    rw [List.cons_append, readBody]
    · rw [if_neg hline, ih hrest, Option.map_map, Option.map_map]
      rfl
    · rintro cs' rfl heq
      -- what is decided is not empty, so it would begin with the second bracket itself
      cases cs with
      | nil => simp [Decided] at hrest
      | cons d cs =>
        obtain ⟨rfl, -⟩ := List.cons.inj heq
        exact hclose cs rfl rfl

theorem settled_nil : Settled [] where
  closed := by simp
  decided := by simp

theorem Settled.of_append {l r : List Char} (h : Settled (l ++ r)) : Settled r where
  closed := by
    intro hlast
    exact h.closed (List.mem_getLast?_append_of_mem_getLast? hlast)
  decided := by
    rintro before after rfl
    exact h.decided (l ++ before) after (List.append_assoc _ _ _).symm

theorem Settled.append {l r : List Char} (hl : Settled l) (hr : Settled r) :
    Settled (l ++ r) where
  closed := by
    cases r with
    | nil =>
      rw [List.append_nil]
      exact hl.closed
    | cons c r =>
      rw [List.getLast?_append_of_ne_nil _ (List.cons_ne_nil c r)]
      exact hr.closed
  decided := by
    intro before after h
    rcases List.append_eq_append_iff.1 h with ⟨between, rfl, hrest⟩ | ⟨between, rfl, hrest⟩
    · exact hr.decided between after hrest
    · -- the brackets begin in the first text, so that they end in it too
      match between, hrest with
      | [], hrest => exact hr.decided [] after hrest.symm
      | [c], hrest =>
        obtain ⟨rfl, -⟩ := List.cons.inj hrest
        exact absurd List.getLast?_concat hl.closed
      | c :: d :: between, hrest =>
        obtain ⟨rfl, htail⟩ := List.cons.inj hrest
        obtain ⟨rfl, rfl⟩ := List.cons.inj htail
        exact (hl.decided before between rfl).append r

/-- A line break settles every text. -/
theorem settled_newline (cs : List Char) : Settled (cs ++ ['\n']) where
  closed := by simp
  decided := by
    intro before after h
    -- the line break is what comes last, after the brackets
    have hlast := congrArg List.getLast? h
    rw [List.getLast?_concat, List.getLast?_append_of_ne_nil _ (List.cons_ne_nil _ _),
      List.getLast?_cons_cons] at hlast
    cases after with
    | nil => simp at hlast
    | cons c after =>
      rw [List.getLast?_cons_cons] at hlast
      exact .inl (List.mem_of_getLast? hlast.symm)

theorem readLink?_append {cs : List Char} (h : Settled cs) (hne : cs ≠ []) (more : List Char) :
    readLink? (cs ++ more) = (readLink? cs).map fun p => (p.1, p.2 ++ more) := by
  match cs with
  | [] => exact absurd rfl hne
  | [c] =>
    have hc : c ≠ '[' := by
      rintro rfl
      exact h.closed rfl
    have hnone : ∀ cs, readLink? (c :: cs) = none := by
      intro cs
      unfold readLink?
      split
      · rename_i heq
        exact absurd (List.cons.inj heq).1 hc
      · rfl
    rw [List.cons_append, hnone, hnone]
    rfl
  | c :: d :: cs =>
    -- whether the text begins a link is seen from two characters, which it has itself
    by_cases hopen : c = '[' ∧ d = '['
    · obtain ⟨rfl, rfl⟩ := hopen
      exact readBody_append (h.decided [] cs rfl) more
    · have hnone : ∀ cs, readLink? (c :: d :: cs) = none := by
        intro cs
        unfold readLink?
        split
        · rename_i heq
          obtain ⟨rfl, hd⟩ := List.cons.inj heq
          exact absurd ⟨rfl, (List.cons.inj hd).1⟩ hopen
        · rfl
      rw [List.cons_append, List.cons_append, hnone, hnone]
      rfl

/-- **The links of two texts in a row**, if the first is settled. -/
theorem linksIn_append {cs : List Char} (h : Settled cs) (more : List Char) :
    linksIn (cs ++ more) = linksIn cs ++ linksIn more := by
  induction cs using link_induction with
  | nil => simp
  | link cs b r hlink ih =>
    -- the row begins with the same link, and goes on with what follows it in both texts
    have hcs : cs = markup b ++ r := (eq_of_readLink? hlink).2
    have hne : cs ≠ [] := by
      rw [hcs]
      exact List.cons_ne_nil _ _
    have hboth := readLink?_append h hne more
    rw [hlink] at hboth
    rw [hcs] at h
    rw [linksIn_link hboth, linksIn_link hlink, ih h.of_append]
    rfl
  | skip c cs hskip ih =>
    have hboth := readLink?_append h (List.cons_ne_nil c cs) more
    rw [hskip] at hboth
    have hrest : Settled cs := h.of_append (l := [c])
    rw [linksIn_skip hskip, ← ih hrest]
    exact linksIn_skip hboth

/-- The links of a row of settled texts are the links of each. -/
theorem linksIn_flatMap {α : Type} {f : α → List Char} {xs : List α}
    (h : ∀ x ∈ xs, Settled (f x)) : linksIn (xs.flatMap f) = xs.flatMap fun x => linksIn (f x) := by
  induction xs with
  | nil => exact linksIn_nil
  | cons x xs ih =>
    rw [List.flatMap_cons, List.flatMap_cons, linksIn_append (h x List.mem_cons_self),
      ih fun y hy => h y (List.mem_cons_of_mem x hy)]

/-- Markup after a settled text is a link, whatever follows it. -/
theorem ofBody_mem_linksIn {before b : List Char} (hs : Settled before) (hb : IsBody b)
    (after : List Char) : Link.ofBody b ∈ linksIn (before ++ markup b ++ after) := by
  rw [List.append_assoc, linksIn_append hs, linksIn_markup_append hb]
  exact List.mem_append_right _ List.mem_cons_self

end Hyperfiction.LinkPiece
