import Hyperfiction.Player.Terminal
import Hyperfiction.Proofs.Link.Row
import Hyperfiction.Proofs.Text.Entity

/-! # The prose of a text with links

    A terminal shows a text without its tags, and the element of a link is display text
    between two tags. The first of them holds the target, written with entities, so that it
    ends where it should whatever the target is: of the characters that end a tag none is
    in it. What is left of a text with links is therefore its prose, the literals with the
    display text of each link in its place, if the prose itself opens no tag. A `>` in it
    does no harm.
-/

namespace Hyperfiction

/-! ## Section 1: Tags -/

/-- A tag: `<`, at least one character that is no `>`, and `>`. -/
def IsTag (t : List Char) : Prop :=
  ∃ inner, inner ≠ [] ∧ '>' ∉ inner ∧ t = '<' :: (inner ++ ['>'])

/-- A text is stripped of its tags, from left to right: where a tag begins it is left out, and
    where none begins one character is kept. -/
inductive Stripped : List Char → List Char → Prop where
  | nothing : Stripped [] []
  | tag {t cs kept : List Char} : IsTag t → Stripped cs kept → Stripped (t ++ cs) kept
  | other {c : Char} {cs kept : List Char} :
      (∀ t, IsTag t → ¬ t <+: c :: cs) → Stripped cs kept → Stripped (c :: cs) (c :: kept)

/-- A text is cut at its first `>`. -/
theorem span_closing {inner : List Char} (h : '>' ∉ inner) (cs : List Char) :
    (inner ++ '>' :: cs).takeWhile (· ≠ '>') = inner ∧
      (inner ++ '>' :: cs).dropWhile (· ≠ '>') = '>' :: cs := by
  have hinner : ∀ c ∈ inner, decide (c ≠ '>') = true :=
    fun c hc => decide_eq_true (ne_of_mem_of_not_mem hc h)
  rw [List.takeWhile_append_of_pos hinner, List.dropWhile_append_of_pos hinner]
  simp

/-- And only there, if a part of it is left. -/
theorem eq_of_span {cs inner rest : List Char} {c : Char}
    (htake : cs.takeWhile (· ≠ '>') = inner) (hdrop : cs.dropWhile (· ≠ '>') = c :: rest) :
    '>' ∉ inner ∧ cs = inner ++ '>' :: rest := by
  have hhead := List.head?_dropWhile_not (· ≠ '>') cs
  rw [hdrop] at hhead
  obtain rfl : c = '>' := by simpa using hhead
  refine ⟨?_, ?_⟩
  · intro hmem
    rw [← htake] at hmem
    simpa using List.mem_takeWhile_imp hmem
  · rw [← htake, ← hdrop, List.takeWhile_append_dropWhile]

theorem stripTags_tag_append {t : List Char} (h : IsTag t) (cs : List Char) :
    stripTags (t ++ cs) = stripTags cs := by
  obtain ⟨inner, hne, hinner, rfl⟩ := h
  obtain ⟨htake, hdrop⟩ := span_closing hinner cs
  have hcs : '<' :: (inner ++ ['>']) ++ cs = '<' :: (inner ++ '>' :: cs) := by simp
  rw [hcs, stripTags]
  split
  · rename_i c inner' d rest _ hrest
    rw [hdrop] at hrest
    rw [(List.cons.inj hrest).2]
  · rename_i hnone
    -- both parts of the cut are there
    obtain ⟨c, inner', rfl⟩ := List.exists_cons_of_ne_nil hne
    exact absurd hdrop (hnone c inner' '>' cs htake)

theorem stripTags_cons {c : Char} {cs : List Char} (h : ∀ t, IsTag t → ¬ t <+: c :: cs) :
    stripTags (c :: cs) = c :: stripTags cs := by
  by_cases hc : c = '<'
  · subst hc
    rw [stripTags]
    split
    · rename_i d inner e rest htake hdrop
      obtain ⟨hinner, hcs⟩ := eq_of_span htake hdrop
      refine absurd ⟨rest, ?_⟩ (h _ ⟨d :: inner, List.cons_ne_nil d inner, hinner, rfl⟩)
      rw [hcs]
      simp
    · rfl
  · rw [stripTags]
    exact hc

/-- Where nothing opens a tag, all is kept. -/
theorem stripTags_append {cs : List Char} (h : '<' ∉ cs) (rest : List Char) :
    stripTags (cs ++ rest) = cs ++ stripTags rest := by
  induction cs with
  | nil => rfl
  | cons c cs ih =>
    rw [List.mem_cons, not_or] at h
    have hnone : ∀ t, IsTag t → ¬ t <+: c :: (cs ++ rest) := by
      rintro t ⟨inner, -, -, rfl⟩ hstarts
      exact h.1 (List.cons_prefix_cons.1 hstarts).1
    rw [List.cons_append, stripTags_cons hnone, ih h.2]
    rfl

theorem Stripped.stripTags_eq {cs kept : List Char} (h : Stripped cs kept) :
    stripTags cs = kept := by
  induction h with
  | nothing => rw [stripTags]
  | tag ht _ ih => rw [stripTags_tag_append ht, ih]
  | other hnone _ ih => rw [stripTags_cons hnone, ih]

theorem stripped_stripTags (cs : List Char) : Stripped cs (stripTags cs) := by
  induction cs using Text.token_induction IsTag with
  | nonempty t ht =>
    obtain ⟨inner, -, -, rfl⟩ := ht
    exact List.cons_ne_nil _ _
  | nil =>
    rw [stripTags]
    exact .nothing
  | token t cs ht ih =>
    rw [stripTags_tag_append ht]
    exact .tag ht ih
  | other c cs hnone ih =>
    rw [stripTags_cons hnone]
    exact .other hnone ih

/-- Every text is stripped in one way only. -/
theorem stripped_iff {cs kept : List Char} : Stripped cs kept ↔ stripTags cs = kept := by
  constructor
  · exact Stripped.stripTags_eq
  · rintro rfl
    exact stripped_stripTags cs

/-! ## Section 2: The element of a link -/

namespace Link

/-- What an attribute holds, written with entities, ends no tag. -/
theorem isTag_attribute (before after value : List Char) (hne : before ≠ [])
    (hb : '>' ∉ before) (ha : '>' ∉ after) :
    IsTag ('<' :: (before ++ Entity.encode value ++ after ++ ['>'])) := by
  have hvalue : '>' ∉ Entity.encode value := Entity.not_mem_encode (by decide) value
  refine ⟨before ++ Entity.encode value ++ after, ?_, ?_, rfl⟩
  · simp [hne]
  · simp [hb, hvalue, ha]

/-- The element of a link is its display text between two tags. -/
theorem exists_html_eq (l : Link) :
    ∃ opening closing, IsTag opening ∧ IsTag closing ∧
      l.html.toList = opening ++ l.display.toList ++ closing := by
  have hclosing : IsTag "</a>".toList := ⟨['/', 'a'], by decide, by decide, rfl⟩
  cases hkind : l.kind with
  | outside =>
    have hopening := isTag_attribute "a href=\"".toList "\" class=\"external-link\"".toList
      l.target.toList (by decide) (by decide) (by decide)
    refine ⟨_, _, hopening, hclosing, ?_⟩
    simp [html, hkind]
  | passage =>
    have hopening := isTag_attribute "a href=\"javascript:void(0)\" data-passage=\"".toList
      "\" class=\"passage-link\"".toList l.target.toList (by decide) (by decide) (by decide)
    refine ⟨_, _, hopening, hclosing, ?_⟩
    simp [html, hkind]

/-- Stripped of its tags, the element of a link is its display text. -/
theorem stripTags_html_append {l : Link} (h : '<' ∉ l.display.toList) (rest : List Char) :
    stripTags (l.html.toList ++ rest) = l.display.toList ++ stripTags rest := by
  obtain ⟨opening, closing, hopening, hclosing, hhtml⟩ := l.exists_html_eq
  rw [hhtml, List.append_assoc, List.append_assoc, stripTags_tag_append hopening,
    stripTags_append h, stripTags_tag_append hclosing]

end Link

/-! ## Section 3: The prose of a text -/

namespace LinkPiece

/-- The literals of a row, with the display text of each link in its place. -/
def LinkRow.prose : LinkRow → List Char
  | .literal text => text
  | .link before b rest => before ++ (Link.ofBody b).display.toList ++ rest.prose

/-- A row is rendered as its prose between the tags of its links. -/
theorem LinkRow.stripTags_rendered {row : LinkRow} (h : '<' ∉ row.prose) :
    stripTags row.rendered = row.prose := by
  induction row with
  | literal text =>
    have hkept := stripTags_append h []
    rw [List.append_nil, stripTags, List.append_nil] at hkept
    exact hkept
  | link before b rest ih =>
    simp only [prose, List.mem_append, not_or] at h
    obtain ⟨⟨hbefore, hdisplay⟩, hrest⟩ := h
    rw [rendered, prose, List.append_assoc, List.append_assoc, stripTags_append hbefore,
      Link.stripTags_html_append hdisplay, ih hrest]

/-- **Stripping the tags of a rewritten text gives back its prose.** Every text is, in one way
    only, a row of literals and links. If no literal and no display text of it holds a `<`,
    whatever the targets of the links hold, then removing all tags from the text with its
    links replaced leaves the literals with the display text of each link in its place. -/
theorem stripped_text_is_prose (text : String) :
    ∃ row : LinkRow,
      (∀ row' : LinkRow, row'.IsCut ∧ row'.source = text.toList ↔ row' = row) ∧
      ('<' ∉ row.prose →
        stripTags (Link.replaceAll text).text.toList = row.prose ∧
        ∀ kept, Stripped (Link.replaceAll text).text.toList kept ↔ kept = row.prose) := by
  obtain ⟨row, hunique, hrendered, -⟩ := LinkRow.exists_isCut_iff text.toList
  refine ⟨row, hunique, ?_⟩
  intro hprose
  have htext : (Link.replaceAll text).text.toList = row.rendered := by
    rw [replaceAll_eq, String.toList_ofList, hrendered]
  have hstrip : stripTags (Link.replaceAll text).text.toList = row.prose := by
    rw [htext, row.stripTags_rendered hprose]
  refine ⟨hstrip, ?_⟩
  intro kept
  rw [stripped_iff, hstrip, eq_comm]

/-- A target that is full of tags and entities, and a `>` in the prose. -/
theorem stripped_text_is_prose_hall :
    stripTags (Link.replaceAll "[[in > out|<\"Hall\"> & 'x'&lt;]]>").text.toList
      = "in > out>".toList := by
  have hcut : (LinkRow.link [] "in > out|<\"Hall\"> & 'x'&lt;".toList (.literal ['>'])).IsCut :=
    .link_nil (by decide) (.literal fun h => not_hasLink_nil (h.of_cons rfl))
  obtain ⟨row, hunique, hprose⟩ := stripped_text_is_prose "[[in > out|<\"Hall\"> & 'x'&lt;]]>"
  obtain rfl := (hunique _).1 ⟨hcut, rfl⟩
  exact (hprose (by decide)).1

end LinkPiece

end Hyperfiction
