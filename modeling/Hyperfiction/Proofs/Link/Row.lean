import Hyperfiction.Proofs.Link.Cut

/-! # A text as a row of literals and links

    Every text is a row of literals with links between them, and it is so in one way only if
    each link is the leftmost one that is left, its body is the shortest, and no complete
    link remains in a literal. This is how a text is cut, so replacing its links changes
    nothing else in it.

    A row is built along the text by `link_induction`. A link is put in front of the row of
    what follows it, and a character that begins no link in front of the first literal. That
    a text has no second row needs no induction along it. Two rows agree on where the first
    link is, since it is the leftmost in both, and so on its body and on the rest.
-/

namespace Hyperfiction.LinkPiece

/-! ## Section 1: Complete links -/

/-- A complete link stands somewhere in the text: brackets are opened and closed on one
    line. -/
def HasLink (cs : List Char) : Prop :=
  ∃ before b after, '\n' ∉ b ∧ cs = before ++ markup b ++ after

/-- Brackets that are closed on the same line have a shortest body. -/
theorem exists_readBody {b : List Char} (h : '\n' ∉ b) (after : List Char) :
    ∃ p, readBody (b ++ ']' :: ']' :: after) = some p := by
  induction b with
  | nil => exact ⟨([], after), rfl⟩
  | cons c b ih =>
    rw [List.mem_cons, not_or] at h
    obtain ⟨p, hp⟩ := ih h.2
    by_cases hclose : c = ']' ∧ (b ++ ']' :: ']' :: after).head? = some ']'
    · -- the body ends here already
      obtain ⟨rfl, hhead⟩ := hclose
      obtain ⟨rest, hrest⟩ := List.head?_eq_some_iff.1 hhead
      rw [List.cons_append, hrest]
      exact ⟨([], rest), rfl⟩
    · refine ⟨(c :: p.1, p.2), ?_⟩
      rw [List.cons_append, readBody]
      · rw [if_neg (Ne.symm h.1), hp]
        rfl
      · intro cs hc hcs
        apply hclose
        rw [hcs]
        exact ⟨hc, rfl⟩

/-- A text begins with no link exactly if it begins with no brackets that are closed on the
    same line. -/
theorem readLink?_eq_none_iff {cs : List Char} :
    readLink? cs = none ↔ ∀ b after, '\n' ∉ b → cs ≠ markup b ++ after := by
  constructor
  · rintro hnone b after hline rfl
    obtain ⟨p, hp⟩ := exists_readBody hline after
    have hlink : readLink? (markup b ++ after) = some p := by
      simpa [markup, readLink?] using hp
    rw [hnone] at hlink
    cases hlink
  · intro h
    cases hlink : readLink? cs with
    | none => rfl
    | some p =>
      obtain ⟨hb, hcs⟩ := eq_of_readLink? hlink
      exact absurd hcs (h p.1 p.2 hb.oneLine)

theorem not_hasLink_nil : ¬ HasLink [] := by
  rintro ⟨before, b, after, -, h⟩
  simp [markup] at h

/-- A character that begins no link adds none. -/
theorem HasLink.of_cons {c : Char} {cs : List Char} (hnone : readLink? (c :: cs) = none)
    (h : HasLink (c :: cs)) : HasLink cs := by
  obtain ⟨before, b, after, hline, hcs⟩ := h
  cases before with
  | nil => exact absurd hcs (readLink?_eq_none_iff.1 hnone b after hline)
  | cons d before =>
    obtain ⟨rfl, hrest⟩ := List.cons.inj hcs
    exact ⟨before, b, after, hline, hrest⟩

/-! ## Section 2: Rendered texts -/

/-- The text with its links replaced. -/
def renderedIn (cs : List Char) : List Char :=
  (cut cs).flatMap rendered

theorem replaceAll_eq (text : String) : Link.replaceAll text
    = { text := String.ofList (renderedIn text.toList), links := linksIn text.toList } := rfl

theorem flatMap_rendered_literals (text : List Char) :
    (literals text).flatMap rendered = text := by
  cases text with
  | nil => rfl
  | cons c cs => simp [literals, rendered]

/-- The literal that has been read goes before what is rendered. -/
theorem flatMap_rendered_cutFrom (before cs : List Char) :
    (cutFrom before cs).flatMap rendered = before.reverse ++ renderedIn cs := by
  induction cs using link_induction generalizing before with
  | nil =>
    rw [renderedIn, cut, cutFrom, cutFrom, flatMap_rendered_literals, flatMap_rendered_literals]
    simp
  | link cs b r h _ =>
    rw [renderedIn, cut, cutFrom_link h, cutFrom_link h]
    simp [flatMap_rendered_literals]
  | skip c cs h ih =>
    rw [renderedIn, cut, cutFrom_skip h, cutFrom_skip h, ih, ih]
    simp

@[simp] theorem renderedIn_nil : renderedIn [] = [] := by
  rw [renderedIn, cut, cutFrom]
  exact flatMap_rendered_literals []

theorem renderedIn_link {cs b r : List Char} (h : readLink? cs = some (b, r)) :
    renderedIn cs = (Link.ofBody b).html.toList ++ renderedIn r := by
  rw [renderedIn, cut, cutFrom_link h, List.flatMap_append, List.flatMap_cons,
    flatMap_rendered_literals]
  rfl

theorem renderedIn_skip {c : Char} {cs : List Char} (h : readLink? (c :: cs) = none) :
    renderedIn (c :: cs) = c :: renderedIn cs := by
  rw [renderedIn, cut, cutFrom_skip h, flatMap_rendered_cutFrom]
  rfl

/-! ## Section 3: Rows -/

/-- Literals, which may be empty, with the bodies of links between them. -/
inductive LinkRow where
  | literal (text : List Char)
  | link (before body : List Char) (rest : LinkRow)

namespace LinkRow

/-- The row as it stands in a text. -/
def source : LinkRow → List Char
  | .literal text => text
  | .link before b rest => before ++ markup b ++ rest.source

/-- The row with the links replaced by their elements. -/
def rendered : LinkRow → List Char
  | .literal text => text
  | .link before b rest => before ++ (Link.ofBody b).html.toList ++ rest.rendered

/-- The links of the row, in order. -/
def links : LinkRow → List Link
  | .literal _ => []
  | .link _ b rest => Link.ofBody b :: rest.links

/-- The row with a character in front of its first literal. -/
def cons (c : Char) : LinkRow → LinkRow
  | .literal text => .literal (c :: text)
  | .link before b rest => .link (c :: before) b rest

@[simp] theorem source_cons (c : Char) (row : LinkRow) :
    (row.cons c).source = c :: row.source := by
  cases row <;> rfl

@[simp] theorem rendered_cons (c : Char) (row : LinkRow) :
    (row.cons c).rendered = c :: row.rendered := by
  cases row <;> rfl

@[simp] theorem links_cons (c : Char) (row : LinkRow) : (row.cons c).links = row.links := by
  cases row <;> rfl

/-- No complete link of the text begins before the place where the literal ends. -/
def IsLeftmost (before cs : List Char) : Prop :=
  ∀ before' b after, '\n' ∉ b → cs = before' ++ markup b ++ after →
    before.length ≤ before'.length

/-- The row is cut at its links: each begins at the leftmost place, and has the shortest
    body, on one line. No complete link remains in a literal. -/
inductive IsCut : LinkRow → Prop where
  | literal {text : List Char} : ¬ HasLink text → IsCut (.literal text)
  | link {before b : List Char} {rest : LinkRow} :
      IsLeftmost before (LinkRow.link before b rest).source → IsBody b → ¬ HasLink before →
      IsCut rest → IsCut (.link before b rest)

/-- A link alone is the leftmost one, with nothing before it. -/
theorem IsCut.link_nil {b : List Char} {rest : LinkRow} (hb : IsBody b) (h : rest.IsCut) :
    (LinkRow.link [] b rest).IsCut :=
  .link (fun _ _ _ _ _ => Nat.zero_le _) hb not_hasLink_nil h

/-- A character that begins no link goes to the first literal. -/
theorem IsCut.cons {c : Char} {row : LinkRow} (hnone : readLink? (c :: row.source) = none)
    (h : row.IsCut) : (row.cons c).IsCut := by
  cases h with
  | @literal text hplain => exact .literal fun hlink => hplain (hlink.of_cons hnone)
  | @link before b rest hleft hb hplain hrest =>
    have hstart := readLink?_eq_none_iff.1 hnone
    refine .link ?_ hb ?_ hrest
    · intro before' b' after hline hcs
      cases before' with
      | nil => exact absurd hcs (hstart b' after hline)
      | cons d before' =>
        have hlen := hleft before' b' after hline (List.cons.inj hcs).2
        exact Nat.succ_le_succ hlen
    · intro hlink
      apply hplain
      apply HasLink.of_cons _ hlink
      -- what begins with a link in the literal begins with it in the whole text
      rw [readLink?_eq_none_iff]
      intro b' after hline hcs
      apply hstart b' (after ++ markup b ++ rest.source) hline
      have htext : c :: (before ++ markup b ++ rest.source)
          = c :: before ++ markup b ++ rest.source := rfl
      rw [source, htext, hcs]
      simp

/-- Every text is cut into a row, which is rendered as the text is and has its links. -/
theorem exists_isCut (cs : List Char) :
    ∃ row : LinkRow, row.IsCut ∧ row.source = cs ∧ row.rendered = renderedIn cs ∧
      row.links = linksIn cs := by
  induction cs using link_induction with
  | nil => exact ⟨.literal [], .literal not_hasLink_nil, rfl, by simp [rendered], by simp [links]⟩
  | link cs b r h ih =>
    obtain ⟨row, hcut, hsource, hrendered, hlinks⟩ := ih
    obtain ⟨hb, hcs⟩ := eq_of_readLink? h
    refine ⟨.link [] b row, hcut.link_nil hb, ?_, ?_, ?_⟩
    · rw [source, hsource, hcs]
      rfl
    · rw [rendered, hrendered, renderedIn_link h]
      rfl
    · rw [links, hlinks, linksIn_link h]
  | skip c cs h ih =>
    obtain ⟨row, hcut, rfl, hrendered, hlinks⟩ := ih
    refine ⟨row.cons c, hcut.cons h, ?_, ?_, ?_⟩
    · rw [source_cons]
    · rw [rendered_cons, hrendered, renderedIn_skip h]
    · rw [links_cons, hlinks, linksIn_skip h]

/-- A text without a complete link is no row with a link. -/
theorem ne_source_link {text b : List Char} (hplain : ¬ HasLink text) (hb : IsBody b)
    (before : List Char) (rest : LinkRow) : text ≠ (LinkRow.link before b rest).source := by
  rintro rfl
  exact hplain ⟨before, b, rest.source, hb.oneLine, rfl⟩

/-- A text is cut into one row only. -/
theorem IsCut.unique {row row' : LinkRow} (h : row.IsCut) (h' : row'.IsCut)
    (hsource : row.source = row'.source) : row = row' := by
  induction h generalizing row' with
  | @literal text hplain =>
    cases h' with
    | @literal text' _ =>
      have htext : text = text' := hsource
      rw [htext]
    | link _ hb _ _ => exact absurd hsource (ne_source_link hplain hb _ _)
  | @link before b rest hleft hb hplain hrest ih =>
    cases h' with
    | literal hplain' => exact absurd hsource.symm (ne_source_link hplain' hb before rest)
    | @link before' b' rest' hleft' hb' _ hrest' =>
      -- neither first link begins before the other, so they begin at one place
      have hlen : before.length = before'.length := by
        apply Nat.le_antisymm
        · exact hleft before' b' rest'.source hb'.oneLine hsource
        · exact hleft' before b rest.source hb.oneLine hsource.symm
      simp only [source, List.append_assoc] at hsource
      obtain ⟨rfl, hlinks⟩ := List.append_inj hsource hlen
      have hread := readLink?_markup_append hb rest.source
      rw [hlinks, readLink?_markup_append hb' rest'.source] at hread
      obtain ⟨rfl, hsources⟩ := Prod.mk.inj (Option.some.inj hread)
      rw [ih hrest' hsources.symm]

/-- Every text is cut into one row. -/
theorem exists_isCut_iff (cs : List Char) :
    ∃ row : LinkRow, (∀ row' : LinkRow, row'.IsCut ∧ row'.source = cs ↔ row' = row) ∧
      row.rendered = renderedIn cs ∧ row.links = linksIn cs := by
  obtain ⟨row, hcut, hsource, hrendered, hlinks⟩ := exists_isCut cs
  refine ⟨row, ?_, hrendered, hlinks⟩
  intro row'
  constructor
  · rintro ⟨hcut', hsource'⟩
    exact hcut'.unique hcut (hsource'.trans hsource.symm)
  · rintro rfl
    exact ⟨hcut, hsource⟩

end LinkRow

/-! ## Section 4: The cut of a text -/

/-- **Replacing links loses nothing.** Every text is, in one way only, a row of literals and
    links in which each link begins at the leftmost place, its body is on one line and the
    shortest, and no complete link remains in a literal. Replacing the links gives that row
    with the element of each link in its place, and the links of the row in order; listing
    the links gives the same. A text without a complete link is given back as it is. -/
theorem links_cut_text (text : String) :
    ∃ row : LinkRow,
      (∀ row' : LinkRow, row'.IsCut ∧ row'.source = text.toList ↔ row' = row) ∧
      Link.replaceAll text = { text := String.ofList row.rendered, links := row.links } ∧
      Link.extract text = row.links ∧
      (¬ HasLink text.toList → Link.replaceAll text = { text := text, links := [] }) := by
  obtain ⟨row, hunique, hrendered, hlinks⟩ := LinkRow.exists_isCut_iff text.toList
  have hreplace : Link.replaceAll text
      = { text := String.ofList row.rendered, links := row.links } := by
    rw [replaceAll_eq, hrendered, hlinks]
  refine ⟨row, hunique, hreplace, hlinks.symm, ?_⟩
  intro hplain
  -- the text alone is a row, and it is the only one
  obtain rfl := (hunique (.literal text.toList)).1 ⟨.literal hplain, rfl⟩
  rw [hreplace, LinkRow.rendered, String.ofList_toList]
  rfl

/-- Brackets that no link follows stay in the literal, one by one. -/
example : (Link.replaceAll "[[a\n[[[b]]]").links = [Link.ofBody "[b".toList] := by cbv

end Hyperfiction.LinkPiece
