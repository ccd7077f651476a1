import Hyperfiction.Proofs.Lint.Report
import Hyperfiction.Proofs.Template.Plain
import Hyperfiction.Proofs.Template.Texts
import Hyperfiction.Proofs.Text.Entity
import Hyperfiction.Rendering

/-! # Errors about missing targets

    The linter reads the links of a text as it is written, tags included; a reader is
    offered those of a text that the template has come to. So an error about a missing
    target may be false: the markup may be part of the code of a tag, or of two texts that
    are never shown in a row. It is true where markup and tags keep apart, and where an
    interpolation can show the link itself.
-/

namespace Hyperfiction.Lint

open LinkPiece Template

/-! ## Section 1: What a passage may offer -/

/-- The passage of the story is rendered with a link to the target, under some evaluator and
    in some world. -/
def Offers (s : Story) (p : Passage) (target : String) : Prop :=
  ∃ (σ : Type) (r : Renderer σ) (scene : Scene) (w w' : World σ) (shown : RenderedPassage),
    scene.story = s ∧ scene.passage = p ∧ (r.render scene).outcome w = (.ok shown, w') ∧
      ∃ link ∈ shown.passageLinks, link.target = target

/-- A passage offers exactly the targets of the texts that its template may come to. -/
theorem offers_iff {s : Story} {p : Passage} {t : Template} {target : String}
    (ht : Template.parse p.text = .ok t) :
    Offers s p target ↔ ∃ text, Yields t text ∧ LinksTo text target := by
  constructor
  · rintro ⟨σ, r, scene, w, w', shown, -, rfl, hrender, link, hlink, htarget⟩
    obtain ⟨expanded, w₁, hexpand, hfinish⟩ := Action.bind_eq_ok.1 hrender
    obtain rfl := Except.ok.inj (Prod.mk.inj hfinish).1
    unfold Renderer.expand Evaluator.expandText at hexpand
    rw [ht] at hexpand
    obtain ⟨text, w₂, hsegments, hexpanded⟩ := Action.bind_eq_ok.1 hexpand
    obtain rfl := Except.ok.inj (Prod.mk.inj hexpanded).1
    obtain ⟨hmem, hinternal⟩ := List.mem_filter.1 hlink
    rw [r.links_finish, String.toList_ofList] at hmem
    exact ⟨text, yields_of_expandSegments t hsegments, link, hmem, hinternal, htarget⟩
  · rintro ⟨text, hyields, link, hlink, hinternal, htarget⟩
    -- the evaluator is told what to answer, and the markup is left as it is
    obtain ⟨answers, hanswers⟩ := hyields.exists_answers (σ := Unit)
    let r : Renderer Unit := { evaluator := prompter, markup := .plain }
    let scene : Scene := { passage := p, story := s, history := [p.id], checkpoint := "" }
    have hexpand : (r.expand scene).outcome ⟨prompts (answers ++ []), ()⟩
        = (.ok (String.ofList text), ⟨prompts [], ()⟩) := by
      show (Evaluator.expandText prompter scene p.text).outcome _ = _
      unfold Evaluator.expandText
      rw [ht]
      exact Action.bind_eq_ok.2 ⟨text, _, hanswers scene [] (), rfl⟩
    refine ⟨Unit, r, scene, _, _, _, rfl, rfl, Action.bind_eq_ok.2 ⟨_, _, hexpand, rfl⟩, link, ?_,
      htarget⟩
    refine List.mem_filter.2 ⟨?_, hinternal⟩
    rw [r.links_finish, String.toList_ofList]
    exact hlink

/-! ## Section 2: When what is read is shown -/

/-- What the linter reads in the text is something that a reader may be shown. -/
inductive Surfaces (p : Passage) (target : String) : Prop where
  /-- Markup and tags keep apart: none leaves a link open for the other to close, and the
      target is not read in a tag. -/
  | apart : (∀ piece ∈ Piece.split p.text.toList, Settled piece.source) →
      (∀ piece ∈ Piece.split p.text.toList, LinksTo piece.source target →
        ∃ cs, piece = .text cs) → Surfaces p target
  /-- A value is shown as it is. -/
  | raw {code : String} :
      .interpolation code false ∈ tokens p.text.toList → Surfaces p target
  /-- A value is shown with entities, and none is in the target. -/
  | escaped {code : String} : .interpolation code true ∈ tokens p.text.toList →
      (∀ c ∈ target.toList, c ∉ ['&', '<', '>', '\"', '\'']) → Surfaces p target

/-- A link on a line of its own, with nothing to show. -/
def ownLine (target : String) : List Char :=
  '\n' :: markup ('|' :: target.toList)

theorem encode_ownLine {target : String}
    (h : ∀ c ∈ target.toList, c ∉ ['&', '<', '>', '\"', '\'']) :
    Entity.encode (ownLine target) = ownLine target := by
  refine Entity.encode_eq_self fun c hc => ?_
  simp only [ownLine, markup, List.mem_cons, List.mem_append, List.not_mem_nil, or_false] at hc
  rcases hc with rfl | rfl | rfl | (rfl | hc) | rfl | rfl
  · decide
  · decide
  · decide
  · decide
  · exact h c hc
  · decide
  · decide

/-- Whatever is around it, such a line links to the target, if any text does. -/
theorem LinksTo.ownLine {cs : List Char} {target : String} (h : LinksTo cs target)
    (before after : List Char) : LinksTo (before ++ ownLine target ++ after) target := by
  obtain ⟨link, hlink, hinternal, rfl⟩ := h
  have hbody := isBody_target_of_mem_linksIn hlink
  have hline := ofBody_mem_linksIn (settled_newline before) hbody after
  have hrow : before ++ ['\n'] ++ markup ('|' :: link.target.toList) ++ after
      = before ++ Lint.ownLine link.target ++ after := by simp [Lint.ownLine]
  rw [hrow] at hline
  have hparts : Link.ofBody ('|' :: link.target.toList) = Link.ofParts "" link.target := by
    have hsplit : Link.splitBody ('|' :: link.target.toList) = ([], link.target.toList) := rfl
    rw [Link.ofBody, hsplit, String.ofList_toList]
  obtain ⟨b, -, hb⟩ := exists_isBody_of_mem_linksIn hlink
  have hkind : Link.classify link.target = link.kind := by
    rw [hb]
    rfl
  refine ⟨_, hline, ?_, ?_⟩
  · rw [hparts, Link.isInternal, Link.ofParts, hkind]
    exact hinternal
  · rw [hparts]
    rfl

/-- A place of the template that can show such a line makes the passage offer the target. -/
theorem offers_of_shows {s : Story} {p : Passage} {t : Template} {target : String}
    (ht : Template.parse p.text = .ok t) (hlinks : LinksTo p.text.toList target) {tok : Token}
    (htok : tok ∈ tokens p.text.toList) (hshows : tok.Shows (ownLine target)) :
    Offers s p target := by
  have hplaces := (nest_eq_ok_iff.1 ht).isShown (P := fun _ => True) trivial
    (fun _ _ _ _ => trivial) fun _ _ => trivial
  obtain ⟨before, after, -, hyields⟩ := hplaces.each tok htok _ hshows
  exact (offers_iff ht).2 ⟨_, hyields, hlinks.ownLine before after⟩

/-- A link in a piece of text is a link of some text that the template may come to. -/
theorem offers_of_text {s : Story} {p : Passage} {t : Template} {target : String}
    (ht : Template.parse p.text = .ok t)
    (hsettled : ∀ piece ∈ Piece.split p.text.toList, Settled piece.source) {cs : List Char}
    (hcs : .text cs ∈ Piece.split p.text.toList) (hlinks : LinksTo cs target) :
    Offers s p target := by
  have hmem : .literal (String.ofList cs) ∈ tokens p.text.toList := by
    rw [literal_mem_tokens_iff, String.toList_ofList]
    exact hcs
  have hplaces := (nest_eq_ok_iff.1 ht).isShown (P := Settled) settled_nil
    (fun _ _ => Settled.append) fun text htext => hsettled _ (literal_mem_tokens_iff.1 htext)
  obtain ⟨before, after, hbefore, hyields⟩ := hplaces.each _ hmem _ .literal
  obtain ⟨link, hlink, hinternal, htarget⟩ := hlinks
  refine (offers_iff ht).2 ⟨_, hyields, link, ?_, hinternal, htarget⟩
  -- what comes before leaves no link open, and the text itself none for what comes after
  have hown : Settled cs := hsettled _ hcs
  rw [String.toList_ofList, List.append_assoc, linksIn_append hbefore, linksIn_append hown]
  exact List.mem_append_right _ (List.mem_append_left _ hlink)

/-- **Which errors about missing targets are true.** Let the template of a passage parse,
    and let the linter report that the passage links to a target which is missing. Some
    evaluator and some world then offer a link to it exactly if a text that the template may
    come to has one; and they do if markup and tags keep apart, if some value is shown as it
    is, or if some is shown with entities and none is in the target. -/
theorem missing_target_offered {s : Story} {p : Passage} {t : Template} {target : String}
    (ht : Template.parse p.text = .ok t)
    (h : Finding.missingTarget p target ∈ (report s).errors) :
    (Offers s p target ↔ ∃ text, Yields t text ∧ LinksTo text target) ∧
      (Surfaces p target → Offers s p target) := by
  refine ⟨offers_iff ht, ?_⟩
  obtain ⟨-, hlinks, -⟩ := missingTarget_mem_errors_iff.1 h
  rintro (⟨hsettled, htext⟩ | hraw | @⟨code, hescaped, hplain⟩)
  · -- where all pieces are settled, each link of the text is a link of one of them
    obtain ⟨link, hlink, hinternal, htarget⟩ := hlinks
    rw [← flatMap_source_split p.text.toList, linksIn_flatMap hsettled] at hlink
    obtain ⟨piece, hpiece, hlink⟩ := List.mem_flatMap.1 hlink
    obtain ⟨cs, rfl⟩ := htext piece hpiece ⟨link, hlink, hinternal, htarget⟩
    exact offers_of_text ht hsettled hpiece ⟨link, hlink, hinternal, htarget⟩
  · exact offers_of_shows ht hlinks hraw (.raw _)
  · have hshows : (Token.interpolation code true).Shows _ := .escaped (ownLine target)
    rw [encode_ownLine hplain] at hshows
    exact offers_of_shows ht hlinks hescaped hshows

/-! ## Section 3: A tower and a board -/

/-- A passage with a link that only a lit lamp shows. -/
def towerHall : Passage where
  id := 1
  name := "Hall"
  tags := []
  source := "&lt;% if lamp %&gt;[[down|Cellar]]&lt;% end %&gt;"

/-- Its story, in which the link leads nowhere. -/
def towerStory : Story where
  name := "Tower"
  ifid := none
  creator := none
  creatorVersion := none
  start := 1
  passages := .ofList [towerHall]
  config := {}
  passages_agree := PassageIndex.agrees_ofList _
  start_exists := by decide

/-- A passage that lays out a board, in code that looks like a link. -/
def boardTable : Passage where
  id := 1
  name := "Table"
  tags := []
  source := "&lt;% story.state.board = [[1, 2], [3, 4]] %&gt;The board is set."

def boardStory : Story where
  name := "Board"
  ifid := none
  creator := none
  creatorVersion := none
  start := 1
  passages := .ofList [boardTable]
  config := {}
  passages_agree := PassageIndex.agrees_ofList _
  start_exists := by decide

/-- The missing cellar is reported, and a reader with a lamp is offered it. -/
theorem missing_target_offered_cellar :
    Finding.missingTarget towerHall "Cellar" ∈ (report towerStory).errors ∧
      Offers towerStory towerHall "Cellar" := by
  have hread : Link.ofBody "down|Cellar".toList ∈ linksIn towerHall.text.toList :=
    have hsettled : Settled "<% if lamp %>".toList := by decide
    ofBody_mem_linksIn hsettled (by decide) "<% end %>".toList
  have hreported : Finding.missingTarget towerHall "Cellar" ∈ (report towerStory).errors :=
    missingTarget_mem_errors_iff.2 ⟨⟨List.mem_singleton_self _, by decide⟩,
      ⟨_, hread, by decide, by decide⟩, by decide, by decide⟩
  have hparse : Template.parse towerHall.text
      = .ok [.conditional [("lamp", [.literal "[[down|Cellar]]"])] []] := by cbv
  have hsplit : Piece.split towerHall.text.toList
      = [.code " if lamp ".toList, .text "[[down|Cellar]]".toList, .code " end ".toList] := by cbv
  refine ⟨hreported, (missing_target_offered hparse hreported).2 (.apart ?_ ?_)⟩
  · rw [hsplit]
    decide
  · rw [hsplit]
    intro piece hpiece hlinks
    simp only [List.mem_cons, List.not_mem_nil, or_false] at hpiece
    rcases hpiece with rfl | rfl | rfl
    · obtain ⟨link, hlink, -⟩ := hlinks
      have hnone : linksIn (Piece.code " if lamp ".toList).source = [] := by cbv
      rw [hnone] at hlink
      cases hlink
    · exact ⟨_, rfl⟩
    · obtain ⟨link, hlink, -⟩ := hlinks
      have hnone : linksIn (Piece.code " end ".toList).source = [] := by cbv
      rw [hnone] at hlink
      cases hlink

/-- The board is reported as a link, and no reader is ever offered it. -/
theorem board_never_offered :
    (∃ t, Template.parse boardTable.text = .ok t) ∧
      Finding.missingTarget boardTable "1, 2], [3, 4" ∈ (report boardStory).errors ∧
      ¬ Offers boardStory boardTable "1, 2], [3, 4" := by
  have hread : Link.ofBody "1, 2], [3, 4".toList ∈ linksIn boardTable.text.toList :=
    have hsettled : Settled "<% story.state.board = ".toList := by decide
    ofBody_mem_linksIn hsettled (by decide) " %>The board is set.".toList
  have hparse : Template.parse boardTable.text
      = .ok [.statement "story.state.board = [[1, 2], [3, 4]]",
        .literal "The board is set."] := by cbv
  refine ⟨⟨_, hparse⟩, ?_, ?_⟩
  · exact missingTarget_mem_errors_iff.2 ⟨⟨List.mem_singleton_self _, by decide⟩,
      ⟨_, hread, by decide, by decide⟩, by decide, by decide⟩
  · rw [offers_iff hparse]
    rintro ⟨text, hyields, link, hlink, -⟩
    -- the template comes to one text only, and that has no link
    cases hyields with
    | statement hyields =>
      cases hyields with
      | literal hyields =>
        cases hyields
        have hnone : linksIn ("The board is set.".toList ++ []) = [] := by cbv
        rw [hnone] at hlink
        cases hlink

end Hyperfiction.Lint
