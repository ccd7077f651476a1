import Hyperfiction.Proofs.BackStack
import Hyperfiction.Proofs.Lint.Report
import Hyperfiction.Proofs.Resume
import Hyperfiction.Proofs.Template.Plain

/-! # Playing a story with nothing to report

    Where no text has tags, what the linter has read is what the reader is shown: the links
    on screen are those of the passages' texts. So a story without errors and warnings
    offers links to its own passages only, and the linter has reached every one of them.
    The invariant of play is that all that is on screen shows such passages; going to one
    of them renders without fail and keeps it.
-/

namespace Hyperfiction

variable {σ S H : Type}

/-! ## Section 1: Links that are written out -/

/-- The story's links can be read off its texts: outside of the configuration no text has a
    complete tag, and play stays out of the configuration. -/
structure Story.HasPlainLinks (s : Story) : Prop where
  noTags : ∀ p ∈ s.passages.toList, p.name ≠ configName → ¬ Template.HasTag p.text.toList
  start : ∀ p, s.passage? s.start = some p → p.name ≠ configName
  links : ∀ p ∈ s.passages.toList, p.name ≠ configName →
    ∀ link ∈ Lint.linksOf p, link.target ≠ configName

/-! ## Section 2: What is on screen -/

/-- The passage that the reader may be shown: one of the story's texts, which the linter
    has reached. -/
structure Story.Visits (s : Story) (p : Passage) : Prop where
  mem : p ∈ s.passages.toList
  isText : p.name ≠ configName
  reached : p.id ∈ Lint.reachable s

theorem Story.HasPlainLinks.visits_start {s : Story} (hs : s.HasPlainLinks) {p : Passage}
    (h : s.passage? s.start = some p) : s.Visits p where
  mem := Story.mem_of_passage? h
  isText := hs.start p h
  reached := by
    rw [Lint.mem_reachable_iff, Story.id_of_passage? h]
    exact .root List.mem_cons_self

/-- The header and the footer may be shown, since they are neither the configuration nor
    out of the linter's reach. -/
theorem Story.visits_framing {s : Story} {p : Passage} {name : String}
    (h : s.passageNamed? name = some p) (hname : name ≠ configName)
    (hframing : p ∈ s.header?.toList ++ s.footer?.toList) : s.Visits p where
  mem := Story.mem_of_passageNamed? h
  isText := by
    rw [Story.name_of_passageNamed? h]
    exact hname
  reached := by
    rw [Lint.mem_reachable_iff]
    exact .root (List.mem_cons_of_mem _ (List.mem_map_of_mem hframing))

theorem Story.visits_header {s : Story} {p : Passage} (h : s.header? = some p) : s.Visits p :=
  Story.visits_framing h (by decide) (List.mem_append_left _ (Option.mem_toList.2 h))

theorem Story.visits_footer {s : Story} {p : Passage} (h : s.footer? = some p) : s.Visits p :=
  Story.visits_framing h (by decide) (List.mem_append_right _ (Option.mem_toList.2 h))

/-- A link of such a passage leads to such a passage. -/
theorem Story.Visits.link {s : Story} (hs : s.HasPlainLinks) (hc : s.IsClean) {p : Passage}
    (hp : s.Visits p) {link : Link} (hl : link ∈ Lint.linksOf p) :
    ∃ q, s.passageNamed? link.target = some q ∧ s.Visits q := by
  obtain ⟨q, hq⟩ := hc.exists_target hp.mem hp.isText hl
  refine ⟨q, hq, Story.mem_of_passageNamed? hq, ?_, ?_⟩
  · rw [Story.name_of_passageNamed? hq]
    exact hs.links p hp.mem hp.isText link hl
  · have hnext : q.id ∈ Lint.successors s p := Lint.mem_successors_iff.2 ⟨link, hl, q, hq, rfl⟩
    have hreached := Lint.mem_reachable_iff.1 hp.reached
    exact Lint.mem_reachable_iff.2 (hreached.link (Story.passage?_of_mem hp.mem) hnext)

/-- What a screen shows: the passage, the header and the footer. -/
def Screen.panes (d : Screen) : List RenderedPassage :=
  d.passage.toList ++ d.header.toList ++ d.footer.toList

/-- The links to passages that the reader can click. -/
def Screen.offered (d : Screen) : List Link :=
  d.panes.flatMap RenderedPassage.passageLinks

theorem Screen.mem_panes {d : Screen} {pane : RenderedPassage} :
    pane ∈ d.panes ↔ d.passage = some pane ∨ d.header = some pane ∨ d.footer = some pane := by
  simp [panes, Option.mem_toList]

/-- The pane shows a passage that may be shown, with the links of its text. -/
def Story.Fills (s : Story) (pane : RenderedPassage) : Prop :=
  ∃ p, s.Visits p ∧ pane.passage = p.id ∧ pane.passageLinks = Lint.linksOf p

/-- All that is on screen shows passages that may be shown. -/
def Story.FillsScreen (s : Story) (d : Screen) : Prop :=
  ∀ pane ∈ d.panes, s.Fills pane

theorem Story.FillsScreen.dressed {s : Story} {d d' : Screen} (h : s.FillsScreen d)
    (hd : Dressed d d') : s.FillsScreen d' := by
  obtain ⟨hpassage, hheader, hfooter, -⟩ := hd.screen
  intro pane hpane
  rw [Screen.mem_panes, hpassage, hheader, hfooter, ← Screen.mem_panes] at hpane
  exact h pane hpane

/-- A frame that shows such passages may be put on such a screen. -/
theorem Story.FillsScreen.showOn {s : Story} {d : Screen} (h : s.FillsScreen d) {frame : Frame}
    (hmain : s.Fills frame.passage) (hheader : ∀ pane ∈ frame.header, s.Fills pane)
    (hfooter : ∀ pane ∈ frame.footer, s.Fills pane) : s.FillsScreen (frame.showOn d) := by
  obtain ⟨hp, hh, hf⟩ := frame.showOn_screen d
  intro pane hpane
  rw [Screen.mem_panes, hp, hh, hf, Option.or_eq_some_iff, Option.or_eq_some_iff] at hpane
  rcases hpane with hpane | (hpane | ⟨-, hpane⟩) | (hpane | ⟨-, hpane⟩)
  · obtain rfl := Option.some.inj hpane
    exact hmain
  · exact hheader pane hpane
  · exact h pane (Screen.mem_panes.2 (.inr (.inl hpane)))
  · exact hfooter pane hpane
  · exact h pane (Screen.mem_panes.2 (.inr (.inr hpane)))

/-! ## Section 3: One navigation -/

section

variable {s : Story} (hs : s.HasPlainLinks)

include hs

/-- Such a passage is rendered without fail, with the links of its text. -/
theorem Story.Visits.render {p : Passage} (hp : s.Visits p) (r : Renderer σ) (scene : Scene)
    (w : World σ) : ∃ pane, s.Fills pane ∧
      (r.render { scene with passage := p }).outcome w = (.ok pane, w) := by
  have htags : ¬ Template.HasTag { scene with passage := p }.passage.text.toList :=
    hs.noTags p hp.mem hp.isText
  refine ⟨r.finish p p.text, ⟨p, hp, rfl, ?_⟩, ?_⟩
  · -- the linter and the renderer read the same text
    rw [RenderedPassage.passageLinks, Renderer.links_finish]
    rfl
  · exact r.render_plain htags w

theorem renderOptional_visited (r : Renderer σ) (scene : Scene) (w : World σ)
    {found : Option Passage} (h : ∀ p ∈ found, s.Visits p) :
    ∃ shown, (∀ pane ∈ shown, s.Fills pane) ∧ RendersOptional r scene found w shown w := by
  cases found with
  | none => exact ⟨none, by simp, .missing w⟩
  | some p =>
    obtain ⟨pane, hpane, hrender⟩ := (h p rfl).render hs r scene w
    refine ⟨some pane, ?_, .present hrender⟩
    rintro _ ⟨⟩
    exact hpane

variable [BrowserHistory H] [Accepting H]

/-- Going to such a passage succeeds, and leaves such passages on screen. -/
theorem goTo_visited {e : Engine σ S H Screen} (he : e.story = s) (hd : s.FillsScreen e.display)
    (query : Query) {p : Passage} (hq : s.resolve query = some p) (hp : s.Visits p) :
    ∃ after, e.goToPassage query true = (.ok (), after) ∧ after.story = s ∧
      s.FillsScreen after.display ∧ ∃ pane, after.display.passage = some pane := by
  subst he
  -- nothing changes the world, so the three renderings begin and end in the same one
  obtain ⟨main, hmain, hrender⟩ := hp.render hs e.renderer (e.sceneOf p true) ⟨e.state, e.memory⟩
  obtain ⟨header, hheader, hrenderHeader⟩ := renderOptional_visited hs e.renderer
    (e.sceneOf p true) ⟨e.state, e.memory⟩ (fun q hq => Story.visits_header hq)
  obtain ⟨footer, hfooter, hrenderFooter⟩ := renderOptional_visited hs e.renderer
    (e.sceneOf p true) ⟨e.state, e.memory⟩ (fun q hq => Story.visits_footer hq)
  have hframe : RendersFrame e.renderer (e.sceneOf p true) ⟨e.state, e.memory⟩
      ⟨main, header, footer⟩ ⟨e.state, e.memory⟩ := ⟨_, _, hrender, hrenderHeader, hrenderFooter⟩
  have hrecord : BrowserHistory.record e.browser (e.actionTo p .decide) (e.entryOf p true)
      = (.ok (), (BrowserHistory.record e.browser (e.actionTo p .decide) (e.entryOf p true)).2) :=
    Prod.ext (Accepting.accepts _ _ _) rfl
  refine ⟨_, Engine.goTo_recorded hq hframe hrecord, rfl, ?_, main, ?_⟩
  · exact (hd.dressed (e.dressed_titled p)).showOn hmain hheader hfooter
  · exact (Frame.showOn_screen _ _).1

end

/-! ## Section 4: Clicking along -/

namespace Engine

/-- The reader has played and then clicked links that were on screen, one after the other;
    `e` is the engine after that. -/
inductive Clicked [Storage S] [BrowserHistory H] (first : Engine σ S H Screen) :
    Engine σ S H Screen → Prop where
  | played : Clicked first first.play.2
  | followed {e : Engine σ S H Screen} {link : Link} : Clicked first e →
      link ∈ e.display.offered → Clicked first (e.followLink link.target).2

variable [Storage S] [BrowserHistory H] [Accepting H]

/-- Play that begins a story with plain links succeeds. -/
theorem play_visited {first : Engine σ S H Screen} (hs : first.story.HasPlainLinks)
    (hscreen : first.display = {}) (hsave : Storage.hasSave first.store first.saveKey = .ok false) :
    ∃ after, first.play = (.ok (), after) ∧ after.story = first.story ∧
      first.story.FillsScreen after.display ∧ ∃ pane, after.display.passage = some pane := by
  obtain ⟨p, hp⟩ := Option.isSome_iff_exists.1 first.story.start_exists
  -- the configuration of the story may change the looks of the screen, but shows nothing
  have hempty : first.story.FillsScreen first.configured.display := by
    intro pane hpane
    have hconfigured : first.configured.display
        = Display.applyConfig first.story.config first.display := rfl
    rw [hconfigured, hscreen] at hpane
    cases hpane
  obtain ⟨after, hgo, hstory, hfills, hshown⟩ := goTo_visited hs (e := first.configured) rfl hempty
    (.id first.story.start) hp (hs.visits_start hp)
  refine ⟨{ after with place := { after.place with atCheckpoint := true } }, ?_, hstory, hfills,
    hshown⟩
  rw [play_unsaved hsave]
  unfold begin goToStart
  have hgo' : first.configured.goToPassage (.id first.configured.story.start) true
      = (.ok (), after) := hgo
  rw [hgo']

omit [Storage S] in
/-- So does following any link that is on screen. -/
theorem follow_offered {s : Story} (hs : s.HasPlainLinks) (hc : s.IsClean)
    {e : Engine σ S H Screen} (he : e.story = s) (hd : s.FillsScreen e.display) {link : Link}
    (hl : link ∈ e.display.offered) :
    ∃ after, e.followLink link.target = (.ok (), after) ∧ after.story = s ∧
      s.FillsScreen after.display ∧ ∃ pane, after.display.passage = some pane := by
  obtain ⟨pane, hpane, hlink⟩ := List.mem_flatMap.1 hl
  obtain ⟨p, hp, -, hlinks⟩ := hd pane hpane
  rw [hlinks] at hlink
  obtain ⟨q, hq, hvisits⟩ := hp.link hs hc hlink
  exact goTo_visited hs he hd (.name link.target) hq hvisits

/-- **A story with nothing to report never fails a reader who clicks.** Let the linter find
    neither errors nor warnings in a story with plain links, and let a reader with nothing
    saved play it and click links on screen, however often, under any renderer. Every one of
    these steps succeeds; a passage is on screen after each, and the linter has reached it,
    as well as the header and the footer. -/
theorem clicking_never_fails {s : Story} (hs : s.HasPlainLinks) (hc : s.IsClean)
    {first : Engine σ S H Screen} (hstory : first.story = s) (hscreen : first.display = {})
    (hsave : Storage.hasSave first.store first.saveKey = .ok false) :
    first.play.1 = .ok () ∧ ∀ e, Clicked first e →
      (∀ link ∈ e.display.offered, (e.followLink link.target).1 = .ok ()) ∧
      (∃ pane, e.display.passage = some pane) ∧
      ∀ pane ∈ e.display.panes, pane.passage ∈ Lint.reachable s := by
  subst hstory
  obtain ⟨played, hplay, hplayed⟩ := play_visited hs hscreen hsave
  refine ⟨by rw [hplay], ?_⟩
  intro e he
  -- the invariant: the screen shows a passage, and only such as may be shown
  have hinv : e.story = first.story ∧ first.story.FillsScreen e.display ∧
      ∃ pane, e.display.passage = some pane := by
    induction he with
    | played =>
      rw [hplay]
      exact hplayed
    | followed _ hl ih =>
      obtain ⟨hsame, hfills, -⟩ := ih
      obtain ⟨after, hgo, hafter⟩ := follow_offered hs hc hsame hfills hl
      rw [hgo]
      exact hafter
  obtain ⟨hsame, hfills, hshown⟩ := hinv
  refine ⟨?_, hshown, ?_⟩
  · intro link hl
    obtain ⟨after, hgo, -⟩ := follow_offered hs hc hsame hfills hl
    rw [hgo]
  · intro pane hpane
    obtain ⟨p, hp, hid, -⟩ := hfills pane hpane
    rw [hid]
    exact hp.reached

end Engine

/-! ## Section 5: A garden with a gate -/

/-- The passages of a garden: a gate that a link in the header leads back to, and a lawn
    with a tag that nothing closes. -/
def gardenGate : Passage where
  id := 1
  name := "Gate"
  tags := []
  source := "[[in|Lawn]]"

def gardenLawn : Passage where
  id := 2
  name := "Lawn"
  tags := [checkpointTag]
  source := "It is &lt;% dark."

def gardenHeader : Passage where
  id := 3
  name := headerName
  tags := []
  source := "[[Gate]]"

/-- A configuration, of nothing but a comment, that would be an error in a text. -/
def gardenConfig : Passage where
  id := 4
  name := configName
  tags := []
  source := "# &lt;% %&gt;[[Nowhere]]"

def gardenStory : Story where
  name := "Garden"
  ifid := none
  creator := none
  creatorVersion := none
  start := 1
  passages := .ofList [gardenGate, gardenLawn, gardenHeader, gardenConfig]
  config := {}
  passages_agree := PassageIndex.agrees_ofList _
  start_exists := by decide

/-- A reader with nothing saved, in front of an empty screen. -/
def gardenReader : Engine Unit MemoryStore MemoryHistory Screen :=
  { lampReader with story := gardenStory, state := [] }

theorem mem_gardenStory {p : Passage} (hp : p ∈ gardenStory.passages.toList)
    (hname : p.name ≠ configName) : p = gardenGate ∨ p = gardenLawn ∨ p = gardenHeader := by
  have hlist : gardenStory.passages.toList
      = [gardenGate, gardenLawn, gardenHeader, gardenConfig] := rfl
  simp only [hlist, List.mem_cons, List.not_mem_nil, or_false] at hp
  rcases hp with rfl | rfl | rfl | rfl
  · exact .inl rfl
  · exact .inr (.inl rfl)
  · exact .inr (.inr rfl)
  · exact absurd rfl hname

theorem gardenStory_isClean : gardenStory.IsClean where
  errors := by cbv
  warnings := by cbv

theorem linksOf_gardenGate :
    Lint.linksOf gardenGate = [{ display := "in", target := "Lawn", kind := .passage }] := by
  cbv

theorem linksOf_gardenHeader :
    Lint.linksOf gardenHeader = [{ display := "Gate", target := "Gate", kind := .passage }] := by
  cbv

theorem gardenStory_hasPlainLinks : gardenStory.HasPlainLinks where
  noTags := by
    rintro p hp hname ⟨before, body, rest, htext⟩
    have hclosed : ['%', '>'] <:+: p.text.toList :=
      ⟨before ++ '<' :: '%' :: body, rest, by simp [htext, Template.Piece.tag]⟩
    rcases mem_gardenStory hp hname with rfl | rfl | rfl
    · exact absurd hclosed (by decide)
    · exact absurd hclosed (by decide)
    · exact absurd hclosed (by decide)
  start := by
    intro p hp
    obtain rfl : gardenGate = p := Option.some.inj hp
    decide
  links := by
    intro p hp hname link hl
    rcases mem_gardenStory hp hname with rfl | rfl | rfl
    · rw [linksOf_gardenGate, List.mem_singleton] at hl
      rw [hl]
      decide
    · have hnone : Lint.linksOf gardenLawn = [] := by cbv
      rw [hnone] at hl
      cases hl
    · rw [linksOf_gardenHeader, List.mem_singleton] at hl
      rw [hl]
      decide

/-- The reader gets in, and wherever they click they stay among the gate, the lawn and the
    header. -/
theorem Engine.clicking_never_fails_garden :
    gardenReader.play.1 = .ok () ∧ (gardenReader.play.2.followLink "Lawn").1 = .ok () ∧
      ∀ e, Engine.Clicked gardenReader e →
        (∀ link ∈ e.display.offered, (e.followLink link.target).1 = .ok ()) ∧
        ∀ pane ∈ e.display.panes, pane.passage ∈ [2, 3, 1] := by
  have hsave : Storage.hasSave gardenReader.store gardenReader.saveKey = .ok false := rfl
  have h := Engine.clicking_never_fails gardenStory_hasPlainLinks gardenStory_isClean rfl rfl hsave
  have hreached : Lint.reachable gardenStory = [2, 3, 1] := by cbv
  have hlink : { display := "in", target := "Lawn", kind := .passage }
      ∈ gardenReader.play.2.display.offered := by
    have hoffered : gardenReader.play.2.display.offered =
        [{ display := "in", target := "Lawn", kind := .passage },
          { display := "Gate", target := "Gate", kind := .passage }] := by cbv
    rw [hoffered]
    exact List.mem_cons_self
  rw [hreached] at h
  obtain ⟨hplay, hclicks⟩ := h
  refine ⟨hplay, (hclicks _ .played).1 _ hlink, ?_⟩
  intro e he
  exact ⟨(hclicks e he).1, (hclicks e he).2.2⟩

end Hyperfiction
