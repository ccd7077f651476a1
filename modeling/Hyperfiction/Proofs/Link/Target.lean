import Hyperfiction.Proofs.Movement
import Hyperfiction.Proofs.Template.Plain
import Hyperfiction.Proofs.Text.Entity

/-! # A link and the passage it names

    The way of a passage name from the author to the reader and back. It is written into
    link markup, the markup is stored with entities, decoded, looked through for tags, cut
    at the brackets, split at a separator, and the name is written with entities into an
    attribute; what is read from the attribute when the link is clicked asks the story for
    a passage. A name that fits into a link comes through all of this as it was, whatever
    other brackets, quotes, dashes and entities are in it.
-/

namespace Hyperfiction

open LinkPiece

namespace Link

/-! ## Section 1: What fits into a link -/

/-- The text can be part of a link: it is on one line, does not close the link, and opens no
    tag. -/
structure Fits (cs : List Char) : Prop where
  oneLine : '\n' ∉ cs
  noClose : ¬ [']', ']'] <:+: cs
  noTag : ¬ ['<', '%'] <:+: cs

instance (cs : List Char) : Decidable (Fits cs) :=
  decidable_of_iff ('\n' ∉ cs ∧ ¬ [']', ']'] <:+: cs ∧ ¬ ['<', '%'] <:+: cs)
    ⟨fun h => ⟨h.1, h.2.1, h.2.2⟩, fun h => ⟨h.oneLine, h.noClose, h.noTag⟩⟩

/-- What may stand between the display text and the target of a link. -/
def separators : List (List Char) :=
  [['|'], ['-', '>']]

/-- No separator has a part in what ends a link or begins a tag. -/
theorem separators_neutral : ∀ sep ∈ separators, sep ≠ [] ∧ '\n' ∉ sep ∧ ']' ∉ sep ∧
    '<' ∉ sep ∧ '%' ∉ sep := by
  decide

variable {d n sep : List Char}

theorem Fits.isBody (hd : Fits d) (hn : Fits n) (hlast : n.getLast? ≠ some ']')
    (hsep : sep ∈ separators) : IsBody (d ++ sep ++ n) := by
  obtain ⟨hne, hline, hclose, -, -⟩ := separators_neutral sep hsep
  have hpair := Text.not_pair_infix_joined hd.noClose hn.noClose hne hclose hclose
  refine isBody_of_not_pair ?_ hpair ?_
  · simp only [List.mem_append, not_or]
    exact ⟨⟨hd.oneLine, hline⟩, hn.oneLine⟩
  · -- an empty name leaves the separator at the end
    cases n with
    | nil =>
      rw [List.append_nil, List.getLast?_append_of_ne_nil _ hne]
      exact fun h => hclose (List.mem_of_getLast? h)
    | cons c n =>
      rw [List.getLast?_append_of_ne_nil _ (List.cons_ne_nil c n)]
      exact hlast

theorem Fits.not_hasTag (hd : Fits d) (hn : Fits n) (hsep : sep ∈ separators) :
    ¬ Template.HasTag (markup (d ++ sep ++ n)) := by
  obtain ⟨hne, -, -, hlt, hpercent⟩ := separators_neutral sep hsep
  have hinner := Text.not_pair_infix_joined hd.noTag hn.noTag hne hlt hpercent
  refine Template.not_hasTag_of_not_pair ?_
  unfold markup
  rw [Text.pair_infix_cons, Text.pair_infix_cons, Text.pair_infix_append, or_iff_right hinner]
  simp [Text.pair_infix_cons]

/-! ## Section 2: Reading the link -/

/-- The first bar separates, if there is one. -/
theorem ofBody_bar (hbar : '|' ∉ d) (n : List Char) :
    ofBody (d ++ ['|'] ++ n) = ofParts (String.ofList d) (String.ofList n) := by
  have hcut : Text.cutAt '|' (d ++ ['|'] ++ n) = some (d, n) := by
    rw [List.append_assoc]
    exact Text.cutAt_append hbar n
  unfold ofBody splitBody
  rw [hcut]

/-- Without a bar the first arrow does. -/
theorem ofBody_arrow (hbar : '|' ∉ d) (hbar' : '|' ∉ n) (harrow : ¬ ['-', '>'] <:+: d) :
    ofBody (d ++ ['-', '>'] ++ n) = ofParts (String.ofList d) (String.ofList n) := by
  have hnone : Text.cutAt '|' (d ++ ['-', '>'] ++ n) = none := by
    rw [Text.cutAt_eq_none_iff]
    simp [hbar, hbar']
  have hcut : Text.cutAtPair '-' '>' (d ++ ['-', '>'] ++ n) = some (d, n) := by
    rw [List.append_assoc]
    exact Text.cutAtPair_append (by decide) harrow n
  unfold ofBody splitBody
  rw [hnone, hcut]

/-- Text that is one link is replaced by the element of the link. -/
theorem replaceAll_markup {b : List Char} (h : IsBody b) :
    replaceAll (String.ofList (markup b)) = ⟨(ofBody b).html, [ofBody b]⟩ := by
  unfold replaceAll
  rw [String.toList_ofList, cut_markup h]
  simp [rendered, link?]

/-- A passage whose stored text is one link shows that link. -/
theorem render_stored {σ : Type} {scene : Scene} {d n : String} (sep : String) {l : Link}
    (hd : Fits d.toList) (hn : Fits n.toList) (hlast : n.toList.getLast? ≠ some ']')
    (hsep : sep.toList ∈ separators) (hl : ofBody (d.toList ++ sep.toList ++ n.toList) = l)
    (hsource : scene.passage.source = Entity.escape ("[[" ++ d ++ sep ++ n ++ "]]"))
    (r : Renderer σ) (w : World σ) :
    (r.render scene).outcome w = (.ok
      { passage := scene.passage.id, name := scene.passage.name, html := r.markup l.html
        links := [l] }, w) := by
  have hmarkup : "[[" ++ d ++ sep ++ n ++ "]]"
      = String.ofList (markup (d.toList ++ sep.toList ++ n.toList)) := by
    rw [← String.toList_inj, String.toList_ofList]
    simp [markup]
  -- the entities of the stored text are read back, and there is no tag to expand
  have htext : scene.passage.text
      = String.ofList (markup (d.toList ++ sep.toList ++ n.toList)) := by
    rw [Passage.text, hsource, Entity.unescape_escape, hmarkup]
  have htag : ¬ Template.HasTag scene.passage.text.toList := by
    rw [htext, String.toList_ofList]
    exact hd.not_hasTag hn hsep
  rw [r.render_plain htag w, Renderer.finish, htext,
    replaceAll_markup (hd.isBody hn hlast hsep), hl]

/-! ## Section 3: The attribute -/

/-- `value` is what a text holds between the first `opening` and the first `closing` after
    it. -/
def FirstBetween (opening : List Char) (closing : Char) (text value : List Char) : Prop :=
  ∃ before after, text = before ++ opening ++ value ++ closing :: after ∧
    (∀ l r, text = l ++ opening ++ r → before.length ≤ l.length) ∧ closing ∉ value

/-- What the element of a passage link begins with, and where its attribute begins. -/
def elementStart : List Char := "<a href=\"javascript:void(0)\" ".toList
def attributeStart : List Char := "data-passage=\"".toList

theorem attribute_starts_once : ∀ k < elementStart.length,
    ((elementStart ++ attributeStart).drop k).take attributeStart.length ≠ attributeStart := by
  decide

/-- The first attribute of the name in the element of a passage link holds the target,
    written with entities. -/
theorem firstBetween_html {l : Link} (h : l.kind = .passage) :
    FirstBetween attributeStart '\"' l.html.toList (Entity.encode l.target.toList) := by
  have hhtml : l.html.toList = elementStart ++ attributeStart ++ Entity.encode l.target.toList ++
      '\"' :: (" class=\"passage-link\">".toList ++ l.display.toList ++ "</a>".toList) := by
    have hstart : "<a href=\"javascript:void(0)\" data-passage=\"".toList
        = elementStart ++ attributeStart := rfl
    have hend : "\" class=\"passage-link\">".toList
        = '\"' :: " class=\"passage-link\">".toList := rfl
    unfold html
    rw [h]
    simp only [String.toList_append, Entity.toList_escape, hstart, hend, List.append_assoc,
      List.cons_append]
  refine ⟨elementStart, _, hhtml, ?_, Entity.quote_not_mem_encode _⟩
  intro before after hbefore
  by_contra hlt
  rw [Nat.not_le] at hlt
  -- where the attribute would begin, only what all elements begin with has been read
  refine attribute_starts_once before.length hlt ?_
  have hread : (l.html.toList.drop before.length).take attributeStart.length = attributeStart := by
    rw [hbefore, List.append_assoc, List.drop_left, List.take_left]
  rw [hhtml, List.append_assoc (elementStart ++ attributeStart),
    List.drop_append_of_le_length (by simp; omega),
    List.take_append_of_le_length (by simp; omega)] at hread
  exact hread

/-! ## Section 4: From the author to the passage -/

/-- Following a link to the name of a passage goes to that passage, or fails for another
    reason than that there is none. -/
theorem followLink_of_mem {σ S H D : Type} [BrowserHistory H] [Display D]
    {e : Engine σ S H D} {target : Passage} (h : target ∈ e.story.passages.toList) :
    (∀ query, (e.followLink target.name).1 ≠ .error (.passageNotFound query)) ∧
      ((e.followLink target.name).1 = .ok () →
        (e.followLink target.name).2.place.current? = some target.id) := by
  have hfound : e.story.resolve (.name target.name) = some target :=
    Story.passageNamed?_of_mem h
  constructor
  · intro query herr
    cases Engine.goTo_fails_iff.1 herr with
    | unresolved hnone => cases hnone.symm.trans hfound
  · intro hok
    -- what the engine commits to ends its history with the passage that was resolved
    obtain ⟨passage, frame, hc⟩ := Engine.goTo_ok_commits (Prod.ext hok rfl :
      e.goTo (.name target.name) true .decide = (.ok (), (e.followLink target.name).2))
    obtain rfl : target = passage := Option.some.inj (hfound.symm.trans hc.resolved)
    rw [Place.current?, hc.history, if_pos rfl, List.getLast?_concat]

/-- **A link leads to the passage it names.** A passage whose stored text is the link with
    display text `d` to the name of `target` is rendered, under every evaluator and markup,
    and shows one link, with that text and that name. What a reader's click finds in its
    element is the name written with entities, and the name asks every engine over the
    story for `target`. Written with an arrow for the bar, the link is the same, if no bar
    is in the name and no arrow in the display text. -/
theorem leads_to_its_passage {σ S H D : Type} [BrowserHistory H] [Display D] {story : Story}
    {target : Passage} (htarget : target ∈ story.passages.toList) {d : String}
    (hd : Fits d.toList) (hn : Fits target.name.toList)
    (hlast : target.name.toList.getLast? ≠ some ']') (hbar : '|' ∉ d.toList)
    (hkind : classify target.name = .passage) {scene : Scene}
    (hsource : scene.passage.source = Entity.escape ("[[" ++ d ++ "|" ++ target.name ++ "]]"))
    (ev : Evaluator σ) (w : World σ) :
    (∀ m : Markup, ∃ shown, (Renderer.render ⟨ev, m⟩ scene).outcome w = (.ok shown, w) ∧
      shown.links = [{ display := d, target := target.name, kind := .passage }]) ∧
    (∃ shown value, (Renderer.render ⟨ev, .plain⟩ scene).outcome w = (.ok shown, w) ∧
      FirstBetween "data-passage=\"".toList '\"' shown.html.toList value ∧
      Entity.decode value = target.name.toList) ∧
    (∀ e : Engine σ S H D, e.story = story →
      e.story.resolve (.name target.name) = some target ∧
      (∀ query, (e.followLink target.name).1 ≠ .error (.passageNotFound query)) ∧
      ((e.followLink target.name).1 = .ok () →
        (e.followLink target.name).2.place.current? = some target.id)) ∧
    ('|' ∉ target.name.toList → ¬ ['-', '>'] <:+: d.toList → ∀ m : Markup,
      (Renderer.render ⟨ev, m⟩
        { scene with
          passage :=
            { scene.passage with
              source := Entity.escape ("[[" ++ d ++ "->" ++ target.name ++ "]]") } }).outcome w
        = (Renderer.render ⟨ev, m⟩ scene).outcome w) := by
  have hparts : ofParts (String.ofList d.toList) (String.ofList target.name.toList)
      = { display := d, target := target.name, kind := .passage } := by
    rw [String.ofList_toList, String.ofList_toList, ofParts, hkind]
  have hshown := fun m : Markup => render_stored "|" hd hn hlast (by decide)
    ((ofBody_bar hbar _).trans hparts) hsource ⟨ev, m⟩ w
  refine ⟨?_, ?_, ?_, ?_⟩
  · intro m
    exact ⟨_, hshown m, rfl⟩
  · -- the plain markup leaves the element as it is
    have hattribute := firstBetween_html (l := ⟨d, target.name, .passage⟩) rfl
    exact ⟨_, _, hshown .plain, hattribute, Entity.decode_encode _⟩
  · rintro e rfl
    exact ⟨Story.passageNamed?_of_mem htarget, followLink_of_mem htarget⟩
  · -- both texts come to the same link, and nothing else of the scene is read
    intro hbar' harrow m
    refine Eq.trans ?_ (hshown m).symm
    exact render_stored "->" hd hn hlast (by decide)
      ((ofBody_arrow hbar hbar' harrow).trans hparts) rfl ⟨ev, m⟩ w

end Link

/-! ## Section 5: A story with an awkward name -/

/-- A passage whose name is full of what the way to it gives a meaning to. -/
def backDoor : Passage where
  id := 2
  name := "[\"Back\"] & <Door> -> &quot; 'x"
  tags := []
  source := "It is locked."

/-- A story in which that passage is linked to. -/
def doorsStory : Story where
  name := "Doors"
  ifid := none
  creator := none
  creatorVersion := none
  start := 1
  passages :=
    .ofList
      [{ id := 1, name := "Hall", tags := []
         source :=
           "[[[a]-&amp;lt;|[&quot;Back&quot;] &amp; &lt;Door&gt; -&gt; &amp;quot; &#39;x]]" },
        backDoor]
  config := {}
  passages_agree := PassageIndex.agrees_ofList _
  start_exists := by decide

/-- The scene in which its first passage is rendered. -/
def doorsScene : Scene where
  passage := doorsStory.passages.toList.head (by decide)
  story := doorsStory
  history := [1]
  checkpoint := ""

/-- The name comes back as it was, and leads there. -/
theorem Link.leads_to_its_passage_door :
    (∃ shown, (Renderer.render ⟨(Evaluator.switches : Evaluator Unit), .plain⟩ doorsScene).outcome
        ⟨[], ()⟩ = (.ok shown, ⟨[], ()⟩) ∧
      shown.links = [{ display := "[a]-&lt;", target := backDoor.name, kind := .passage }]) ∧
    (∃ shown value, (Renderer.render ⟨(Evaluator.switches : Evaluator Unit), .plain⟩
        doorsScene).outcome ⟨[], ()⟩ = (.ok shown, ⟨[], ()⟩) ∧
      Link.FirstBetween "data-passage=\"".toList '\"' shown.html.toList value ∧
      Entity.decode value = backDoor.name.toList) ∧
    doorsStory.resolve (.name backDoor.name) = some backDoor := by
  have hmember : backDoor ∈ doorsStory.passages.toList := by decide
  have hname : Link.Fits backDoor.name.toList := by decide
  have hstored : doorsScene.passage.source
      = Entity.escape ("[[" ++ "[a]-&lt;" ++ "|" ++ backDoor.name ++ "]]") := by decide
  obtain ⟨hlinks, hattribute, hengine, -⟩ :=
    Link.leads_to_its_passage (S := MemoryStore) (H := MemoryHistory) (D := Screen) hmember
      (by decide) hname (by decide) (by decide) (by decide) hstored Evaluator.switches ⟨[], ()⟩
  refine ⟨hlinks .plain, hattribute, ?_⟩
  exact (hengine { lampReader with story := doorsStory } rfl).1

end Hyperfiction
