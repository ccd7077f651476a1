import Mathlib.Data.List.Induction
import Hyperfiction.Player.Game
import Hyperfiction.Proofs.Events

/-! # The numbers of links

    A reader at a terminal follows a link by its number, and the numbers are those of the
    list that the terminal keeps: it is emptied when a passage is shown, and the passage,
    the header and the footer each add their links to it. Nothing else writes it. So
    between two arrivals it stays what the frame of the first one made it, whatever is
    typed: a navigation that fails, a blank entry of the browser's history, a saved game
    written or taken away, or a question about the game prints something and moves nothing.
-/

namespace Hyperfiction

variable {σ S H : Type}

/-! ## Section 1: What the terminal keeps -/

/-- The links of a frame that lead to passages: those of the passage, then those of the
    header, then those of the footer. -/
def Frame.passageLinks (frame : Frame) : List Link :=
  frame.passage.passageLinks ++ frame.header.toList.flatMap RenderedPassage.passageLinks
    ++ frame.footer.toList.flatMap RenderedPassage.passageLinks

namespace Terminal

@[simp] theorem links_print (text : String) (t : Terminal) : (t.print text).links = t.links := rfl

@[simp] theorem links_printLine (line : String) (t : Terminal) :
    (t.printLine line).links = t.links := rfl

@[simp] theorem links_printLines (lines : List String) (t : Terminal) :
    (t.printLines lines).links = t.links := by
  unfold printLines
  induction lines generalizing t with
  | nil => rfl
  | cons line rest ih => exact ih (t.printLine line)

@[simp] theorem links_showPart (part : RenderedPassage) (t : Terminal) :
    (t.showPart part).links = t.links ++ part.passageLinks := by
  simp [showPart]

/-- The lines that list links under their numbers. -/
def numbered (links : List Link) : List String :=
  links.mapIdx fun i link => "  [" ++ toString (i + 1) ++ "] " ++ link.display

theorem printLinks_eq (t : Terminal) : t.printLinks = t.printLines (numbered t.links) := rfl

@[simp] theorem links_printLinks (t : Terminal) : t.printLinks.links = t.links := by
  rw [printLinks_eq, links_printLines]

/-- A number is that of a link exactly if it counts one of the links. -/
theorem link?_eq_some_iff {t : Terminal} {number : Nat} {link : Link} :
    t.link? number = some link ↔ 1 ≤ number ∧ t.links[number - 1]? = some link := by
  unfold link?
  split
  case isTrue hzero => simp [hzero]
  case isFalse hpos => simp [Nat.one_le_iff_ne_zero, hpos]

theorem link?_isSome_iff {t : Terminal} {number : Nat} :
    (t.link? number).isSome ↔ 1 ≤ number ∧ number ≤ t.links.length := by
  rw [Option.isSome_iff_exists]
  simp only [link?_eq_some_iff, exists_and_left, ← Option.isSome_iff_exists, isSome_getElem?]
  omega

end Terminal

/-- Titles and configurations are only printed. -/
theorem Dressed.links {t t' : Terminal} (h : Dressed t t') : t'.links = t.links := by
  induction h with
  | refl => rfl
  | title text _ ih => exact ih
  | config c _ ih =>
    show (if c.darkTheme then _ else _ : Terminal).links = _
    split
    · exact ih
    · exact ih

/-- A frame on the terminal leaves its own links there, and no others. -/
theorem Frame.links_showOn (frame : Frame) (t : Terminal) :
    (frame.showOn t).links = frame.passageLinks := by
  have hmain : (Display.showPassage frame.passage t).links = frame.passage.passageLinks := by
    show (Terminal.showPart _ _).links = _
    rw [Terminal.links_showPart]
    rfl
  obtain ⟨main, header, footer⟩ := frame
  have hpart : ∀ (part : RenderedPassage) (t : Terminal),
      (Display.showHeader part t).links = t.links ++ part.passageLinks ∧
      (Display.showFooter part t).links = t.links ++ part.passageLinks :=
    fun part t => ⟨Terminal.links_showPart part t, Terminal.links_showPart part t⟩
  cases header <;> cases footer <;> simp [showOn, passageLinks, hmain, hpart]

namespace Engine

/-! ## Section 2: Commands that keep the numbers -/

/-- The reader is where they were, and the links have the numbers they had. What the
    terminal has printed may differ. -/
structure KeepsNumbers (e after : Engine σ S H Terminal) : Prop where
  story : after.story = e.story
  history : after.place.history = e.place.history
  links : after.display.links = e.display.links

theorem KeepsNumbers.refl (e : Engine σ S H Terminal) : e.KeepsNumbers e := ⟨rfl, rfl, rfl⟩

theorem KeepsNumbers.trans {e₁ e₂ e₃ : Engine σ S H Terminal} (h : e₁.KeepsNumbers e₂)
    (h' : e₂.KeepsNumbers e₃) : e₁.KeepsNumbers e₃ :=
  ⟨h'.story.trans h.story, h'.history.trans h.history, h'.links.trans h.links⟩

theorem Unmoved.keepsNumbers {e after : Engine σ S H Terminal} (h : e.Unmoved after) :
    e.KeepsNumbers after :=
  ⟨h.story, h.history, h.display.links⟩

theorem keepsNumbers_say (line : String) (e : Engine σ S H Terminal) :
    e.KeepsNumbers (e.say line) := ⟨rfl, rfl, rfl⟩

theorem keepsNumbers_sayAll (lines : List String) (e : Engine σ S H Terminal) :
    e.KeepsNumbers (e.sayAll lines) := ⟨rfl, rfl, Terminal.links_printLines lines e.display⟩

theorem keepsNumbers_listLinks (e : Engine σ S H Terminal) : e.KeepsNumbers e.listLinks :=
  ⟨rfl, rfl, e.display.links_printLinks⟩

theorem keepsNumbers_prompt (e : Engine σ S H Terminal) : e.KeepsNumbers e.prompt :=
  ⟨rfl, rfl, rfl⟩

theorem keepsNumbers_conclude (result : Except EngineError Unit × Engine σ S H Terminal) :
    result.2.KeepsNumbers (conclude result) := by
  rcases result with ⟨err | _, e⟩
  · exact e.keepsNumbers_say _
  · exact e.keepsNumbers_listLinks

theorem keepsNumbers_saying (line : String)
    (result : Except EngineError Unit × Engine σ S H Terminal) :
    result.2.KeepsNumbers (saying line result).2 := by
  rcases result with ⟨err | _, e⟩
  · exact .refl e
  · exact e.keepsNumbers_say line

/-! ## Section 3: Where a game stands -/

theorem Arrived.links {e after : Engine σ S H Terminal} {passage : Passage} {frame : Frame}
    (h : e.Arrived after passage frame) : after.display.links = frame.passageLinks := by
  obtain ⟨d, -, hshown⟩ := h.display
  rw [hshown, frame.links_showOn]

/-- The passage was visited last, and the links of the frame are those that have numbers. -/
structure StandsAt (opened game : Engine σ S H Terminal) (passage : Passage) (frame : Frame) :
    Prop where
  story : game.story = opened.story
  last : game.place.history.getLast? = some passage.id
  links : game.display.links = frame.passageLinks

theorem StandsAt.keep {opened game after : Engine σ S H Terminal} {passage : Passage}
    {frame : Frame} (h : opened.StandsAt game passage frame) (hk : game.KeepsNumbers after) :
    opened.StandsAt after passage frame where
  story := hk.story.trans h.story
  last := by rw [hk.history, h.last]
  links := hk.links.trans h.links

theorem Arrived.standsAt {opened e after : Engine σ S H Terminal} {passage : Passage}
    {frame : Frame} (h : e.Arrived after passage frame) (hstory : e.story = opened.story) :
    opened.StandsAt after passage frame :=
  ⟨h.story.trans hstory, h.last, h.links⟩

theorem StandsAt.visited {opened game : Engine σ S H Terminal} {passage : Passage}
    {frame : Frame} (h : opened.StandsAt game passage frame) : game.place.history ≠ [] := by
  intro hempty
  have hlast := h.last
  rw [hempty] at hlast
  cases hlast

variable [Storage S] [BrowserHistory H] [Travel H]

/-! ## Section 4: One command -/

/-- Whether a command sets out for a passage: a number does if it is that of a link, and
    going back or forward does if there is an entry of the story there. -/
def setsOut (e : Engine σ S H Terminal) : Command → Bool
  | .follow number => (e.display.link? number.toNat).isSome
  | .back => (Travel.back? e.browser).any fun moved => moved.1.isSome
  | .forward => (Travel.forward? e.browser).any fun moved => moved.1.isSome
  | .restore => true
  | .save | .reset | .history | .state | .help | .quit | .unknown _ => false

/-- The command is a navigation that succeeds. -/
def GetsThere (e : Engine σ S H Terminal) (command : Command) : Prop :=
  e.setsOut command = true ∧ (e.obey command).1 = .ok ()

/-- A command gets to a passage, or keeps the numbers. -/
def GetsThereOrKeeps (e : Engine σ S H Terminal) (command : Command) : Prop :=
  (e.GetsThere command ∧ ∃ passage frame, e.Arrived (e.obey command).2 passage frame) ∨
    (¬ e.GetsThere command ∧ e.KeepsNumbers (e.obey command).2)

/-- A navigation as a command, which may set out after something that moves nothing. -/
theorem getsThereOrKeeps_of_setsOut {e set : Engine σ S H Terminal} {command : Command}
    (hout : e.setsOut command = true) (hset : e.Unmoved set)
    (h : set.ArrivesOrKeeps (e.obey command)) : e.GetsThereOrKeeps command := by
  rcases hobey : e.obey command with ⟨result, after⟩
  rw [hobey] at h
  unfold GetsThereOrKeeps GetsThere
  rw [hobey]
  cases h with
  | arrives ha => exact .inl ⟨⟨hout, rfl⟩, _, _, ha.of_same hset.story hset.renderer hset.display⟩
  | keeps hk =>
    refine .inr ⟨?_, (hset.trans hk).keepsNumbers⟩
    rintro ⟨-, hok⟩
    cases hok

/-- A command that is no navigation. -/
theorem getsThereOrKeeps_of_keeps {e : Engine σ S H Terminal} {command : Command}
    (hout : e.setsOut command = false) (h : e.KeepsNumbers (e.obey command).2) :
    e.GetsThereOrKeeps command := by
  refine .inr ⟨?_, h⟩
  rintro ⟨hout', -⟩
  rw [hout] at hout'
  cases hout'

/-- Going back or forward, once a passage has been visited. -/
theorem getsThereOrKeeps_of_travel {e : Engine σ S H Terminal} {command : Command}
    {moved? : Option (Option Progress × H)} {nothing : String}
    (hvisited : e.place.history ≠ [])
    (hout : e.setsOut command = moved?.any fun moved => moved.1.isSome)
    (hobey : e.obey command = e.travelTo moved? nothing) : e.GetsThereOrKeeps command := by
  match moved? with
  | none =>
    refine getsThereOrKeeps_of_keeps hout ?_
    rw [hobey]
    exact e.keepsNumbers_say nothing
  | some (none, browser) =>
    -- the entry from before the story shows nothing, for the story has begun
    refine getsThereOrKeeps_of_keeps hout ?_
    rw [hobey]
    have hstays := handlePop_blank_visited (e := { e with browser }) hvisited
    show e.KeepsNumbers (({ e with browser } : Engine σ S H Terminal).handlePop none).2
    rw [hstays]
    exact ⟨rfl, rfl, rfl⟩
  | some (some p, browser) =>
    have hset : e.Unmoved { e with browser } := ⟨rfl, rfl, rfl, .refl _⟩
    refine getsThereOrKeeps_of_setsOut hout hset ?_
    rw [hobey]
    exact handlePop_entry_arrivesOrKeeps _ p

theorem obey_follow_of_link {e : Engine σ S H Terminal} {number : UInt64} {link : Link}
    (h : e.display.link? number.toNat = some link) :
    e.obey (.follow number) = e.followLink link.target := by
  simp only [obey, followNumber, h]

theorem obey_follow_of_none {e : Engine σ S H Terminal} {number : UInt64}
    (h : e.display.link? number.toNat = none) :
    e.obey (.follow number) = (.ok (), e.say "No link with that number.") := by
  simp only [obey, followNumber, h]

/-- Every command gets to a passage, or keeps the numbers. -/
theorem obey_getsThereOrKeeps {e : Engine σ S H Terminal} (hvisited : e.place.history ≠ [])
    (command : Command) : e.GetsThereOrKeeps command := by
  cases command with
  | follow number =>
    cases hlink : e.display.link? number.toNat with
    | none =>
      refine getsThereOrKeeps_of_keeps (by simp [setsOut, hlink]) ?_
      rw [obey_follow_of_none hlink]
      exact e.keepsNumbers_say _
    | some link =>
      refine getsThereOrKeeps_of_setsOut (by simp [setsOut, hlink]) (.refl e) ?_
      rw [obey_follow_of_link hlink]
      exact e.goToPassage_arrivesOrKeeps (.name link.target)
  | back => exact getsThereOrKeeps_of_travel hvisited rfl rfl
  | forward => exact getsThereOrKeeps_of_travel hvisited rfl rfl
  | restore => exact getsThereOrKeeps_of_setsOut rfl (.refl e) e.restore_arrivesOrKeeps
  | save =>
    have hsave := e.unmoved_save.keepsNumbers
    exact getsThereOrKeeps_of_keeps rfl (hsave.trans (keepsNumbers_saying _ _))
  | reset =>
    have hreset := e.unmoved_reset.keepsNumbers
    exact getsThereOrKeeps_of_keeps rfl (hreset.trans (keepsNumbers_saying _ _))
  | history => exact getsThereOrKeeps_of_keeps rfl (e.keepsNumbers_sayAll _)
  | state => exact getsThereOrKeeps_of_keeps rfl (e.keepsNumbers_say _)
  | help => exact getsThereOrKeeps_of_keeps rfl (e.keepsNumbers_sayAll _)
  | quit => exact getsThereOrKeeps_of_keeps rfl (e.keepsNumbers_say _)
  | unknown word => exact getsThereOrKeeps_of_keeps rfl (e.keepsNumbers_say _)

/-! ## Section 5: Line after line -/

/-- The game after a turn, with the next line asked for if it goes on. -/
def Turn.next : Turn σ S H → Engine σ S H Terminal
  | .goesOn e => e.prompt
  | .over e => e

/-- One of the lines ends the game. -/
def Quits (lines : List (List Char)) : Prop :=
  ∃ line ∈ lines, Command.ofLine line = some .quit

theorem answer_blank {e : Engine σ S H Terminal} {line : List Char}
    (h : Command.ofLine line = none) : e.answer line = .goesOn e := by
  unfold answer
  rw [h]

theorem answer_quit {e : Engine σ S H Terminal} {line : List Char}
    (h : Command.ofLine line = some .quit) : e.answer line = .over (e.obey .quit).2 := by
  unfold answer
  rw [h]

theorem answer_command {e : Engine σ S H Terminal} {line : List Char} {command : Command}
    (h : Command.ofLine line = some command) (hgoes : command ≠ .quit) :
    e.answer line = .goesOn (conclude (e.obey command)) := by
  unfold answer
  rw [h]
  cases command <;> first | rfl | exact absurd rfl hgoes

/-- What a line leaves of a game differs from what its command leaves at most in what is
    printed. -/
theorem keepsNumbers_next_answer {e : Engine σ S H Terminal} {line : List Char}
    {command : Command} (h : Command.ofLine line = some command) :
    (e.obey command).2.KeepsNumbers (e.answer line).next := by
  by_cases hquit : command = .quit
  · subst hquit
    rw [answer_quit h]
    exact .refl _
  · rw [answer_command h hquit]
    exact (keepsNumbers_conclude _).trans (keepsNumbers_prompt _)

theorem converse_quits {lines rest : List (List Char)} {e : Engine σ S H Terminal}
    (h : Quits lines) : e.converse (lines ++ rest) = e.converse lines := by
  induction lines generalizing e with
  | nil =>
    obtain ⟨line, hmem, -⟩ := h
    cases hmem
  | cons line lines ih =>
    simp only [List.cons_append, converse]
    by_cases hquit : Command.ofLine line = some .quit
    · rw [answer_quit hquit]
    · have hlater : Quits lines := by
        obtain ⟨line', hmem, hquits⟩ := h
        rcases List.mem_cons.1 hmem with rfl | hmem
        · exact absurd hquits hquit
        · exact ⟨line', hmem, hquits⟩
      split
      · exact ih hlater
      · rfl

/-- While nobody quits, one more line is answered by the game that the lines before it
    have left. -/
theorem converse_concat {lines : List (List Char)} {line : List Char}
    {e : Engine σ S H Terminal} (h : ¬ Quits lines) :
    e.converse (lines ++ [line]) = ((e.converse lines).answer line).next := by
  induction lines generalizing e with
  | nil =>
    simp only [List.nil_append, converse]
    cases (e.prompt.answer line) <;> rfl
  | cons first lines ih =>
    have hlater : ¬ Quits lines := fun ⟨line', hmem, hquits⟩ =>
      h ⟨line', List.mem_cons_of_mem _ hmem, hquits⟩
    have hgoes : Command.ofLine first ≠ some .quit := fun hquits =>
      h ⟨first, List.mem_cons_self, hquits⟩
    simp only [List.cons_append, converse]
    cases hcommand : Command.ofLine first with
    | none =>
      rw [answer_blank hcommand]
      exact ih hlater
    | some command =>
      have hgoes' : command ≠ .quit := by
        rintro rfl
        exact hgoes hcommand
      rw [answer_command hcommand hgoes']
      exact ih hlater

/-- The game that play has left, after lines. Its links are listed before the first one. -/
def afterLines (played : Engine σ S H Terminal) (lines : List (List Char)) :
    Engine σ S H Terminal :=
  played.listLinks.converse lines

/-- The last of the lines is a command that gets to a passage. -/
def GetsThereOn (played : Engine σ S H Terminal) (lines : List (List Char)) (line : List Char) :
    Prop :=
  ¬ Quits lines ∧ ∃ command, Command.ofLine line = some command ∧
    (played.afterLines lines).GetsThere command

/-- In the game that play made of `opened`, the last navigation to succeed before the end of
    the lines went to `passage` and showed `frame` there. -/
inductive LastShown (opened played : Engine σ S H Terminal) :
    List (List Char) → Passage → Frame → Prop where
  /-- Nothing was typed yet, and the passage is the one that play went to. -/
  | play {passage : Passage} {frame : Frame} :
      opened.Arrived played passage frame → LastShown opened played [] passage frame
  /-- The last line got there. -/
  | line {lines : List (List Char)} {line : List Char} {command : Command} {passage : Passage}
      {frame : Frame} : ¬ Quits lines → Command.ofLine line = some command →
      (played.afterLines lines).GetsThere command →
      (played.afterLines lines).Arrived ((played.afterLines lines).obey command).2 passage frame →
      LastShown opened played (lines ++ [line]) passage frame
  /-- The last line got nowhere. -/
  | wait {lines : List (List Char)} {line : List Char} {passage : Passage} {frame : Frame} :
      LastShown opened played lines passage frame → ¬ played.GetsThereOn lines line →
      LastShown opened played (lines ++ [line]) passage frame

/-- One more line: either it gets to a passage, which is the last one from then on, or the
    last one is the same as before, with the same numbers. -/
theorem StandsAt.answer {opened played : Engine σ S H Terminal} {lines : List (List Char)}
    {passage : Passage} {frame : Frame} (hlast : opened.LastShown played lines passage frame)
    (h : opened.StandsAt (played.afterLines lines) passage frame) (line : List Char) :
    ∃ passage' frame', opened.LastShown played (lines ++ [line]) passage' frame' ∧
      opened.StandsAt (played.afterLines (lines ++ [line])) passage' frame' := by
  by_cases hquits : Quits lines
  · -- the game was over before this line
    refine ⟨passage, frame, .wait hlast fun hthere => hthere.1 hquits, ?_⟩
    unfold afterLines
    rw [converse_quits hquits]
    exact h
  have hnext : played.afterLines (lines ++ [line])
      = ((played.afterLines lines).answer line).next := converse_concat hquits
  rw [hnext]
  cases hcommand : Command.ofLine line with
  | none =>
    refine ⟨passage, frame, .wait hlast ?_, ?_⟩
    · rintro ⟨-, command, hsome, -⟩
      rw [hcommand] at hsome
      cases hsome
    · rw [answer_blank hcommand]
      exact h.keep (keepsNumbers_prompt _)
  | some command =>
    have hanswer := keepsNumbers_next_answer (e := played.afterLines lines) hcommand
    rcases obey_getsThereOrKeeps h.visited command with ⟨hthere, passage', frame', ha⟩ | ⟨hnot, hk⟩
    · exact ⟨passage', frame', .line hquits hcommand hthere ha,
        (ha.standsAt h.story).keep hanswer⟩
    · refine ⟨passage, frame, .wait hlast ?_, h.keep (hk.trans hanswer)⟩
      rintro ⟨-, command', hsome, hthere⟩
      obtain rfl := Option.some.inj (hcommand.symm.trans hsome)
      exact hnot hthere

/-- After any lines the game stands at the passage of the last navigation to succeed. -/
theorem standsAt_afterLines {opened played : Engine σ S H Terminal}
    (hplay : opened.play = (.ok (), played)) (lines : List (List Char)) :
    ∃ passage frame, opened.LastShown played lines passage frame ∧
      opened.StandsAt (played.afterLines lines) passage frame := by
  induction lines using List.reverseRecOn with
  | nil =>
    have harrives := opened.play_arrivesOrKeeps
    rw [hplay] at harrives
    cases harrives with
    | @arrives _ passage frame _ _ ha =>
      have hopens : played.KeepsNumbers (played.afterLines []) :=
        (keepsNumbers_listLinks _).trans (keepsNumbers_prompt _)
      exact ⟨passage, frame, .play ha, (ha.standsAt rfl).keep hopens⟩
  | append_singleton lines line ih =>
    obtain ⟨passage, frame, hlast, hstands⟩ := ih
    exact hstands.answer hlast line

/-! ## Section 6: What a number does -/

omit [Storage S] [Travel H] in
/-- Following a link tells where it goes, whatever comes of it. -/
theorem followLink_trace_ne (e : Engine σ S H Terminal) (target : String) :
    (e.followLink target).2.trace ≠ e.trace := by
  show (e.goTo (.name target) true .decide).2.trace ≠ e.trace
  rw [goTo_trace]
  unfold navigationEvents bracketed
  split <;> simp

/-- The numbers of the game are those of these links: they are listed under them, and the
    links that stand under the numbers are followed, by their numbers and by no others. -/
structure NumberedBy (game : Engine σ S H Terminal) (links : List Link) : Prop where
  kept : game.display.links = links
  listed : game.listLinks = game.sayAll (Terminal.numbered links)
  followed_iff : ∀ number : UInt64,
    (∃ target, game.obey (.follow number) = game.followLink target) ↔
      1 ≤ number.toNat ∧ number.toNat ≤ links.length
  target : ∀ (number : UInt64) (link : Link), 1 ≤ number.toNat →
    links[number.toNat - 1]? = some link →
    game.obey (.follow number) = game.goToPassage (.name link.target) true
  beyond : ∀ number : UInt64, ¬ (1 ≤ number.toNat ∧ number.toNat ≤ links.length) →
    game.obey (.follow number) = (.ok (), game.say "No link with that number.")

/-- The links that a terminal keeps are those that have numbers. -/
theorem numberedBy_links (game : Engine σ S H Terminal) :
    game.NumberedBy game.display.links := by
  have hbeyond : ∀ number : UInt64,
      ¬ (1 ≤ number.toNat ∧ number.toNat ≤ game.display.links.length) →
      game.obey (.follow number) = (.ok (), game.say "No link with that number.") := by
    intro number hout
    rw [← Terminal.link?_isSome_iff, Option.not_isSome_iff_eq_none] at hout
    exact obey_follow_of_none hout
  refine ⟨rfl, rfl, fun number => ⟨?_, ?_⟩, ?_, hbeyond⟩
  · rintro ⟨target, hfollows⟩
    by_contra hout
    refine game.followLink_trace_ne target ?_
    rw [← hfollows, hbeyond number hout]
    rfl
  · intro hin
    obtain ⟨link, hlink⟩ := Option.isSome_iff_exists.1 (Terminal.link?_isSome_iff.2 hin)
    exact ⟨link.target, obey_follow_of_link hlink⟩
  · intro number link hpos hlink
    exact obey_follow_of_link (Terminal.link?_eq_some_iff.2 ⟨hpos, hlink⟩)

/-- **A number follows the link that is listed under it.** Take any game that play has
    started, and let any lines be typed. The links that have numbers are then those to
    passages in the frame of the last navigation to succeed: those of its passage, those of
    the header, and those of the footer. A number is followed exactly if it is one of
    theirs, and then the engine goes to the target of that link; any other number is
    answered with a word. Of all commands, those that set out for a passage and get there
    number the links of the frame they show; the others keep the numbers: a navigation that
    fails, one back to the entry from before the story, and all that is no navigation. -/
theorem number_follows_link {opened played : Engine σ S H Terminal}
    (hplay : opened.play = (.ok (), played)) (lines : List (List Char)) :
    ∃ passage frame, opened.LastShown played lines passage frame ∧
      (played.afterLines lines).place.history.getLast? = some passage.id ∧
      (played.afterLines lines).NumberedBy frame.passageLinks ∧
      ∀ command,
        ((played.afterLines lines).GetsThere command → ∃ passage' frame',
          (played.afterLines lines).Arrived ((played.afterLines lines).obey command).2 passage'
            frame' ∧
          ((played.afterLines lines).obey command).2.NumberedBy frame'.passageLinks) ∧
        (¬ (played.afterLines lines).GetsThere command →
          ((played.afterLines lines).obey command).2.NumberedBy frame.passageLinks) := by
  obtain ⟨passage, frame, hlast, hstands⟩ := standsAt_afterLines hplay lines
  have hnumbered : ∀ {game : Engine σ S H Terminal} {links : List Link},
      game.display.links = links → game.NumberedBy links := by
    rintro game _ rfl
    exact game.numberedBy_links
  refine ⟨passage, frame, hlast, hstands.last, hnumbered hstands.links, ?_⟩
  intro command
  rcases obey_getsThereOrKeeps hstands.visited command with
    ⟨hthere, passage', frame', ha⟩ | ⟨hnot, hk⟩
  · exact ⟨fun _ => ⟨passage', frame', ha, hnumbered ha.links⟩, fun hnot => absurd hthere hnot⟩
  · exact ⟨fun hthere => absurd hthere hnot, fun _ => hnumbered (hk.links.trans hstands.links)⟩

end Engine

/-! ## Section 7: At the harbour -/

/-- A story with links in its header and its footer. Nothing is at the end of the one in
    the header, and one on the quay leads out of the story. -/
def harbourStory : Story where
  name := "Harbour"
  ifid := none
  creator := none
  creatorVersion := none
  start := 1
  passages :=
    .ofList
      [{ id := 1, name := "Quay", tags := []
         source := "[[the boat|Boat]] [[a map|https://maps]] [[Market]]" },
        { id := 2, name := "Boat", tags := [], source := "It is gone." },
        { id := 3, name := "Market", tags := [], source := "Fish." },
        { id := 4, name := headerName, tags := [], source := "[[Bag]]" },
        { id := 5, name := footerName, tags := [], source := "[[Quay]]" }]
  config := {}
  passages_agree := PassageIndex.agrees_ofList _
  start_exists := by decide

/-- A game of that story in which no text is shown, but only what is listed. -/
def harbourGame : Engine Unit MemoryStore MemoryHistory Terminal where
  story := harbourStory
  renderer := { evaluator := .switches, markup := fun _ => "" }
  memory := ()
  store := {}
  browser := .fresh
  display := {}

/-- To the market, and then a link that leads nowhere, a saved game, and a number that is
    too high. -/
def harbourLines : List (List Char) :=
  ["2".toList, "1".toList, "save".toList, " ".toList, "7".toList]

/-- The bag and the quay still have the numbers that they got at the market. -/
theorem number_follows_link_market : ∃ played passage frame,
    harbourGame.play = (.ok (), played) ∧
    harbourGame.LastShown played harbourLines passage frame ∧ passage.id = 3 ∧
    frame.passageLinks.map Link.target = ["Bag", "Quay"] ∧
    (∃ target, (played.afterLines harbourLines).obey (.follow 2)
      = (played.afterLines harbourLines).followLink target) ∧
    (played.afterLines harbourLines).obey (.follow 3)
      = (.ok (), (played.afterLines harbourLines).say "No link with that number.") := by
  have hplay : harbourGame.play = (.ok (), harbourGame.play.2) := by
    have hok : harbourGame.play.1.isOk = true := by decide +kernel
    rcases hresult : harbourGame.play with ⟨err | _, played⟩
    · rw [hresult] at hok
      cases hok
    · rfl
  have hrun : ((harbourGame.play.2.afterLines harbourLines).place.history.getLast?,
      (harbourGame.play.2.afterLines harbourLines).display.links.map Link.target)
      = (some 3, ["Bag", "Quay"]) := by decide +kernel
  obtain ⟨hid, htargets⟩ := Prod.mk.inj hrun
  obtain ⟨passage, frame, hlast, hhistory, hnumbered, -⟩ :=
    Engine.number_follows_link hplay harbourLines
  have hlinks : frame.passageLinks.map Link.target = ["Bag", "Quay"] := by
    rw [← hnumbered.kept]
    exact htargets
  have hlength : frame.passageLinks.length = 2 := by
    rw [← List.length_map Link.target, hlinks]
    rfl
  refine ⟨_, passage, frame, hplay, hlast, ?_, hlinks, ?_, ?_⟩
  · exact Option.some.inj (hhistory.symm.trans hid)
  · refine (hnumbered.followed_iff 2).2 ?_
    rw [hlength]
    decide
  · refine hnumbered.beyond 3 ?_
    rw [hlength]
    decide

end Hyperfiction
