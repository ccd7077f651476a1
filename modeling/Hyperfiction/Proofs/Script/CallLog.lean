import Hyperfiction.Helper.Readymade
import Hyperfiction.Proofs.Script.Calls

/-! # The calls of a run

    A script asks for helper calls one after the other. The *log* of its run lists them:
    what each call found, what it answered, and what it left. All that helpers do to a run
    can be read off the log. Each call finds the copy of the variables as the calls before
    it have left it, so the copy is a matter between the helpers alone, and a run remembers
    the failure of the last call that failed, whatever has been asked for afterwards.

    A call reaches a helper only with arguments that are story values. A script that passes
    a function is refused by the script's own rules, and nothing of it is in the log.
-/

namespace Hyperfiction

variable {σ : Type}

/-! ## Section 1: Calls one after the other -/

/-- A call of a helper in a run. -/
structure HelperCall (σ : Type) where
  helper : String
  args : List Value
  /-- The copy of the variables that the helper finds, and what it remembers. -/
  found : World σ
  answer : Except HelperError Value
  /-- The copy of the variables after the call, and what the helper remembers then. -/
  left : World σ

namespace HelperCall

/-- The helper that is called, and with what. -/
def asked (c : HelperCall σ) : String × List Value :=
  (c.helper, c.args)

/-- The helper and its error, if the call fails. -/
def failure? (c : HelperCall σ) : Option (String × HelperError) :=
  match c.answer with
  | .ok _ => none
  | .error e => some (c.helper, e)

theorem failure?_eq_some_iff {c : HelperCall σ} {name : String} {e : HelperError} :
    c.failure? = some (name, e) ↔ c.helper = name ∧ c.answer = .error e := by
  unfold failure?
  cases c.answer with
  | ok v => simp
  | error err => simp

theorem failure?_eq_none_iff {c : HelperCall σ} : c.failure? = none ↔ ∃ v, c.answer = .ok v := by
  unfold failure?
  cases c.answer with
  | ok v => simp
  | error err => simp

/-- The failure of the last call that fails. -/
def lastFailure? (log : List (HelperCall σ)) : Option (String × HelperError) :=
  log.reverse.findSome? failure?

@[simp] theorem lastFailure?_nil : lastFailure? ([] : List (HelperCall σ)) = none := rfl

theorem lastFailure?_cons (c : HelperCall σ) (log : List (HelperCall σ)) :
    lastFailure? (c :: log) = (lastFailure? log).or c.failure? := by
  unfold lastFailure?
  rw [List.reverse_cons, List.findSome?_append, List.findSome?_singleton]

theorem lastFailure?_eq_none_iff {log : List (HelperCall σ)} :
    lastFailure? log = none ↔ ∀ c ∈ log, ∃ v, c.answer = .ok v := by
  unfold lastFailure?
  simp only [List.findSome?_eq_none_iff, List.mem_reverse, failure?_eq_none_iff]

/-- A failure is the last one when all calls after it succeed. -/
theorem lastFailure?_eq_some_iff {log : List (HelperCall σ)} {name : String} {e : HelperError} :
    lastFailure? log = some (name, e) ↔ ∃ before c later, log = before ++ c :: later ∧
      c.helper = name ∧ c.answer = .error e ∧ ∀ d ∈ later, ∃ v, d.answer = .ok v := by
  unfold lastFailure?
  rw [List.findSome?_eq_some_iff]
  constructor
  · rintro ⟨later, c, before, hlog, hfails, hlater⟩
    obtain ⟨hname, hanswer⟩ := failure?_eq_some_iff.1 hfails
    refine ⟨before.reverse, c, later.reverse, ?_, hname, hanswer, ?_⟩
    · have hlog' := congrArg List.reverse hlog
      simpa using hlog'
    · intro d hd
      exact failure?_eq_none_iff.1 (hlater d (List.mem_reverse.1 hd))
  · rintro ⟨before, c, later, rfl, hname, hanswer, hlater⟩
    refine ⟨later.reverse, c, before.reverse, by simp, failure?_eq_some_iff.2 ⟨hname, hanswer⟩, ?_⟩
    intro d hd
    exact failure?_eq_none_iff.2 (hlater d (List.mem_reverse.1 hd))

end HelperCall

/-- The world that calls leave when they are made one after the other. -/
def HelperSet.after (helpers : HelperSet σ) (scene : Scene) (w : World σ) :
    List (String × List Value) → World σ
  | [] => w
  | (name, args) :: rest =>
    match Table.get? name helpers with
    | none => after helpers scene w rest
    | some h => after helpers scene (h.outcome scene args w).2 rest

/-- The calls of the log are made one after the other, from one world to another: each
    finds what the one before it has left. -/
inductive HelperSet.Makes (helpers : HelperSet σ) (scene : Scene) :
    World σ → List (HelperCall σ) → World σ → Prop where
  | nil (w : World σ) : Makes helpers scene w [] w
  | cons {w₁ w₂ : World σ} {c : HelperCall σ} {h : Helper σ} {log : List (HelperCall σ)} :
      Table.get? c.helper helpers = some h →
      h.outcome scene c.args c.found = (c.answer, c.left) → c.found = w₁ →
      Makes helpers scene c.left log w₂ → Makes helpers scene w₁ (c :: log) w₂

namespace HelperSet.Makes

variable {helpers : HelperSet σ} {scene : Scene} {w w₁ w₂ : World σ} {log : List (HelperCall σ)}

/-- Where calls lead is settled by what is asked for. -/
theorem after_eq (h : helpers.Makes scene w log w₁) :
    helpers.after scene w (log.map HelperCall.asked) = w₁ := by
  induction h with
  | nil w => rfl
  | cons hget houtcome hfound _ ih =>
    subst hfound
    rw [List.map_cons, HelperCall.asked, HelperSet.after, hget]
    dsimp only
    rw [houtcome]
    exact ih

theorem of_append {before later : List (HelperCall σ)}
    (h : helpers.Makes scene w (before ++ later) w₂) :
    ∃ w₁, helpers.Makes scene w before w₁ ∧ helpers.Makes scene w₁ later w₂ := by
  induction before generalizing w with
  | nil => exact ⟨w, .nil w, h⟩
  | cons c before ih =>
    cases h with
    | cons hget houtcome hfound hrest =>
      obtain ⟨w₁, hbefore, hlater⟩ := ih hrest
      exact ⟨w₁, .cons hget houtcome hfound hbefore, hlater⟩

/-- A call finds what the calls before it have made of the world. -/
theorem found_eq {before later : List (HelperCall σ)} {c : HelperCall σ}
    (h : helpers.Makes scene w (before ++ c :: later) w₂) :
    c.found = helpers.after scene w (before.map HelperCall.asked) := by
  obtain ⟨w₁, hbefore, hlater⟩ := h.of_append
  cases hlater with
  | cons _ _ hfound _ => rw [hfound, hbefore.after_eq]

/-- Every call of the log is one of a helper in the set. -/
theorem of_mem (h : helpers.Makes scene w log w₁) {c : HelperCall σ} (hc : c ∈ log) :
    ∃ h, Table.get? c.helper helpers = some h ∧
      h.outcome scene c.args c.found = (c.answer, c.left) := by
  induction h with
  | nil w => cases hc
  | cons hget houtcome _ _ ih =>
    rcases List.mem_cons.1 hc with rfl | hc
    · exact ⟨_, hget, houtcome⟩
    · exact ih hc

/-- What every call of the log keeps is the same after them as before. -/
theorem keeps {α : Type} {f : World σ → α} (h : helpers.Makes scene w log w₁)
    (hkeeps : ∀ c ∈ log, f c.left = f c.found) : f w₁ = f w := by
  induction h with
  | nil w => rfl
  | cons _ _ hfound _ ih =>
    subst hfound
    rw [ih fun c hc => hkeeps c (List.mem_cons_of_mem _ hc)]
    exact hkeeps _ List.mem_cons_self

/-- What every helper of the set keeps true is true after the calls. -/
theorem preserves {P : World σ → Prop} (h : helpers.Makes scene w log w₁)
    (hhelpers : ∀ n h, Table.get? n helpers = some h →
      ∀ args w, P w → P (h.outcome scene args w).2)
    (hw : P w) : P w₁ := by
  induction h with
  | nil w => exact hw
  | @cons _ _ c h _ hget houtcome hfound _ ih =>
    subst hfound
    have hleft : P (h.outcome scene c.args c.found).2 := hhelpers c.helper h hget c.args c.found hw
    rw [houtcome] at hleft
    exact ih hleft

end HelperSet.Makes

/-! ## Section 2: The log of a run -/

namespace Script.Run

variable {α : Type}

/-- The calls that a run makes, in order. -/
def log (helpers : HelperSet σ) (scene : Scene) : Run α → World σ → List (HelperCall σ)
  | .done _, _ => []
  | .ask name args resume, w =>
    match Table.get? name helpers with
    | none => (resume (.error "no such helper")).log helpers scene w
    | some h =>
      let (answer, left) := h.outcome scene args w
      ⟨name, args, w, answer, left⟩ :: (resume (answer.mapError HelperError.message)).log helpers
        scene left

/-- What a run comes to, without what its calls have done. -/
def result (helpers : HelperSet σ) (scene : Scene) (r : Run α) (w : World σ) : α :=
  (r.outcome helpers scene none w).1.1

/-- The calls of a log are made one after the other, up to the world that the run leaves. -/
theorem makes_log (helpers : HelperSet σ) (scene : Scene) (r : Run α)
    (failure : Option (String × HelperError)) (w : World σ) :
    helpers.Makes scene w (r.log helpers scene w) (r.outcome helpers scene failure w).2 := by
  induction r generalizing failure w with
  | done a => exact .nil w
  | ask name args resume ih =>
    cases hget : Table.get? name helpers with
    | none =>
      rw [outcome_unknown hget, log, hget]
      exact ih _ _ _
    | some h =>
      rw [outcome_ask hget, log, hget]
      dsimp only
      -- the run goes on after a failure too, in the world that the helper has left
      rcases houtcome : h.outcome scene args w with ⟨e | v, left⟩
      · exact .cons hget houtcome rfl (ih (.error e.message) _ left)
      · exact .cons hget houtcome rfl (ih (.ok v) _ left)

/-- A run remembers the failure of the last call that failed. -/
theorem outcome_failure (helpers : HelperSet σ) (scene : Scene) (r : Run α)
    (failure : Option (String × HelperError)) (w : World σ) :
    (r.outcome helpers scene failure w).1.2
      = (HelperCall.lastFailure? (r.log helpers scene w)).or failure := by
  induction r generalizing failure w with
  | done a => rfl
  | ask name args resume ih =>
    cases hget : Table.get? name helpers with
    | none =>
      rw [outcome_unknown hget, log, hget]
      exact ih _ _ _
    | some h =>
      rw [outcome_ask hget, log, hget]
      dsimp only
      -- a failure takes the place of an earlier one, and gives way to a later one
      rcases h.outcome scene args w with ⟨e | v, left⟩
      · dsimp only
        rw [HelperCall.lastFailure?_cons, ih, Option.or_assoc]
        rfl
      · dsimp only
        rw [HelperCall.lastFailure?_cons, ih, Option.or_assoc]
        rfl

/-- What a run comes to follows from its result and its log. -/
theorem outcome_eq (helpers : HelperSet σ) (scene : Scene) (r : Run α) (w : World σ) :
    r.outcome helpers scene none w
      = ((r.result helpers scene w, HelperCall.lastFailure? (r.log helpers scene w)),
          helpers.after scene w ((r.log helpers scene w).map HelperCall.asked)) := by
  have hfailure := outcome_failure helpers scene r none w
  rw [Option.or_none] at hfailure
  rw [(makes_log helpers scene r none w).after_eq, ← hfailure]
  rfl

end Script.Run

/-! ## Section 3: The course of a source -/

namespace Script

/-- What happens when a source is run in a scene and a world. -/
structure Course (σ : Type) where
  /-- The value of the script, or why it stops. -/
  result : Except Halt Datum
  /-- The variables of the script at its end. -/
  final : Environment
  calls : List (HelperCall σ)

/-- The course of a source, or why it is no script. -/
def courseOf (helpers : HelperSet σ) (scene : Scene) (source : String) (w : World σ) :
    Except SyntaxError (Course σ) :=
  match Program.parse [passageName, storyName] source with
  | .error e => .error e
  | .ok program =>
    let run := program.run (Table.keys helpers) (bindings scene w.state)
    let (result, final) := run.result helpers scene w
    .ok { result, final, calls := run.log helpers scene w }

/-- The helper calls of a source; none if it is no script. -/
def callsOf (helpers : HelperSet σ) (scene : Scene) (source : String) (w : World σ) :
    List (HelperCall σ) :=
  match courseOf helpers scene source w with
  | .error _ => []
  | .ok c => c.calls

/-- The world that the calls leave: the helpers' copy of the variables, and their memory. -/
def leftByCalls (helpers : HelperSet σ) (scene : Scene) (source : String) (w : World σ) :
    World σ :=
  helpers.after scene w ((callsOf helpers scene source w).map HelperCall.asked)

/-- At the end of the script `story.state` holds these variables. -/
def ScriptLeaves (helpers : HelperSet σ) (scene : Scene) (code source : String) (w : World σ)
    (script : StateBag) : Prop :=
  ∃ c, courseOf helpers scene source w = .ok c ∧ writtenState code c.final = .ok script

variable {helpers : HelperSet σ} {scene : Scene} {code source : String} {w w' : World σ}
  {c : Course σ}

theorem callsOf_unread {e : SyntaxError} (h : courseOf helpers scene source w = .error e) :
    callsOf helpers scene source w = [] := by
  unfold callsOf
  rw [h]

theorem callsOf_course (h : courseOf helpers scene source w = .ok c) :
    callsOf helpers scene source w = c.calls := by
  unfold callsOf
  rw [h]

/-- The run of a source comes to what its course says. -/
theorem outcome_of_course (h : courseOf helpers scene source w = .ok c) :
    ∃ program, Program.parse [passageName, storyName] source = .ok program ∧
      c.calls = (program.run (Table.keys helpers) (bindings scene w.state)).log helpers scene w ∧
      (program.run (Table.keys helpers) (bindings scene w.state)).outcome helpers scene none w
        = (((c.result, c.final), HelperCall.lastFailure? (callsOf helpers scene source w)),
            leftByCalls helpers scene source w) := by
  unfold leftByCalls
  rw [callsOf_course h]
  unfold courseOf at h
  cases hparse : Program.parse [passageName, storyName] source with
  | error e =>
    rw [hparse] at h
    cases h
  | ok program =>
    rw [hparse] at h
    obtain rfl := Except.ok.inj h
    exact ⟨program, rfl, rfl, Run.outcome_eq helpers scene _ w⟩

/-- The calls of a source are made one after the other. -/
theorem makes_callsOf (helpers : HelperSet σ) (scene : Scene) (source : String) (w : World σ) :
    helpers.Makes scene w (callsOf helpers scene source w)
      (leftByCalls helpers scene source w) := by
  cases h : courseOf helpers scene source w with
  | error e =>
    unfold leftByCalls
    rw [callsOf_unread h]
    exact .nil w
  | ok c =>
    obtain ⟨program, -, hcalls, houtcome⟩ := outcome_of_course h
    have hmakes := Run.makes_log helpers scene
      (program.run (Table.keys helpers) (bindings scene w.state)) none w
    rw [houtcome, ← hcalls, ← callsOf_course h] at hmakes
    exact hmakes

theorem runCode_course (h : courseOf helpers scene source w = .ok c) (code : String) :
    (runCode helpers scene code source).outcome w = settle code w.state
      (((c.result, c.final), HelperCall.lastFailure? (callsOf helpers scene source w)),
        leftByCalls helpers scene source w) := by
  obtain ⟨program, hparse, -, houtcome⟩ := outcome_of_course h
  rw [← houtcome]
  exact runCode_outcome hparse w.state w.memory

theorem runCode_unread {e : SyntaxError} (h : courseOf helpers scene source w = .error e)
    (code : String) :
    (runCode helpers scene code source).outcome w = (.error (syntaxError code e), w) := by
  unfold courseOf at h
  cases hparse : Program.parse [passageName, storyName] source with
  | error err =>
    rw [hparse] at h
    obtain rfl := Except.error.inj h
    unfold runCode
    rw [hparse]
    rfl
  | ok program =>
    rw [hparse] at h
    cases h

/-! ## Section 4: How a source ends -/

/-- The ways in which running a source ends. Only the last of them changes the variables. -/
inductive Ends (helpers : HelperSet σ) (scene : Scene) (code source : String) (w : World σ) :
    Except TemplateError Datum → World σ → Prop where
  /-- The source is no script. -/
  | unread {e : SyntaxError} (hread : courseOf helpers scene source w = .error e) :
      Ends helpers scene code source w (.error (syntaxError code e)) w
  /-- A helper has failed. -/
  | helperFailed {name : String} {e : HelperError}
      (hfails : HelperCall.lastFailure? (callsOf helpers scene source w) = some (name, e)) :
      Ends helpers scene code source w (.error (.helper name e))
        ⟨w.state, (leftByCalls helpers scene source w).memory⟩
  /-- The script has stopped before its end. -/
  | stopped {halt : Halt}
      (hquiet : HelperCall.lastFailure? (callsOf helpers scene source w) = none) :
      Ends helpers scene code source w (.error (haltError code halt))
        ⟨w.state, (leftByCalls helpers scene source w).memory⟩
  /-- What the script has left in the place of the variables is no map of story values. -/
  | spoilt {e : TemplateError} {final : Environment}
      (hquiet : HelperCall.lastFailure? (callsOf helpers scene source w) = none)
      (hwritten : writtenState code final = .error e) :
      Ends helpers scene code source w (.error e)
        ⟨w.state, (leftByCalls helpers scene source w).memory⟩
  /-- The script has left variables, and what helpers changed is laid over them. -/
  | ended {d : Datum} {script : StateBag}
      (hquiet : HelperCall.lastFailure? (callsOf helpers scene source w) = none)
      (hleaves : ScriptLeaves helpers scene code source w script) :
      Ends helpers scene code source w (.ok d)
        ⟨layWrites w.state (leftByCalls helpers scene source w).state script,
          (leftByCalls helpers scene source w).memory⟩

/-- Every source ends in one of these ways. -/
theorem ends (helpers : HelperSet σ) (scene : Scene) (code source : String) (w : World σ) :
    Ends helpers scene code source w ((runCode helpers scene code source).outcome w).1
      ((runCode helpers scene code source).outcome w).2 := by
  cases hcourse : courseOf helpers scene source w with
  | error e =>
    rw [runCode_unread hcourse]
    exact .unread hcourse
  | ok c =>
    rw [runCode_course hcourse]
    unfold settle
    -- a failure of a helper is looked at first, then the end of the script, then its variables
    cases hfails : HelperCall.lastFailure? (callsOf helpers scene source w) with
    | some failure => exact .helperFailed hfails
    | none =>
      cases c.result with
      | error halt => exact .stopped hfails
      | ok d =>
        dsimp only
        cases hwritten : writtenState code c.final with
        | error e => exact .spoilt hfails hwritten
        | ok script => exact .ended hfails ⟨c, hcourse, hwritten⟩

theorem ends_of_outcome {result : Except TemplateError Datum}
    (h : (runCode helpers scene code source).outcome w = (result, w')) :
    Ends helpers scene code source w result w' := by
  have hends := ends helpers scene code source w
  rw [h] at hends
  exact hends

/-- A source that fails leaves the variables as they were. -/
theorem state_of_runCode_error {e : TemplateError}
    (h : (runCode helpers scene code source).outcome w = (.error e, w')) :
    w'.state = w.state := by
  cases ends_of_outcome h with
  | unread _ => rfl
  | helperFailed _ => rfl
  | stopped _ => rfl
  | spoilt _ _ => rfl

/-- What a source that succeeds has come to: its script has run to its end, and what helpers
    changed is laid over the variables that it leaves. -/
theorem course_of_runCode_ok {d : Datum}
    (h : (runCode helpers scene code source).outcome w = (.ok d, w')) :
    ∃ c script, courseOf helpers scene source w = .ok c ∧ c.result = .ok d ∧
      writtenState code c.final = .ok script ∧
      w'.state = layWrites w.state (leftByCalls helpers scene source w).state script := by
  cases hcourse : courseOf helpers scene source w with
  | error e =>
    rw [runCode_unread hcourse] at h
    cases h
  | ok c =>
    rw [runCode_course hcourse] at h
    unfold settle at h
    dsimp only at h
    split at h
    · cases h
    · split at h
      · cases h
      case h_2 d' hresult =>
        split at h
        · cases h
        case h_2 script hwritten =>
          obtain ⟨hd, rfl⟩ := Prod.mk.inj h
          obtain rfl := Except.ok.inj hd
          exact ⟨c, script, rfl, hresult, hwritten, rfl⟩

/-- A source that succeeds leaves what its script does, with what its helpers changed laid
    over it. -/
theorem state_of_runCode_ok {d : Datum}
    (h : (runCode helpers scene code source).outcome w = (.ok d, w')) :
    ∃ script, ScriptLeaves helpers scene code source w script ∧
      w'.state = layWrites w.state (leftByCalls helpers scene source w).state script := by
  obtain ⟨c, script, hcourse, -, hwritten, hstate⟩ := course_of_runCode_ok h
  exact ⟨script, ⟨c, hcourse, hwritten⟩, hstate⟩

/-- The last call that has failed is what the source fails by. -/
theorem runCode_of_lastFailure {name : String} {e : HelperError}
    (h : HelperCall.lastFailure? (callsOf helpers scene source w) = some (name, e))
    (code : String) :
    (runCode helpers scene code source).outcome w
      = (.error (.helper name e), ⟨w.state, (leftByCalls helpers scene source w).memory⟩) := by
  cases hcourse : courseOf helpers scene source w with
  | error err =>
    rw [callsOf_unread hcourse] at h
    cases h
  | ok c =>
    rw [runCode_course hcourse, h]
    rfl

theorem writtenState_ne_helper (code : String) (final : Environment) (name : String)
    (e : HelperError) : writtenState code final ≠ .error (.helper name e) := by
  intro h
  unfold writtenState at h
  split at h
  · split at h
    · cases h
    · split at h <;> cases h
    · cases h
  · cases h

theorem haltError_ne_helper (code : String) (halt : Halt) (name : String) (e : HelperError) :
    haltError code halt ≠ .helper name e := by
  intro h
  unfold haltError at h
  split at h
  · unfold faultError at h
    split at h <;> cases h
  · cases h

/-- A source fails by a helper exactly when a call of its run has failed, and then by the last
    one that has. -/
theorem runCode_helper_iff {name : String} {e : HelperError} :
    ((runCode helpers scene code source).outcome w).1 = .error (.helper name e) ↔
      HelperCall.lastFailure? (callsOf helpers scene source w) = some (name, e) := by
  constructor
  · intro h
    have hends := ends helpers scene code source w
    generalize (runCode helpers scene code source).outcome w = o at hends h
    obtain ⟨result, after⟩ := o
    -- no other end of a source looks like the failure of a helper
    cases hends with
    | @unread err _ => cases err <;> cases h
    | helperFailed hfails =>
      cases h
      exact hfails
    | stopped _ => exact absurd (Except.error.inj h) (haltError_ne_helper _ _ _ _)
    | spoilt _ hwritten =>
      rw [Except.error.inj h] at hwritten
      exact absurd hwritten (writtenState_ne_helper _ _ _ _)
    | ended _ _ => cases h
  · intro h
    rw [runCode_of_lastFailure h]

/-! ## Section 5: A workshop

    Helpers that write, take away and fail, to run scripts against. -/

def workshopPassage : Passage where
  id := 1
  name := "Workshop"
  tags := []
  source := ""

def workshopStory : Story where
  name := "Workshop"
  ifid := none
  creator := none
  creatorVersion := none
  start := 1
  passages := .ofList [workshopPassage]
  config := {}
  passages_agree := PassageIndex.agrees_ofList _
  start_exists := by decide

def workshop : Scene where
  passage := workshopPassage
  story := workshopStory
  history := [1]
  checkpoint := ""

def workshopHelpers : HelperSet Unit :=
  Table.ofPairs
    [("gild", Helper.setVariable "gold"), ("put", Helper.setVariable "slot"),
      ("snuff", Helper.removeVariable "lamp"), ("jam", Helper.failure (.str "it broke")),
      ("stick", Helper.argumentFailure (.str "nonsense"))]

/-- There is a coin and a lamp. -/
def workshopWorld : World Unit where
  state := [("gold", .int 1), ("lamp", .str "lit")]
  memory := ()

/-- One variable is written by a helper and then by the script, one is taken away by a helper. -/
def merging : String :=
  "put(7); story.state.slot = 8; snuff()"

/-- A variable is written by a helper and then by the script. -/
def haggling : String :=
  "gild(5); story.state.gold = 3; put(7)"

/-- A helper gives the coin back the value that it had. -/
def givingBack : String :=
  "story.state.gold = 2; gild(1)"

/-- The script goes on after a helper has failed, and after the next. -/
def fumbling : String :=
  "try { jam() } catch { put(7) } try { stick() } catch { put(8) }"

/-- A number is put in the place of the variables. -/
def spoiling : String :=
  "put(7); story.state = 1"

/-- An expression whose script stops after a helper has written. -/
def dividing : String :=
  "[put(7), 1 / 0]"

/-- An expression whose value is no story value. -/
def listing : String :=
  "[put(7), |x| x]"

/-- A computation that succeeds has a value. -/
theorem exists_of_isOk {α : Type} {x : Except TemplateError α × World σ}
    (h : x.1.isOk = true) : ∃ a w, x = (.ok a, w) := by
  obtain ⟨e | a, w⟩ := x
  · cases h
  · exact ⟨a, w, rfl⟩

/-- A computation that does not succeed has an error. -/
theorem exists_of_not_isOk {α : Type} {x : Except TemplateError α × World σ}
    (h : x.1.isOk = false) : ∃ e w, x = (.error e, w) := by
  obtain ⟨e | a, w⟩ := x
  · exact ⟨e, w, rfl⟩
  · cases h

theorem eq_of_same_int {found : Option Value} {n : Int}
    (h : sameVariable found (some (.int n)) = true) : found = some (.int n) := by
  cases found with
  | none => cases h
  | some v =>
    cases v with
    | int m => rw [show m = n from LawfulBEq.eq_of_beq h]
    | _ => cases h

-- a function is no story value, so that no helper is called with it
example : (callsOf workshopHelpers workshop "try { put(|x| x) } catch { }" workshopWorld).length
    = 0 := by
  decide +kernel

end Script

end Hyperfiction
