import Hyperfiction.Proofs.Likeness
import Hyperfiction.Script.Evaluator

/-! # Helper calls of scripts

    A script reaches the evaluator's memory only through the helpers it calls. So a script
    agrees, under any likeness of memories, when the helpers do that it may call. A script
    that avoids a helper, on every path of its run, runs as if it were not there; and of
    the helpers of every story, only `either` looks at the memory.
-/

namespace Hyperfiction

variable {σ : Type}

/-! ## Section 1: Helpers -/

/-- The answer of a helper and the variables it leaves do not depend on the memory. -/
def Helper.IsDetermined (h : Helper σ) : Prop :=
  ∀ scene args state m m',
    (h.outcome scene args ⟨state, m⟩).1 = (h.outcome scene args ⟨state, m'⟩).1 ∧
    (h.outcome scene args ⟨state, m⟩).2.state = (h.outcome scene args ⟨state, m'⟩).2.state

/-- All helpers but the one of this name are determined. -/
def HelperSet.DeterminedBut (helpers : HelperSet σ) (name : String) : Prop :=
  ∀ n h, Table.get? n helpers = some h → n ≠ name → h.IsDetermined

theorem Helper.visited_isDetermined : (Helper.visited : Helper σ).IsDetermined := by
  intro scene args state m m'
  rw [Helper.outcome_visited, Helper.outcome_visited]
  exact ⟨rfl, rfl⟩

theorem Helper.hasVisited_isDetermined : (Helper.hasVisited : Helper σ).IsDetermined := by
  intro scene args state m m'
  rw [Helper.outcome_hasVisited, Helper.outcome_hasVisited]
  exact ⟨rfl, rfl⟩

theorem HelperSet.builtins_cases {n : String} {h : Helper Random.Generator}
    (hget : Table.get? n HelperSet.builtins = some h) :
    (n = "either" ∧ h = Helper.either) ∨ h = Helper.visited ∨ h = Helper.hasVisited := by
  have hlist : HelperSet.builtins = Table.insert "has_visited" Helper.hasVisited
      (Table.insert "visited" Helper.visited (Table.insert "either" Helper.either [])) := rfl
  rw [hlist, Table.get?_insert, Table.get?_insert, Table.get?_insert] at hget
  by_cases hhas : "has_visited" = n
  · rw [if_pos hhas] at hget
    exact .inr (.inr (Option.some.inj hget).symm)
  rw [if_neg hhas] at hget
  by_cases hvisited : "visited" = n
  · rw [if_pos hvisited] at hget
    exact .inr (.inl (Option.some.inj hget).symm)
  rw [if_neg hvisited] at hget
  by_cases heither : "either" = n
  · rw [if_pos heither] at hget
    exact .inl ⟨heither.symm, (Option.some.inj hget).symm⟩
  · rw [if_neg heither] at hget
    cases hget

/-- Of the helpers of every story only `either` draws from the memory. -/
theorem HelperSet.builtins_determinedBut : HelperSet.builtins.DeterminedBut "either" := by
  intro n h hget hne
  rcases builtins_cases hget with ⟨heither, -⟩ | rfl | rfl
  · exact absurd heither hne
  · exact Helper.visited_isDetermined
  · exact Helper.hasVisited_isDetermined

/-- From memories that go together the helper comes to matching outcomes. -/
structure Helper.Agrees (l : Likeness σ) (h : Helper σ) : Prop where
  past : ∀ scene args state m, l.past m → l.past (h.outcome scene args ⟨state, m⟩).2.memory
  agree : ∀ scene args state m m', l.same m m' →
    l.Matches (h.outcome scene args ⟨state, m⟩) (h.outcome scene args ⟨state, m'⟩)

/-- All helpers of the set agree. -/
def HelperSet.Agree (l : Likeness σ) (helpers : HelperSet σ) : Prop :=
  ∀ n h, Table.get? n helpers = some h → h.Agrees l

theorem Helper.IsDetermined.agrees {h : Helper σ} (hd : h.IsDetermined) : h.Agrees .any := by
  refine ⟨fun _ _ _ _ => id, ?_⟩
  intro scene args state m m' _
  obtain ⟨hresult, hstate⟩ := hd scene args state m m'
  exact .inr ⟨hresult, hstate, trivial⟩

/-- Without the one helper that is not, all are determined. -/
theorem HelperSet.DeterminedBut.agree_erase {helpers : HelperSet σ} {name : String}
    (hh : helpers.DeterminedBut name) : HelperSet.Agree .any (Table.erase name helpers) := by
  intro n h hget
  rw [Table.get?_erase] at hget
  by_cases hn : name = n
  · rw [if_pos hn] at hget
    cases hget
  · rw [if_neg hn] at hget
    exact (hh n h hget (Ne.symm hn)).agrees

/-! ## Section 2: Runs -/

namespace Script

/-- What a run and its calls come to in a world, with the failure of an earlier call. -/
def Run.outcome {α : Type} (helpers : HelperSet σ) (scene : Scene) (r : Run α)
    (failure : Option (String × HelperError)) (w : World σ) :
    (α × Option (String × HelperError)) × World σ :=
  let (result, calls) := r.answer helpers scene ⟨w.state, w.memory, failure⟩
  ((result, calls.failure), ⟨calls.state, calls.memory⟩)

/-- From memories that go together the run comes to matching outcomes. -/
structure Run.Agrees {α : Type} (l : Likeness σ) (helpers : HelperSet σ) (scene : Scene)
    (r : Run α) : Prop where
  past : ∀ failure state m, l.past m → l.past (r.outcome helpers scene failure ⟨state, m⟩).2.memory
  agree : ∀ failure state m m', l.same m m' →
    l.Matches (r.outcome helpers scene failure ⟨state, m⟩)
      (r.outcome helpers scene failure ⟨state, m'⟩)

theorem Run.outcome_unknown {α : Type} {helpers : HelperSet σ} {helper : String}
    (h : Table.get? helper helpers = none) (scene : Scene) (args : List Value)
    (resume : Except String Value → Run α) (failure : Option (String × HelperError))
    (w : World σ) :
    (Run.ask helper args resume).outcome helpers scene failure w
      = (resume (.error "no such helper")).outcome helpers scene failure w := by
  unfold Run.outcome
  rw [Run.answer, h]

theorem Run.outcome_ask {α : Type} {helpers : HelperSet σ} {helper : String} {h : Helper σ}
    (hget : Table.get? helper helpers = some h) (scene : Scene) (args : List Value)
    (resume : Except String Value → Run α) (failure : Option (String × HelperError))
    (w : World σ) :
    (Run.ask helper args resume).outcome helpers scene failure w =
      match h.outcome scene args w with
      | (.ok v, w) => (resume (.ok v)).outcome helpers scene failure w
      | (.error e, w) =>
        (resume (.error e.message)).outcome helpers scene (some (helper, e)) w := by
  unfold Run.outcome
  rw [Run.answer, hget]
  dsimp only
  rcases h.outcome scene args ⟨w.state, w.memory⟩ with ⟨e | v, after⟩ <;> rfl

/-- A run agrees when the helpers do. -/
theorem Run.agrees {α : Type} {l : Likeness σ} {helpers : HelperSet σ}
    (hh : HelperSet.Agree l helpers) (scene : Scene) (r : Run α) : r.Agrees l helpers scene := by
  induction r with
  | done a => exact ⟨fun _ _ _ => id, fun _ _ _ _ h => .inr ⟨rfl, rfl, h⟩⟩
  | ask helper args resume ih =>
    cases hget : Table.get? helper helpers with
    | none =>
      obtain ⟨hpast, hagree⟩ := ih (.error "no such helper")
      constructor
      · simpa only [Run.outcome_unknown hget] using hpast
      · simpa only [Run.outcome_unknown hget] using hagree
    | some h =>
      obtain ⟨hpast, hagree⟩ := hh helper h hget
      constructor
      · intro failure state m hm
        have hafter := hpast scene args state m hm
        rw [Run.outcome_ask hget]
        rcases ho : h.outcome scene args ⟨state, m⟩ with ⟨e | v, ⟨copy, n⟩⟩
        · rw [ho] at hafter
          exact (ih (.error e.message)).past _ copy n hafter
        · rw [ho] at hafter
          exact (ih (.ok v)).past _ copy n hafter
      · intro failure state m m' hm
        have hcall := hagree scene args state m m' hm
        rw [Run.outcome_ask hget, Run.outcome_ask hget]
        rcases ho : h.outcome scene args ⟨state, m⟩ with ⟨result, ⟨copy, n⟩⟩
        rcases ho' : h.outcome scene args ⟨state, m'⟩ with ⟨result', ⟨copy', n'⟩⟩
        rw [ho, ho'] at hcall
        rcases hcall with hgone | ⟨hresult, hcopy, hn⟩
        · -- past comparing, whatever the rest of the run does
          left
          cases result with
          | error e => exact (ih (.error e.message)).past _ copy n hgone
          | ok v => exact (ih (.ok v)).past _ copy n hgone
        · obtain rfl : result = result' := hresult
          obtain rfl : copy = copy' := hcopy
          -- only the memory differs from here on
          cases result with
          | error e => exact (ih (.error e.message)).agree _ copy n n' hn
          | ok v => exact (ih (.ok v)).agree _ copy n n' hn

/-- The run asks for no call of the helper, whatever it is answered. -/
inductive Run.Avoids {α : Type} (name : String) : Run α → Prop where
  | done (a : α) : Avoids name (.done a)
  | ask {helper : String} {args : List Value} {resume : Except String Value → Run α} :
      helper ≠ name → (∀ answer, Avoids name (resume answer)) →
      Avoids name (.ask helper args resume)

/-- A run that avoids a helper goes as if there were none of this name. -/
theorem Run.Avoids.answer_erase {α : Type} {name : String} {r : Run α} (hr : r.Avoids name)
    (helpers : HelperSet σ) (scene : Scene) (calls : Calls σ) :
    r.answer helpers scene calls = r.answer (Table.erase name helpers) scene calls := by
  induction hr generalizing calls with
  | done a => rfl
  | @ask helper args resume hne _ ih =>
    rw [Run.answer, Run.answer, Table.get?_erase, if_neg (Ne.symm hne)]
    simp only [ih]

/-- So it agrees when all other helpers do. -/
theorem Run.Avoids.agrees {α : Type} {l : Likeness σ} {name : String} {r : Run α}
    (hr : r.Avoids name) {helpers : HelperSet σ}
    (hh : HelperSet.Agree l (Table.erase name helpers)) (scene : Scene) :
    r.Agrees l helpers scene := by
  have h := r.agrees hh scene
  have hsame : ∀ failure w, r.outcome helpers scene failure w
      = r.outcome (Table.erase name helpers) scene failure w := by
    intro failure w
    unfold Run.outcome
    rw [hr.answer_erase]
  constructor
  · simpa only [hsame] using h.past
  · simpa only [hsame] using h.agree

/-! ## Section 3: Parts of runs -/

theorem Run.Avoids.bind {α β : Type} {name : String} {r : Run α} {f : α → Run β}
    (hr : r.Avoids name) (hf : ∀ a, (f a).Avoids name) : (r.bind f).Avoids name := by
  induction hr with
  | done a => exact hf a
  | ask hne _ ih => exact .ask hne ih

namespace Exec

/-- The part of a run asks for no call of the helper, in whatever environment. -/
def Avoids {α : Type} (name : String) (x : Exec α) : Prop :=
  ∀ env : Environment, Run.Avoids name (x.run env)

section

variable {α β : Type} {name : String}

theorem Avoids.pure (a : α) : Avoids name (Pure.pure a : Exec α) :=
  fun _ => .done _

theorem Avoids.fault (f : Fault) : Avoids name (Exec.fault f : Exec α) :=
  fun _ => .done _

theorem Avoids.bind {x : Exec α} {f : α → Exec β} (hx : Avoids name x)
    (hf : ∀ a, Avoids name (f a)) : Avoids name (x >>= f) := by
  intro env
  refine (hx env).bind ?_
  -- a part that is left before its end asks for nothing more
  rintro ⟨a | a, after⟩
  · exact .done _
  · exact hf a after

theorem Avoids.whole {x : Exec Datum} (hx : Avoids name x) : Avoids name (Exec.whole x) := by
  intro env
  refine (hx env).bind ?_
  rintro ⟨halt | d, after⟩
  · cases halt <;> exact .done _
  · exact .done _

theorem Avoids.lift (r : Except Fault α) : Avoids name (Exec.lift r) := by
  cases r with
  | ok a => exact .pure a
  | error f => exact .fault f

theorem Avoids.lookup (x : String) : Avoids name (Exec.lookup x) := by
  have hget : Avoids name (get : Exec Environment) := fun _ => .done _
  unfold Exec.lookup
  refine hget.bind fun env => ?_
  cases env.bindings.find? fun v => v.name == x with
  | none => exact .fault _
  | some v => exact .pure v

theorem Avoids.read (v : Variable) : Avoids name (Exec.read v) := by
  intro env
  obtain ⟨_, _, d | cell⟩ := v <;> exact .done _

theorem Avoids.isConstant (v : Variable) : Avoids name (Exec.isConstant v) := by
  intro env
  obtain ⟨_, _, d | cell⟩ := v <;> exact .done _

theorem Avoids.write (x : String) (d : Datum) : Avoids name (Exec.write x d) := by
  unfold Exec.write
  refine (Avoids.lookup x).bind fun v => ?_
  intro env
  cases v.content <;> exact .done _

/-- Assigning a whole number under properties of a variable. -/
theorem Avoids.assign {fuel : Nat} {s : Setting} {depth : Nat} {x : String} {n : Int}
    {accesses : List Access} (hs : Avoids name (evalAccesses (fuel + 1) s depth accesses)) :
    Avoids name
      (exec (fuel + 2) s depth (.assign (.chain (.variable x) accesses) none (.int n))) := by
  -- the number, the accesses, the variable and what it holds, and the new content
  unfold exec
  have hint : Avoids name (eval (fuel + 1) s depth (.int n)) := by
    unfold eval
    exact .pure _
  refine hint.bind fun d => ?_
  refine hs.bind fun steps => ?_
  refine (Avoids.lookup x).bind fun v => ?_
  refine (Avoids.isConstant v).bind fun constant => ?_
  refine (Avoids.read v).bind fun old => ?_
  refine (Avoids.lift _).bind fun new => ?_
  exact (Avoids.write x new).bind fun _ => .pure _

theorem Avoids.properties {s : Setting} {depth : Nat} (names : List String) :
    ∀ fuel, names.length < fuel → Avoids name
      (evalAccesses fuel s depth (names.map fun p => .property p false)) := by
  induction names with
  | nil =>
    intro fuel hf
    cases fuel with
    | zero => exact absurd hf (Nat.not_lt_zero _)
    | succ fuel =>
      rw [List.map_nil, evalAccesses]
      exact .pure _
  | cons p names ih =>
    intro fuel hf
    cases fuel with
    | zero => exact absurd hf (Nat.not_lt_zero _)
    | succ fuel =>
      rw [List.map_cons, evalAccesses]
      have hrest := ih fuel (by rw [List.length_cons] at hf; omega)
      exact (Avoids.pure _).bind fun step => hrest.bind fun steps => .pure _

end

end Exec

/-! ## Section 4: Code -/

/-- The script that a use of code runs. -/
def sourceOf : Template.Use → String
  | .evaluated code => "(" ++ code ++ ")"
  | .executed code => code

/-- Running a source in a scene, with any variables, calls no helper of this name. -/
def SourceAvoids (helpers : HelperSet σ) (name : String) (scene : Scene) (source : String) :
    Prop :=
  ∀ program state, Program.parse [passageName, storyName] source = .ok program →
    (program.run (Table.keys helpers) (bindings scene state)).Avoids name

/-- No template of the story calls a helper of this name, whatever has been visited and
    whatever the variables are. -/
def StoryAvoids (helpers : HelperSet σ) (name : String) (story : Story) : Prop :=
  ∀ scene : Scene, scene.story = story → scene.passage ∈ story.passages.toList →
    ∀ t, Template.parse scene.passage.text = .ok t →
      ∀ use ∈ Template.uses t, SourceAvoids helpers name scene (sourceOf use)

/-- What a run has come to, as an outcome. -/
def settle (code : String) (state : StateBag) :
    ((Except Halt Datum × Environment) × Option (String × HelperError)) × World σ →
      Except TemplateError Datum × World σ
  | (((result, final), failure), w) =>
    match failure with
    | some (name, e) => (.error (.helper name e), ⟨state, w.memory⟩)
    | none =>
      match result with
      | .error h => (.error (haltError code h), ⟨state, w.memory⟩)
      | .ok d =>
        match writtenState code final with
        | .error e => (.error e, ⟨state, w.memory⟩)
        | .ok after => (.ok d, ⟨layWrites state w.state after, w.memory⟩)

theorem runCode_outcome {helpers : HelperSet σ} {scene : Scene} {code source : String}
    {program : Program} (h : Program.parse [passageName, storyName] source = .ok program)
    (state : StateBag) (m : σ) :
    (runCode helpers scene code source).outcome ⟨state, m⟩ =
      settle code state ((program.run (Table.keys helpers) (bindings scene state)).outcome
        helpers scene none ⟨state, m⟩) := by
  unfold runCode Run.outcome
  rw [h]
  refine (Action.outcome_bind _ _ _).trans ?_
  show Action.outcome (_ : Action σ Datum) ⟨state, m⟩ = _
  dsimp only
  rcases hr : (program.run (Table.keys helpers) (bindings scene state)).answer helpers scene
    { state, memory := m, failure := none } with ⟨⟨result, final⟩, calls⟩
  obtain ⟨copy, memory, failure⟩ := calls
  cases failure with
  | some f => rfl
  | none =>
    cases result with
    | error halt => rfl
    | ok d =>
      unfold settle
      dsimp only
      cases writtenState code final with
      | error err => rfl
      | ok after => rfl

/-- Settling only hands on the memory that the run leaves. -/
theorem settle_memory (code : String) (state : StateBag)
    (x : ((Except Halt Datum × Environment) × Option (String × HelperError)) × World σ) :
    (settle code state x).2.memory = x.2.memory := by
  obtain ⟨⟨⟨result, final⟩, failure⟩, w⟩ := x
  unfold settle
  dsimp only
  split
  · rfl
  · split
    · rfl
    · split <;> rfl

/-- Runs that match settle to outcomes that match. -/
theorem settle_matches {l : Likeness σ} {code : String} {state : StateBag}
    {x y : ((Except Halt Datum × Environment) × Option (String × HelperError)) × World σ}
    (h : l.Matches x y) : l.Matches (settle code state x) (settle code state y) := by
  rcases h with hpast | ⟨hresult, hstate, hmemory⟩
  · left
    rw [settle_memory]
    exact hpast
  right
  rw [settle_memory, settle_memory]
  obtain ⟨⟨⟨result, final⟩, failure⟩, w⟩ := x
  obtain ⟨⟨⟨result', final'⟩, failure'⟩, w'⟩ := y
  obtain ⟨hvalue, rfl⟩ := Prod.mk.inj hresult
  obtain ⟨rfl, rfl⟩ := Prod.mk.inj hvalue
  dsimp only at hstate hmemory
  unfold settle
  dsimp only
  rw [hstate]
  split
  · exact ⟨rfl, rfl, hmemory⟩
  · split
    · exact ⟨rfl, rfl, hmemory⟩
    · split <;> exact ⟨rfl, rfl, hmemory⟩

/-- Running a code agrees when the run of its script does. -/
theorem runCode_agrees {l : Likeness σ} {helpers : HelperSet σ} {scene : Scene} {source : String}
    (h : ∀ program state, Program.parse [passageName, storyName] source = .ok program →
      (program.run (Table.keys helpers) (bindings scene state)).Agrees l helpers scene)
    (code : String) : (runCode helpers scene code source).Agrees l := by
  cases hp : Program.parse [passageName, storyName] source with
  | error err =>
    unfold runCode
    rw [hp]
    exact .throw l _
  | ok program =>
    constructor
    · intro state m hm
      rw [runCode_outcome hp, settle_memory]
      exact (h program state hp).past none state m hm
    · intro state m m' hm
      rw [runCode_outcome hp, runCode_outcome hp]
      exact settle_matches ((h program state hp).agree none state m m' hm)

/-- A use of code agrees when the run of its script does. -/
theorem evaluator_agreesAt {l : Likeness σ} {helpers : HelperSet σ} {scene : Scene}
    (use : Template.Use)
    (h : ∀ program state, Program.parse [passageName, storyName] (sourceOf use) = .ok program →
      (program.run (Table.keys helpers) (bindings scene state)).Agrees l helpers scene) :
    (evaluator helpers).UseHas (fun _ a => a.Agrees l) scene use := by
  cases use with
  | evaluated code =>
    show ((evaluator helpers).evaluate scene code).Agrees l
    unfold evaluator
    refine (runCode_agrees h code).bind fun d => ?_
    cases Datum.toValue? d with
    | ok v => exact .pure l _
    | error typeName => exact .throw l _
  | executed code =>
    show ((evaluator helpers).execute scene code).Agrees l
    unfold evaluator
    exact (runCode_agrees h code).bind fun _ => .pure l _

/-- Scripts agree on every story when the helpers do. -/
theorem agreesOn_of_helpers {l : Likeness σ} {helpers : HelperSet σ}
    (hh : HelperSet.Agree l helpers) {r : Renderer σ} (he : r.evaluator = evaluator helpers)
    (story : Story) : r.AgreesOn l story := by
  refine Renderer.agreesOn_of_uses ?_
  intro scene _ _ t _ use _
  rw [he]
  exact evaluator_agreesAt use fun program state _ => Run.agrees hh scene _

/-- Scripts are determined on a story that avoids the only helper with a memory. -/
theorem determinedOn_of_avoids {helpers : HelperSet σ} {name : String} {story : Story}
    (hh : helpers.DeterminedBut name) (ha : StoryAvoids helpers name story) {r : Renderer σ}
    (he : r.evaluator = evaluator helpers) : r.DeterminedOn story := by
  refine Renderer.agreesOn_any_iff.1 (Renderer.agreesOn_of_uses ?_)
  intro scene hstory hmem t ht use huse
  rw [he]
  refine evaluator_agreesAt use fun program state hp => ?_
  have havoids := ha scene hstory hmem t ht use huse program state hp
  exact havoids.agrees hh.agree_erase scene

end Script

end Hyperfiction
