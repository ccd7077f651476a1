import Hyperfiction.Proofs.Movement
import Hyperfiction.Proofs.Script.Calls

/-! # Visits

    Templates ask how often a passage has been visited, and whether it has been: by its id,
    by its name, or without saying which, and then it is the passage at hand. `AsksAbout`
    says what a call asks about, and `Refused` which arguments ask about nothing. Both
    helpers go by that alone, and by how often the id that was asked about stands in the
    history.
-/

namespace Hyperfiction.Helper

variable {σ : Type}

/-! ## Section 1: What a call asks about -/

/-- The passage that arguments ask about, if there is one: an id need not be that of a
    passage, and a name that no passage has asks about none. -/
inductive AsksAbout (scene : Scene) : List Value → Option PassageId → Prop where
  | atHand : AsksAbout scene [] (some scene.passage.id)
  | id (id : PassageId) : AsksAbout scene [.int id.toNat] (some id)
  | name {p : Passage} :
      p ∈ scene.story.passages.toList → AsksAbout scene [.str p.name] (some p.id)
  | unknownName {name : String} :
      (∀ p ∈ scene.story.passages.toList, p.name ≠ name) → AsksAbout scene [.str name] none

/-- Arguments that ask about nothing, and what is said of them. -/
inductive Refused : List Value → HelperError → Prop where
  | integer {n : Int} : (∀ id : PassageId, n ≠ id.toNat) →
      Refused [.int n] (.invalidArgument ("not a passage id: " ++ Json.text (.int n)))
  | float (x : Float) :
      Refused [.float x] (.invalidArgument ("not a passage id: " ++ Json.text (.float x)))
  | otherKind {v : Value} : (∀ n, v ≠ .int n) → (∀ x, v ≠ .float x) → (∀ s, v ≠ .str s) →
      Refused [v] (.invalidArgument ("expected passage id or name, got " ++ Json.text v))
  | tooMany {args : List Value} : 1 < args.length →
      Refused args (.arity "0 or 1" args.length)

/-- The integers that are ids. -/
theorem exists_id_iff (n : Int) : (∃ id : PassageId, n = id.toNat) ↔ 0 ≤ n ∧ n < UInt32.size := by
  constructor
  · rintro ⟨id, rfl⟩
    exact ⟨Int.natCast_nonneg _, Int.ofNat_lt.2 id.toNat_lt⟩
  · rintro ⟨hpos, hlt⟩
    have hsmall : n.toNat < UInt32.size := by omega
    refine ⟨UInt32.ofNat n.toNat, ?_⟩
    rw [UInt32.toNat_ofNat_of_lt' hsmall, Int.toNat_of_nonneg hpos]

theorem AsksAbout.visitTarget_eq {scene : Scene} {args : List Value} {target : Option PassageId}
    (h : AsksAbout scene args target) : visitTarget scene args = .ok target := by
  cases h with
  | atHand => rfl
  | id id =>
    unfold visitTarget
    dsimp only
    rw [if_pos ((exists_id_iff _).1 ⟨id, rfl⟩), Int.toNat_natCast, UInt32.ofNat_toNat]
  | name hp =>
    unfold visitTarget
    dsimp only
    rw [Story.passageNamed?_of_mem hp]
    rfl
  | @unknownName asked hnone =>
    unfold visitTarget
    dsimp only
    have hmissing : scene.story.passageNamed? asked = none := by
      rw [Option.eq_none_iff_forall_ne_some]
      intro p hp
      have hmem := Story.mem_of_passageNamed? hp
      exact hnone p hmem (Story.name_of_passageNamed? hp)
    rw [hmissing]
    rfl

theorem Refused.visitTarget_eq {args : List Value} {e : HelperError} (h : Refused args e)
    (scene : Scene) : visitTarget scene args = .error e := by
  cases h with
  | @integer n hnone =>
    have hout : ¬ (0 ≤ n ∧ n < UInt32.size) :=
      mt (exists_id_iff n).2 (not_exists.2 hnone)
    unfold visitTarget
    dsimp only
    rw [if_neg hout]
  | float x => rfl
  | @otherKind v hint hfloat hstr =>
    cases v with
    | int n => exact absurd rfl (hint n)
    | float x => exact absurd rfl (hfloat x)
    | str s => exact absurd rfl (hstr s)
    | _ => rfl
  | tooMany hlen =>
    match args with
    | v :: v' :: vs => cases v <;> rfl

/-- What is asked about does not depend on what has been visited. -/
theorem AsksAbout.later {scene : Scene} {args : List Value} {target : Option PassageId}
    (h : AsksAbout scene args target) (history : List PassageId) :
    AsksAbout { scene with history } args target := by
  cases h with
  | atHand => exact .atHand
  | id id => exact .id id
  | name hp => exact .name hp
  | @unknownName asked hnone => exact .unknownName hnone

/-- All arguments ask about something, or are refused. -/
theorem asksAbout_or_refused (scene : Scene) (args : List Value) :
    (∃ target, AsksAbout scene args target) ∨ ∃ e, Refused args e := by
  match args with
  | [] => exact .inl ⟨_, .atHand⟩
  | [.int n] =>
    by_cases hid : ∃ id : PassageId, n = id.toNat
    · obtain ⟨id, rfl⟩ := hid
      exact .inl ⟨_, .id id⟩
    · exact .inr ⟨_, .integer fun id hn => hid ⟨id, hn⟩⟩
  | [.float x] => exact .inr ⟨_, .float x⟩
  | [.str name] =>
    by_cases hname : ∃ p ∈ scene.story.passages.toList, p.name = name
    · obtain ⟨p, hp, rfl⟩ := hname
      exact .inl ⟨_, .name hp⟩
    · exact .inl ⟨_, .unknownName fun p hp heq => hname ⟨p, hp, heq⟩⟩
  | [.null] | [.bool _] | [.arr _] | [.obj _] =>
    refine .inr ⟨_, .otherKind ?_ ?_ ?_⟩ <;> intro _ h <;> cases h
  | v :: v' :: vs =>
    exact .inr ⟨_, .tooMany (by simp)⟩

/-! ## Section 2: What the history says -/

theorem AsksAbout.visited_eq {scene : Scene} {args : List Value} {target : Option PassageId}
    (h : AsksAbout scene args target) (w : World σ) :
    visited.outcome scene args w = (.ok (.int (visitCount scene.history target)), w) := by
  rw [outcome_visited, h.visitTarget_eq]
  rfl

theorem AsksAbout.hasVisited_eq {scene : Scene} {args : List Value} {target : Option PassageId}
    (h : AsksAbout scene args target) (w : World σ) :
    hasVisited.outcome scene args w
      = (.ok (.bool (decide (1 ≤ visitCount scene.history target))), w) := by
  rw [outcome_hasVisited, h.visitTarget_eq]
  rfl

theorem Refused.visited_eq {args : List Value} {e : HelperError} (h : Refused args e)
    (scene : Scene) (w : World σ) : visited.outcome scene args w = (.error e, w) := by
  rw [outcome_visited, h.visitTarget_eq]
  rfl

theorem Refused.hasVisited_eq {args : List Value} {e : HelperError} (h : Refused args e)
    (scene : Scene) (w : World σ) : hasVisited.outcome scene args w = (.error e, w) := by
  rw [outcome_hasVisited, h.visitTarget_eq]
  rfl

/-- Of all that can be asked about, a visit makes a difference to the passage visited only. -/
theorem visitCount_concat (history : List PassageId) (id : PassageId) (target : Option PassageId) :
    visitCount (history ++ [id]) target
      = if target = some id then visitCount history target + 1 else visitCount history target := by
  cases target with
  | none => rfl
  | some other =>
    by_cases h : other = id
    · subst h
      simp [visitCount]
    · simp [visitCount, h, Ne.symm h]

/-- **Visits are counted in the history.** The helpers that stories call `visited` and
    `has_visited` refuse the same arguments for the same reason. All others ask about
    something: the one answers with how often it has been visited, the other with whether
    that is once at least. This is how often its id stands in the history, be the passage
    asked about by name, by id or as the one at hand, and never for a name that no passage
    has. One more visit counts for what asks about that passage, and for nothing else. -/
theorem visits_are_counted (scene : Scene) (w : World Random.Generator) :
    (Table.get? "visited" HelperSet.builtins = some visited ∧
      Table.get? "has_visited" HelperSet.builtins = some hasVisited) ∧
    (∀ args,
      (∃ e, Refused args e ∧ visited.outcome scene args w = (.error e, w) ∧
        hasVisited.outcome scene args w = (.error e, w)) ∨
      (∃ target, ∃ n : Nat, AsksAbout scene args target ∧
        visited.outcome scene args w = (.ok (.int n), w) ∧
        hasVisited.outcome scene args w = (.ok (.bool (decide (1 ≤ n))), w))) ∧
    (∀ p ∈ scene.story.passages.toList,
      visited.outcome scene [.str p.name] w = (.ok (.int (scene.history.count p.id)), w) ∧
      visited.outcome scene [.int p.id.toNat] w = (.ok (.int (scene.history.count p.id)), w)) ∧
    visited.outcome scene [] w = (.ok (.int (scene.history.count scene.passage.id)), w) ∧
    (∀ name, (∀ p ∈ scene.story.passages.toList, p.name ≠ name) →
      visited.outcome scene [.str name] w = (.ok (.int 0), w) ∧
      hasVisited.outcome scene [.str name] w = (.ok (.bool false), w)) ∧
    (∀ id args,
      (AsksAbout scene args (some id) → ∃ n : Nat,
        visited.outcome scene args w = (.ok (.int n), w) ∧
        visited.outcome { scene with history := scene.history ++ [id] } args w
          = (.ok (.int (n + 1)), w)) ∧
      (¬ AsksAbout scene args (some id) →
        visited.outcome { scene with history := scene.history ++ [id] } args w
          = visited.outcome scene args w)) := by
  refine ⟨⟨rfl, rfl⟩, ?_, ?_, AsksAbout.atHand.visited_eq w, ?_, ?_⟩
  · intro args
    rcases asksAbout_or_refused scene args with ⟨target, h⟩ | ⟨e, h⟩
    · exact .inr ⟨target, _, h, h.visited_eq w, h.hasVisited_eq w⟩
    · exact .inl ⟨e, h, h.visited_eq scene w, h.hasVisited_eq scene w⟩
  · intro p hp
    exact ⟨(AsksAbout.name hp).visited_eq w, (AsksAbout.id p.id).visited_eq w⟩
  · intro name hnone
    have h := AsksAbout.unknownName hnone
    exact ⟨h.visited_eq w, h.hasVisited_eq w⟩
  · intro id args
    constructor
    · intro h
      refine ⟨_, h.visited_eq w, ?_⟩
      rw [(h.later _).visited_eq, visitCount_concat, if_pos rfl]
      rfl
    · intro hnot
      rcases asksAbout_or_refused scene args with ⟨target, h⟩ | ⟨e, h⟩
      · have hother : target ≠ some id := by
          rintro rfl
          exact hnot h
        rw [(h.later _).visited_eq, h.visited_eq, visitCount_concat, if_neg hother]
      · rw [h.visited_eq, h.visited_eq]

end Hyperfiction.Helper
