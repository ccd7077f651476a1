import Mathlib.Data.List.Basic
import Hyperfiction.Proofs.Script.LaidWrites
import Hyperfiction.Proofs.Script.Unassigned
import Hyperfiction.Proofs.Template.Calls

/-! # State that crosses into scripts and back

    Every use of code in a template takes all variables of the story into its script and
    takes `story.state` over when the script has ended. So a variable that a script never
    looks at makes the way as well, and it must come back as it was. It does if its numbers
    are integers of 64 signed bits: these, and texts, truth values, arrays and objects
    around them, have data of their own, case by case. A greater integer or a float has
    not: it comes back as the number it is near, or in another shape.

    What is true of the way there and back is true of every script that leaves
    `story.state` as it finds it, and of any number of them in a row, if no helper writes.
-/

namespace Hyperfiction

variable {σ : Type}

/-! ## Section 1: Values that come back -/

namespace Value

mutual

/-- All numbers in the value are integers of 64 signed bits. -/
def isSigned : Value → Bool
  | .null | .bool _ | .str _ => true
  | .int n => Word.isSigned n
  | .float _ => false
  | .arr vs => itemsSigned vs
  | .obj fs => fieldsSigned fs

/-- All numbers in the items are. -/
def itemsSigned : List Value → Bool
  | [] => true
  | v :: vs => v.isSigned && itemsSigned vs

/-- All numbers in the fields are. -/
def fieldsSigned : List (String × Value) → Bool
  | [] => true
  | (_, v) :: fs => v.isSigned && fieldsSigned fs

end

mutual

/-- Without floats, a value is equal to itself. -/
theorem same_self : ∀ {v : Value}, v.isSigned = true → v.same v = true
  | .null, _ => rfl
  | .bool b, _ => beq_self_eq_true b
  | .int n, _ => beq_self_eq_true n
  | .float _, h => nomatch h
  | .str s, _ => beq_self_eq_true s
  | .arr vs, h => by
    unfold isSigned at h
    unfold same
    exact sameItems_self h
  | .obj fs, h => by
    unfold isSigned at h
    unfold same
    exact sameFields_self h

theorem sameItems_self : ∀ {vs : List Value}, itemsSigned vs = true → sameItems vs vs = true
  | [], _ => rfl
  | v :: vs, h => by
    rw [itemsSigned, Bool.and_eq_true] at h
    rw [sameItems, same_self h.1, sameItems_self h.2]
    rfl

theorem sameFields_self :
    ∀ {fs : List (String × Value)}, fieldsSigned fs = true → sameFields fs fs = true
  | [], _ => rfl
  | (k, v) :: fs, h => by
    rw [fieldsSigned, Bool.and_eq_true] at h
    rw [sameFields, beq_self_eq_true, same_self h.1, sameFields_self h.2]
    rfl

end

theorem isSigned_of_mem {fs : List (String × Value)} (h : fieldsSigned fs = true)
    {p : String × Value} (hp : p ∈ fs) : p.2.isSigned = true := by
  induction fs with
  | nil => cases hp
  | cons q fs ih =>
    rw [fieldsSigned, Bool.and_eq_true] at h
    rcases List.mem_cons.1 hp with rfl | hp
    · exact h.1
    · exact ih h.2 hp

end Value

open Value (fieldsSigned itemsSigned)

namespace Script

namespace Datum

mutual

/-- The datum of a value is read back as the value. -/
theorem toValue?_ofValue : ∀ {v : Value}, v.isSigned = true → toValue? (ofValue v) = .ok v
  | .null, _ => rfl
  | .bool _, _ => rfl
  | .int n, h => by
    unfold Value.isSigned at h
    unfold ofValue
    rw [if_pos h]
    rfl
  | .float _, h => nomatch h
  | .str _, _ => rfl
  | .arr vs, h => by
    unfold Value.isSigned at h
    unfold ofValue toValue?
    rw [toItems?_ofItems h]
  | .obj fs, h => by
    unfold Value.isSigned at h
    unfold ofValue toValue?
    rw [toFields?_ofFields h]

theorem toItems?_ofItems :
    ∀ {vs : List Value}, itemsSigned vs = true → toItems? (ofItems vs) = .ok vs
  | [], _ => rfl
  | v :: vs, h => by
    rw [itemsSigned, Bool.and_eq_true] at h
    unfold ofItems toItems?
    rw [toValue?_ofValue h.1, toItems?_ofItems h.2]

theorem toFields?_ofFields :
    ∀ {fs : List (String × Value)}, fieldsSigned fs = true → toFields? (ofFields fs) = .ok fs
  | [], _ => rfl
  | (k, v) :: fs, h => by
    rw [fieldsSigned, Bool.and_eq_true] at h
    unfold ofFields toFields?
    rw [toValue?_ofValue h.1, toFields?_ofFields h.2]

end

end Datum

/-! ## Section 2: What `story.state` holds -/

/-- What `story.state` holds. -/
def heldState? (e : Environment) : Option Datum :=
  match finalDatum? e storyName with
  | some (.map fields) => Table.get? stateName fields
  | _ => none

theorem get?_storyDatum (scene : Scene) (bag : StateBag) :
    ∃ fields, storyDatum scene bag = .map fields ∧
      Table.get? stateName fields = some (stateDatum bag) := by
  refine ⟨_, rfl, ?_⟩
  simp [Table.ofPairs, Table.merge, Table.get?_insert, stateName]

/-- It holds the variables as long as `story` is the variable of the start. -/
theorem heldState?_of_find? {scene : Scene} {bag : StateBag} {e : Environment}
    (h : e.bindings.find? (fun v => v.name == storyName)
      = (bindings scene bag).find? fun v => v.name == storyName) :
    heldState? e = some (stateDatum bag) := by
  obtain ⟨fields, hfields, hget⟩ := get?_storyDatum scene bag
  have hfinal : finalDatum? e storyName = some (storyDatum scene bag) := by
    unfold finalDatum?
    rw [h]
    rfl
  unfold heldState?
  rw [hfinal, hfields]
  exact hget

/-- A script that ends with `story.state` as it was leaves the same variables. -/
theorem writtenState_of_held {bag : StateBag} (hsigned : fieldsSigned bag = true)
    {e : Environment} (hheld : heldState? e = some (stateDatum bag)) (code : String) :
    writtenState code e = .ok bag := by
  unfold heldState? at hheld
  unfold writtenState
  cases hfinal : finalDatum? e storyName with
  | none =>
    rw [hfinal] at hheld
    cases hheld
  | some d =>
    rw [hfinal] at hheld
    cases d with
    | map fields =>
      dsimp only at hheld ⊢
      rw [hheld]
      unfold stateDatum
      dsimp only
      rw [Datum.toFields?_ofFields hsigned]
    | _ => cases hheld

/-- Variables without floats that helpers have not written are laid over nothing. -/
theorem layWrites_unwritten {bag : StateBag} (hordered : Table.Ascending bag)
    (hsigned : fieldsSigned bag = true) (script : StateBag) :
    layWrites bag bag script = script := by
  have hkept : ∀ p ∈ bag, sameVariable (Table.get? p.1 bag) (some p.2) = true ∧
      Table.contains p.1 bag = true := by
    intro p hp
    unfold Table.contains
    rw [hordered.get?_of_mem hp]
    exact ⟨Value.same_self (Value.isSigned_of_mem hsigned hp), rfl⟩
  unfold layWrites
  dsimp only
  rw [List.foldl_ext _ (fun s _ => s) script fun s p hp => if_pos (hkept p hp).1,
    List.foldl_fixed, List.foldl_ext _ (fun s _ => s) script fun s p hp => if_pos (hkept p hp).2,
    List.foldl_fixed]

/-! ## Section 3: Scripts that leave it alone -/

variable {helpers : HelperSet σ} {scene : Scene} {code source : String} {w w' : World σ}

/-- No helper call of a source writes a variable. -/
def Unwritten (helpers : HelperSet σ) (scene : Scene) (source : String) (w : World σ) : Prop :=
  ∀ call ∈ callsOf helpers scene source w, call.left.state = call.found.state

/-- The script that a source is, if it runs to its end, ends with `story.state` as it was. -/
def Unassigned (helpers : HelperSet σ) (scene : Scene) (source : String) (w : World σ) : Prop :=
  ∀ c d, courseOf helpers scene source w = .ok c → c.result = .ok d →
    heldState? c.final = some (stateDatum w.state)

/-- A source whose script leaves `story.state` as it was and whose helpers do not write leaves
    the variables as they were, whether it succeeds or not. -/
theorem state_of_runCode_untouched (hordered : Table.Ascending w.state)
    (hsigned : fieldsSigned w.state = true) (hunassigned : Unassigned helpers scene source w)
    (hunwritten : Unwritten helpers scene source w) (code : String) :
    ((runCode helpers scene code source).outcome w).2.state = w.state := by
  rcases hrun : (runCode helpers scene code source).outcome w with ⟨e | d, w'⟩
  · exact state_of_runCode_error hrun
  · obtain ⟨c, script, hcourse, hresult, hwritten, hstate⟩ := course_of_runCode_ok hrun
    have hcopy : (leftByCalls helpers scene source w).state = w.state :=
      (makes_callsOf helpers scene source w).keeps (f := World.state) hunwritten
    have hheld := hunassigned c d hcourse hresult
    rw [writtenState_of_held hsigned hheld] at hwritten
    obtain rfl := Except.ok.inj hwritten
    rw [hstate, hcopy, layWrites_unwritten hordered hsigned]

/-! ## Section 4: Uses of code -/

open Template (Use)

/-- The script of a use of code leaves `story.state` as it was, and its helpers do not write. -/
structure Untouched (helpers : HelperSet σ) (scene : Scene) (use : Use) (w : World σ) : Prop where
  unassigned : Unassigned helpers scene (sourceOf use) w
  unwritten : Unwritten helpers scene (sourceOf use) w

/-- Each of the uses, made in this order, is one of these where it is made. -/
def AllUntouched (helpers : HelperSet σ) (scene : Scene) : List Use → World σ → Prop
  | [], _ => True
  | use :: rest, w => Untouched helpers scene use w ∧
    AllUntouched helpers scene rest ((evaluator helpers).leftBy scene use w)

/-- A use of code leaves the variables that its script leaves: making a value of what the
    script comes to does not change them. -/
theorem state_of_leftBy (helpers : HelperSet σ) (scene : Scene) (use : Use) (w : World σ) :
    ∃ code, ((evaluator helpers).leftBy scene use w).state
      = ((runCode helpers scene code (sourceOf use)).outcome w).2.state := by
  cases use with
  | evaluated code =>
    refine ⟨code, ?_⟩
    show (((runCode helpers scene code (sourceOf (.evaluated code))) >>= _).outcome w).2.state = _
    rw [Action.outcome_bind]
    rcases (runCode helpers scene code (sourceOf (.evaluated code))).outcome w with ⟨e | d, w₁⟩
    · rfl
    · dsimp only
      cases d.toValue? <;> rfl
  | executed code =>
    refine ⟨code, ?_⟩
    show (((runCode helpers scene code (sourceOf (.executed code))) >>= _).outcome w).2.state = _
    rw [Action.outcome_bind]
    rcases (runCode helpers scene code (sourceOf (.executed code))).outcome w with ⟨e | d, w₁⟩
    · rfl
    · rfl

variable {use : Use}

/-- One use of code. -/
theorem Untouched.state (h : Untouched helpers scene use w)
    (hordered : Table.Ascending w.state) (hsigned : fieldsSigned w.state = true) :
    ((evaluator helpers).leftBy scene use w).state = w.state := by
  obtain ⟨code, hstate⟩ := state_of_leftBy helpers scene use w
  rw [hstate]
  exact state_of_runCode_untouched hordered hsigned h.unassigned h.unwritten code

/-- Any number of them. -/
theorem AllUntouched.state {uses : List Use} (h : AllUntouched helpers scene uses w)
    (hordered : Table.Ascending w.state) (hsigned : fieldsSigned w.state = true) :
    ((evaluator helpers).leftByAll scene uses w).state = w.state := by
  induction uses generalizing w with
  | nil => rfl
  | cons use rest ih =>
    obtain ⟨hfirst, hrest⟩ := h
    have hsame := hfirst.state hordered hsigned
    show ((evaluator helpers).leftByAll scene rest _).state = _
    rw [ih hrest (hsame ▸ hordered) (hsame ▸ hsigned), hsame]

/-! ## Section 5: Scripts that do not assign -/

/-- What every end of a run is, whatever its calls are answered, the end with these helpers is. -/
theorem Run.Ends.outcome {α : Type} {P : α → Prop} {r : Run α} (h : r.Ends P)
    (helpers : HelperSet σ) (scene : Scene) (failure : Option (String × HelperError))
    (w : World σ) : P (r.outcome helpers scene failure w).1.1 := by
  induction h generalizing failure w with
  | done hp => exact hp
  | @ask helper args resume _ ih =>
    cases hget : Table.get? helper helpers with
    | none =>
      rw [Run.outcome_unknown hget]
      exact ih _ _ _
    | some h =>
      rw [Run.outcome_ask hget]
      rcases h.outcome scene args w with ⟨e | v, left⟩
      · exact ih _ _ _
      · exact ih _ _ _

/-- The script that a source is, if it is one, leaves `story` alone by its looks. -/
def sparesStory (source : String) : Bool :=
  match Program.parse [passageName, storyName] source with
  | .error _ => true
  | .ok program => stmtsSpare storyName program.body

/-- Such a script does not assign `story.state`. -/
theorem unassigned_of_sparesStory (hspares : sparesStory source = true) (helpers : HelperSet σ)
    (scene : Scene) (w : World σ) : Unassigned helpers scene source w := by
  intro c d hcourse _
  obtain ⟨program, hparse, -, houtcome⟩ := outcome_of_course hcourse
  unfold sparesStory at hspares
  rw [hparse] at hspares
  have hends := Program.run_spares (by decide) hspares (Table.keys helpers)
    (bindings scene w.state)
  have hfind := hends.outcome helpers scene none w
  rw [houtcome] at hfind
  exact heldState?_of_find? hfind

/-- A copy of `story` may be changed, but `story` itself may not be assigned into. -/
example : sparesStory "let s = story; s.state = 1" = true ∧
    sparesStory "story.state.gold = 1" = false := by
  decide +kernel

/-- Helpers that only read variables do not write any. -/
theorem unwritten_of_onlyRead (hreads : helpers.OnlyRead) (scene : Scene) (source : String)
    (w : World σ) : Unwritten helpers scene source w := by
  intro call hcall
  obtain ⟨h, hget, houtcome⟩ := (makes_callsOf helpers scene source w).of_mem hcall
  have hstate := hreads call.helper h hget scene call.args call.found
  rw [houtcome] at hstate
  exact hstate

/-! ## Section 6: There and back -/

/-- **State crosses the script boundary unchanged.** Take any variables whose numbers are all
    integers of 64 signed bits, nested in any way. As a map of script data they are read back
    as they were, and so they are from `story.state` at the start of a script, and at the end
    of every script that ends with `story.state` as it was. So a use of code whose script
    does, and whose helper calls do not write, leaves the variables exactly as they were; and
    so does the expansion of a template in which every use of code is of this kind where it
    comes, however many there are. A script that by its looks leaves `story` alone is of this
    kind if its helper calls are. -/
theorem state_crosses_unchanged (helpers : HelperSet σ) (scene : Scene) {bag : StateBag}
    (hordered : Table.Ascending bag) (hsigned : fieldsSigned bag = true) :
    Datum.toFields? (Datum.ofFields bag) = .ok bag ∧
    (∀ code, writtenState code { bindings := bindings scene bag } = .ok bag) ∧
    (∀ code e, heldState? e = some (stateDatum bag) → writtenState code e = .ok bag) ∧
    (∀ use m, Untouched helpers scene use ⟨bag, m⟩ →
      ((evaluator helpers).leftBy scene use ⟨bag, m⟩).state = bag) ∧
    (∀ text m,
      AllUntouched helpers scene ((evaluator helpers).expansion scene text ⟨bag, m⟩).calls
        ⟨bag, m⟩ →
      ((evaluator helpers).expansion scene text ⟨bag, m⟩).world.state = bag) ∧
    (∀ use m, sparesStory (sourceOf use) = true →
      Unwritten helpers scene (sourceOf use) ⟨bag, m⟩ →
      Untouched helpers scene use ⟨bag, m⟩) := by
  have hwritten : ∀ code e, heldState? e = some (stateDatum bag) → writtenState code e = .ok bag :=
    fun code e hheld => writtenState_of_held hsigned hheld code
  refine ⟨Datum.toFields?_ofFields hsigned, ?_, hwritten, ?_, ?_, ?_⟩
  · exact fun code => hwritten code _ (heldState?_of_find? rfl)
  · exact fun use m huntouched => huntouched.state hordered hsigned
  · intro text m huntouched
    rw [Evaluator.expansion_world]
    exact huntouched.state hordered hsigned
  · exact fun use m hspares hunwritten =>
      ⟨unassigned_of_sparesStory hspares helpers scene _, hunwritten⟩

/-- Variables around a list of things that are variables in turn. -/
def packed : StateBag :=
  [("gold", .int (-1)), ("pack", .arr [.obj [("rope", .int 3)], .null, .str "lamp"])]

/-- A helper that does not look at the variables. -/
def luckyHelpers : HelperSet Unit :=
  [("lucky", Helper.constant (.int 7))]

theorem luckyHelpers_onlyRead : luckyHelpers.OnlyRead := by
  intro n h hget
  obtain rfl : Helper.constant (.int 7) = h := by
    unfold luckyHelpers at hget
    simp only [Table.get?] at hget
    split at hget
    · exact Option.some.inj hget
    · cases hget
  exact fun _ _ _ => rfl

/-- One expression that calls the helper, and one statement that empties a copy of the pack. -/
def luckyText : String :=
  "<%= story.state.gold + lucky() %><% let pack = story.state.pack; pack.clear(); %>"

/-- The variables are the same after both. -/
theorem state_crosses_unchanged_lucky :
    ((evaluator luckyHelpers).expansion workshop luckyText ⟨packed, ()⟩).calls
      = [.evaluated "story.state.gold + lucky()",
          .executed "let pack = story.state.pack; pack.clear();"] ∧
    ((evaluator luckyHelpers).expansion workshop luckyText ⟨packed, ()⟩).world.state = packed := by
  have hordered : Table.Ascending packed := by
    unfold Table.Ascending
    decide
  obtain ⟨-, -, -, huse, htext, hspares⟩ :=
    state_crosses_unchanged luckyHelpers workshop hordered (by decide)
  have hcalls : ((evaluator luckyHelpers).expansion workshop luckyText ⟨packed, ()⟩).calls
      = [.evaluated "story.state.gold + lucky()",
          .executed "let pack = story.state.pack; pack.clear();"] := by
    decide +kernel
  have huntouched : ∀ use m, sparesStory (sourceOf use) = true →
      Untouched luckyHelpers workshop use ⟨packed, m⟩ := fun use m hlooks =>
    hspares use m hlooks (unwritten_of_onlyRead luckyHelpers_onlyRead workshop _ _)
  have hfirst := huntouched (.evaluated "story.state.gold + lucky()") () (by decide +kernel)
  have hsecond := huntouched (.executed "let pack = story.state.pack; pack.clear();") ()
    (by decide +kernel)
  refine ⟨hcalls, htext luckyText () ?_⟩
  rw [hcalls]
  refine ⟨hfirst, ?_, trivial⟩
  have hleft : (evaluator luckyHelpers).leftBy workshop
      (.evaluated "story.state.gold + lucky()") ⟨packed, ()⟩ = ⟨packed, ()⟩ := by
    have hstate := huse _ () hfirst
    generalize (evaluator luckyHelpers).leftBy workshop _ _ = left at hstate ⊢
    obtain ⟨state, memory⟩ := left
    obtain rfl : state = packed := hstate
    rfl
  rw [hleft]
  exact hsecond

end Script

end Hyperfiction
