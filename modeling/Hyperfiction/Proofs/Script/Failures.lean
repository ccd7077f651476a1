import Hyperfiction.Proofs.Script.CallLog

/-! # Code that fails

    A script that fails leaves the variables as they were, however far it has come and
    whatever it and its helpers have written by then. That a helper has failed counts even
    if the script caught the failure and went on: it takes the place of every other end,
    a good one included, and of several failures the last one is reported.

    For the value of an expression this is not the whole truth. The value is looked at only
    when the script has ended and the variables have been taken over. If it is nothing that a
    variable can hold, the expression fails and what has been written stays.
-/

namespace Hyperfiction.Script

variable {σ : Type} {helpers : HelperSet σ} {scene : Scene} {code : String} {w w' : World σ}

/-! ## Section 1: Failing uses of code -/

/-- An expression fails when its script does, or when the script ends with a value that is
    no story value. -/
theorem evaluate_fails_iff {e : TemplateError} :
    ((evaluator helpers).evaluate scene code).outcome w = (.error e, w') ↔
      (runCode helpers scene code ("(" ++ code ++ ")")).outcome w = (.error e, w') ∨
      ∃ d typeName, (runCode helpers scene code ("(" ++ code ++ ")")).outcome w = (.ok d, w') ∧
        d.toValue? = .error typeName ∧ e = expressionError code (unsupported typeName) := by
  unfold evaluator
  rw [Action.bind_eq_error]
  -- what remains to compare is the look at the value
  refine or_congr_right ?_
  constructor
  · rintro ⟨d, w₁, hrun, hvalue⟩
    cases htype : d.toValue? with
    | ok v =>
      rw [htype] at hvalue
      cases hvalue
    | error typeName =>
      rw [htype] at hvalue
      cases hvalue
      exact ⟨d, typeName, hrun, htype, rfl⟩
  · rintro ⟨d, typeName, hrun, htype, rfl⟩
    refine ⟨d, w', hrun, ?_⟩
    rw [htype]
    rfl

/-- A statement fails when its script does. -/
theorem execute_fails_iff {e : TemplateError} :
    ((evaluator helpers).execute scene code).outcome w = (.error e, w') ↔
      (runCode helpers scene code code).outcome w = (.error e, w') := by
  unfold evaluator
  rw [Action.bind_eq_error]
  constructor
  · rintro (hrun | ⟨d, w₁, -, hdone⟩)
    · exact hrun
    · cases hdone
  · intro hrun
    exact .inl hrun

/-! ## Section 2: What a failure leaves -/

/-- A statement that fails leaves the variables as they were. So does an expression whose
    script fails. An expression whose script succeeds, but with a value that is no story
    value, fails with what has been written in place. -/
theorem failed_code_keeps_variables (helpers : HelperSet σ) (scene : Scene) (code : String)
    (w : World σ) :
    (∀ e w', ((evaluator helpers).execute scene code).outcome w = (.error e, w') →
      w'.state = w.state) ∧
    ∀ e w', ((evaluator helpers).evaluate scene code).outcome w = (.error e, w') →
      ((runCode helpers scene code ("(" ++ code ++ ")")).outcome w = (.error e, w') ∧
        w'.state = w.state) ∨
      ∃ d typeName script,
        (runCode helpers scene code ("(" ++ code ++ ")")).outcome w = (.ok d, w') ∧
        d.toValue? = .error typeName ∧ e = expressionError code (unsupported typeName) ∧
        ScriptLeaves helpers scene code ("(" ++ code ++ ")") w script ∧
        w'.state
          = layWrites w.state (leftByCalls helpers scene ("(" ++ code ++ ")") w).state script := by
  constructor
  · intro e w' hfails
    exact state_of_runCode_error (execute_fails_iff.1 hfails)
  · intro e w' hfails
    rcases evaluate_fails_iff.1 hfails with hrun | ⟨d, typeName, hrun, htype, herror⟩
    · exact .inl ⟨hrun, state_of_runCode_error hrun⟩
    · obtain ⟨script, hleaves, hstate⟩ := state_of_runCode_ok hrun
      exact .inr ⟨d, typeName, script, hrun, htype, herror, hleaves, hstate⟩

theorem failed_code_keeps_variables_workshop :
    (∃ e w', ((evaluator workshopHelpers).execute workshop spoiling).outcome workshopWorld
        = (.error e, w') ∧ w'.state = workshopWorld.state) ∧
    ∃ e w', ((evaluator workshopHelpers).evaluate workshop dividing).outcome workshopWorld
        = (.error e, w') ∧ w'.state = workshopWorld.state := by
  have hfacts :
      ((evaluator workshopHelpers).execute workshop spoiling |>.outcome workshopWorld).1.isOk
        = false ∧
      ((runCode workshopHelpers workshop dividing ("(" ++ dividing ++ ")")).outcome
        workshopWorld).1.isOk = false := by
    decide +kernel
  obtain ⟨hexecute, hrun⟩ := hfacts
  constructor
  · obtain ⟨e, w', hfails⟩ := exists_of_not_isOk hexecute
    exact ⟨e, w', hfails, (failed_code_keeps_variables _ _ _ _).1 e w' hfails⟩
  · obtain ⟨e, w', hrun⟩ := exists_of_not_isOk hrun
    have hfails := evaluate_fails_iff.2 (.inl hrun)
    refine ⟨e, w', hfails, ?_⟩
    rcases (failed_code_keeps_variables _ _ _ _).2 e w' hfails with ⟨-, hkept⟩ | ⟨d, _, _, hok, -⟩
    · exact hkept
    · -- the division stops the script, so there is no value to look at
      rw [hrun] at hok
      cases hok

/-- The second item of the list is no story value, but the first has put something into the
    slot. -/
theorem slot_filled_by_failure :
    ∃ e w', ((evaluator workshopHelpers).evaluate workshop listing).outcome workshopWorld
        = (.error e, w') ∧
      Table.get? "slot" workshopWorld.state = none ∧
      Table.get? "slot" w'.state = some (.int 7) := by
  have hfacts :
      (((evaluator workshopHelpers).evaluate workshop listing).outcome workshopWorld).1.isOk
        = false ∧
      sameVariable (Table.get? "slot"
        (((evaluator workshopHelpers).evaluate workshop listing).outcome workshopWorld).2.state)
        (some (.int 7)) = true := by
    decide +kernel
  obtain ⟨hresult, hslot⟩ := hfacts
  obtain ⟨e, w', hfails⟩ := exists_of_not_isOk hresult
  rw [hfails] at hslot
  exact ⟨e, w', hfails, rfl, eq_of_same_int hslot⟩

/-! ## Section 3: Failures that a script catches -/

/-- When a helper has failed in a run, the use of code fails by the last call that has, whatever
    the script has done about it, and the variables are as they were. The log of a run holds
    the calls that have reached a helper: a call with an argument that is no story value is
    refused before that, and is not in it. -/
theorem helper_failure_counts {use : Template.Use}
    (hfails : ∃ call ∈ callsOf helpers scene (sourceOf use) w, ∃ e, call.answer = .error e) :
    ∃ before last later e, callsOf helpers scene (sourceOf use) w = before ++ last :: later ∧
      last.answer = .error e ∧ (∀ call ∈ later, ∃ v, call.answer = .ok v) ∧
      (evaluator helpers).UseHas
        (fun _ a => a.outcome w = (.error (.helper last.helper e),
          ⟨w.state, (leftByCalls helpers scene (sourceOf use) w).memory⟩)) scene use := by
  cases hlast : HelperCall.lastFailure? (callsOf helpers scene (sourceOf use) w) with
  | none =>
    -- then every call has succeeded, against the hypothesis
    obtain ⟨call, hcall, e, he⟩ := hfails
    obtain ⟨v, hv⟩ := HelperCall.lastFailure?_eq_none_iff.1 hlast call hcall
    rw [he] at hv
    cases hv
  | some failure =>
    obtain ⟨name, e⟩ := failure
    obtain ⟨before, last, later, hcalls, rfl, hanswer, hlater⟩ :=
      HelperCall.lastFailure?_eq_some_iff.1 hlast
    refine ⟨before, last, later, e, hcalls, hanswer, hlater, ?_⟩
    cases use with
    | evaluated code => exact evaluate_fails_iff.2 (.inl (runCode_of_lastFailure hlast code))
    | executed code => exact execute_fails_iff.2 (runCode_of_lastFailure hlast code)

/-- The script has caught both failures, and called other helpers after them. -/
theorem helper_failure_counts_workshop :
    (∃ call ∈ callsOf workshopHelpers workshop (sourceOf (.executed fumbling)) workshopWorld,
      ∃ e, call.answer = .error e) ∧
    ∃ w', ((evaluator workshopHelpers).execute workshop fumbling).outcome workshopWorld
        = (.error (.helper "stick" (.invalidArgument "nonsense")), w') ∧
      w'.state = workshopWorld.state := by
  have hstick : HelperCall.lastFailure?
      (callsOf workshopHelpers workshop (sourceOf (.executed fumbling)) workshopWorld)
        = some ("stick", .invalidArgument "nonsense") := by
    decide +kernel
  have hexists : ∃ call ∈
      callsOf workshopHelpers workshop (sourceOf (.executed fumbling)) workshopWorld,
      ∃ e, call.answer = .error e := by
    obtain ⟨before, call, later, hcalls, -, hanswer, -⟩ :=
      HelperCall.lastFailure?_eq_some_iff.1 hstick
    refine ⟨call, ?_, _, hanswer⟩
    rw [hcalls]
    exact List.mem_append_right _ List.mem_cons_self
  refine ⟨hexists, ?_⟩
  obtain ⟨before, last, later, e, hcalls, hanswer, hlater, hfails⟩ := helper_failure_counts hexists
  have hlast := HelperCall.lastFailure?_eq_some_iff.2 ⟨_, _, _, hcalls, rfl, hanswer, hlater⟩
  rw [hstick] at hlast
  obtain ⟨hname, herror⟩ := Prod.mk.inj (Option.some.inj hlast)
  rw [← hname, ← herror] at hfails
  exact ⟨_, hfails, rfl⟩

end Hyperfiction.Script
