import Hyperfiction.Helper.Readymade
import Hyperfiction.Proofs.Table
import Hyperfiction.Proofs.Script.CallLog
import Hyperfiction.Proofs.Script.Draws

/-! # What helpers write

    Helpers work on a copy of the variables, the script on `story.state`, and at the end the
    two are put together. What helpers have written is not noted down anywhere: it is found
    by comparing the copy at the end with the variables at the start. So each variable goes
    its own way. If its value in the copy is not the one it had at the start, the copy
    decides over it, and otherwise the script does. In particular a helper that gives a
    variable back the value it had at the start has no say in it.

    Two values are compared as values are everywhere, floating-point numbers as numbers.
-/

namespace Hyperfiction

variable {σ : Type}

/-! ## Section 1: Variables in the order of their names

    Variables are a map, each name standing once and in its place, and a helper leaves them
    such a map. -/

/-- The helper leaves variables in the order of their names. -/
def Helper.KeepsOrder (h : Helper σ) : Prop :=
  ∀ scene args w, Table.Ascending w.state → Table.Ascending (h.outcome scene args w).2.state

/-- All helpers of the set do. -/
def HelperSet.KeepsOrder (helpers : HelperSet σ) : Prop :=
  ∀ n h, Table.get? n helpers = some h → h.KeepsOrder

/-- The helper leaves the variables as they are. -/
def Helper.OnlyReads (h : Helper σ) : Prop :=
  ∀ scene args w, (h.outcome scene args w).2.state = w.state

/-- All helpers of the set do. -/
def HelperSet.OnlyRead (helpers : HelperSet σ) : Prop :=
  ∀ n h, Table.get? n helpers = some h → h.OnlyReads

/-- A helper that only reads variables leaves them in order. -/
theorem Helper.keepsOrder_of_reads {h : Helper σ} (hreads : h.OnlyReads) : h.KeepsOrder := by
  intro scene args w hw
  rw [hreads]
  exact hw

/-- The helpers of every story only read variables. -/
theorem HelperSet.builtins_onlyRead : HelperSet.builtins.OnlyRead := by
  intro n h hget scene args w
  rcases HelperSet.builtins_cases hget with ⟨-, rfl⟩ | rfl | rfl
  · cases args with
    | nil => rfl
    | cons v vs =>
      -- only the memory moves on; what is drawn from it is not computed
      have hstate : ∀ (result : Except HelperError Value) (memory : Random.Generator),
          (result, { w with memory }).2.state = w.state := fun _ _ => rfl
      exact (congrArg (fun x => x.2.state) (Helper.either_cons scene v vs w)).trans (hstate _ _)
  · rw [Helper.outcome_visited]
  · rw [Helper.outcome_hasVisited]

theorem HelperSet.builtins_keepsOrder : HelperSet.builtins.KeepsOrder :=
  fun n h hget => Helper.keepsOrder_of_reads (HelperSet.builtins_onlyRead n h hget)

theorem Helper.setVariable_keepsOrder (key : String) :
    (Helper.setVariable key : Helper σ).KeepsOrder := by
  intro scene args w hw
  show Table.Ascending (Table.insert key (firstArg args) w.state)
  exact hw.insert key _

theorem Helper.removeVariable_keepsOrder (key : String) :
    (Helper.removeVariable key : Helper σ).KeepsOrder := by
  intro scene args w hw
  show Table.Ascending (Table.erase key w.state)
  exact hw.erase key

/-- Appending to a variable gives it a new array, or fails and leaves it. -/
theorem Helper.pushVariable_cases (key : String) (scene : Scene) (args : List Value)
    (w : World σ) :
    (∃ items, ((Helper.pushVariable key).outcome scene args w).2.state
      = Table.insert key (.arr items) w.state) ∨
      ((Helper.pushVariable key).outcome scene args w).2.state = w.state := by
  have hget : ∀ f : World σ → ExceptT HelperError (StateM (World σ)) Value,
      ExceptT.run (get >>= f) w = (f w).run w := fun _ => rfl
  unfold Helper.outcome Helper.pushVariable
  rw [hget]
  cases (Table.get? key w.state).getD (.arr []) with
  | arr items => exact .inl ⟨items ++ [firstArg args], rfl⟩
  | _ => exact .inr rfl

theorem Helper.pushVariable_keepsOrder (key : String) :
    (Helper.pushVariable key : Helper σ).KeepsOrder := by
  intro scene args w hw
  rcases Helper.pushVariable_cases key scene args w with ⟨items, hnew⟩ | hsame
  · rw [hnew]
    exact hw.insert key _
  · rw [hsame]
    exact hw

/-- Every ready-made helper leaves variables in order. -/
theorem Helper.ofKind_keepsOrder (kind key : String) (v : Value) :
    (Helper.ofKind kind key v : Helper σ).KeepsOrder := by
  unfold Helper.ofKind
  split
  · exact keepsOrder_of_reads fun _ _ _ => rfl
  · exact keepsOrder_of_reads fun _ _ _ => rfl
  · exact keepsOrder_of_reads fun _ _ _ => rfl
  · exact setVariable_keepsOrder key
  · exact removeVariable_keepsOrder key
  · exact pushVariable_keepsOrder key
  · exact keepsOrder_of_reads fun _ _ _ => rfl
  · exact keepsOrder_of_reads fun _ _ _ => rfl
  · exact keepsOrder_of_reads fun _ _ _ => rfl
  · exact keepsOrder_of_reads fun _ _ _ => rfl

/-- A set leaves variables in order when each helper that it is made of does. -/
theorem HelperSet.keepsOrder_ofPairs {ps : List (String × Helper σ)}
    (h : ∀ p ∈ ps, p.2.KeepsOrder) : HelperSet.KeepsOrder (Table.ofPairs ps) := by
  have hmerge : ∀ base : HelperSet σ, base.KeepsOrder →
      HelperSet.KeepsOrder (Table.merge base ps) := by
    induction ps with
    | nil => exact fun _ hbase => hbase
    | cons p ps ih =>
      intro base hbase
      refine ih (fun q hq => h q (List.mem_cons_of_mem _ hq)) (Table.insert p.1 p.2 base) ?_
      intro n g hget
      -- the helper that is found is the one of this pair, or an earlier one
      rw [Table.get?_insert] at hget
      by_cases hn : p.1 = n
      · rw [if_pos hn] at hget
        rw [← Option.some.inj hget]
        exact h p List.mem_cons_self
      · rw [if_neg hn] at hget
        exact hbase n g hget
  refine hmerge [] ?_
  intro n g hget
  cases hget

/-- The calls of a source leave variables in order when its helpers do. -/
theorem Script.leftByCalls_ascending {helpers : HelperSet σ} (hh : helpers.KeepsOrder)
    {scene : Scene} {source : String} {w : World σ} (hw : Table.Ascending w.state) :
    Table.Ascending (leftByCalls helpers scene source w).state :=
  (makes_callsOf helpers scene source w).preserves (P := fun w => Table.Ascending w.state)
    (fun n h hget args w hw => hh n h hget scene args w hw) hw

/-- The helpers of the workshop leave variables in order. -/
theorem Script.workshopHelpers_keepsOrder : Script.workshopHelpers.KeepsOrder := by
  apply HelperSet.keepsOrder_ofPairs
  intro p hp
  simp only [List.mem_cons, List.not_mem_nil, or_false] at hp
  rcases hp with rfl | rfl | rfl | rfl | rfl
  · exact Helper.setVariable_keepsOrder "gold"
  · exact Helper.setVariable_keepsOrder "slot"
  · exact Helper.removeVariable_keepsOrder "lamp"
  · exact Helper.keepsOrder_of_reads fun _ _ _ => rfl
  · exact Helper.keepsOrder_of_reads fun _ _ _ => rfl

/-! ## Section 2: Key by key -/

namespace Script

open Table

/-- Where the copy differs from the start, its values are put over what the script left. -/
theorem get?_written {before after : StateBag} (h : Ascending after) (script : StateBag)
    (key : String) :
    get? key (after.foldl (fun s p =>
        if sameVariable (get? p.1 before) (some p.2) then s else insert p.1 p.2 s) script)
      = match get? key after with
        | none => get? key script
        | some v =>
          if sameVariable (get? key before) (some v) then get? key script else some v := by
  -- the first pair is written to the script's variables, and no later pair has its key
  induction after generalizing script with
  | nil => rfl
  | cons p rest ih =>
    obtain ⟨k, v⟩ := p
    rw [List.foldl_cons, ih h.of_cons]
    by_cases hk : k = key
    · subst hk
      have hrest : get? k rest = none := h.get?_rest
      have hfirst : get? k ((k, v) :: rest) = some v := by simp [get?]
      rw [hrest, hfirst]
      dsimp only
      by_cases hsame : sameVariable (get? k before) (some v) = true
      · rw [if_pos hsame, if_pos hsame]
      · rw [if_neg hsame, if_neg hsame, get?_insert_self]
    · have hfirst : get? key ((k, v) :: rest) = get? key rest := by simp [get?, hk]
      have hscript : get? key (if sameVariable (get? k before) (some v) then script
          else insert k v script) = get? key script := by
        split
        · rfl
        · exact get?_insert_ne hk v script
      rw [hfirst, hscript]

/-- What the copy no longer has is taken away. -/
theorem get?_cleared (before after script : StateBag) (key : String) :
    get? key (before.foldl (fun s p => if contains p.1 after then s else erase p.1 s) script)
      = if (contains key before && !contains key after) = true then none else get? key script := by
  -- nothing is written here, so a key that has been taken away stays away
  induction before generalizing script with
  | nil => rfl
  | cons p rest ih =>
    obtain ⟨k, v⟩ := p
    rw [List.foldl_cons, ih]
    by_cases hk : k = key
    · subst hk
      have hfirst : contains k ((k, v) :: rest) = true := by simp [contains, get?]
      rw [hfirst]
      by_cases hafter : contains k after = true
      · simp [hafter]
      · simp [hafter, get?_erase]
    · have hfirst : contains key ((k, v) :: rest) = contains key rest := by
        simp [contains, get?, hk]
      have hscript : get? key (if contains k after then script else erase k script)
          = get? key script := by
        split
        · rfl
        · rw [get?_erase, if_neg hk]
      rw [hfirst, hscript]

/-- A variable whose value in the copy is the one it had at the start is the script's, and
    every other variable is what the copy says. -/
theorem get?_layWrites {before after : StateBag} (h : Ascending after) (script : StateBag)
    (key : String) :
    get? key (layWrites before after script)
      = if sameVariable (get? key before) (get? key after) then get? key script
        else get? key after := by
  unfold layWrites
  dsimp only
  rw [get?_cleared, get?_written h]
  unfold contains
  -- absent or present at the start, absent or present in the copy
  cases get? key before with
  | none =>
    cases get? key after with
    | none => simp [sameVariable]
    | some v => simp [sameVariable]
  | some b =>
    cases get? key after with
    | none => simp [sameVariable]
    | some v => simp

theorem workshopWorld_ascending : Ascending workshopWorld.state := by
  unfold Ascending
  decide

/-! ## Section 3: Scripts and their helpers -/

variable {helpers : HelperSet σ} {scene : Scene} {code source : String} {w w' : World σ}

/-- What a script that succeeds makes of each variable. -/
theorem get?_of_runCode_ok {d : Datum} (hh : helpers.KeepsOrder) (hw : Ascending w.state)
    (hrun : (runCode helpers scene code source).outcome w = (.ok d, w')) :
    ∃ script, ScriptLeaves helpers scene code source w script ∧ ∀ key,
      get? key w'.state
        = if sameVariable (get? key w.state) (get? key (leftByCalls helpers scene source w).state)
          then get? key script else get? key (leftByCalls helpers scene source w).state := by
  obtain ⟨script, hleaves, hstate⟩ := state_of_runCode_ok hrun
  refine ⟨script, hleaves, ?_⟩
  intro key
  rw [hstate, get?_layWrites (leftByCalls_ascending hh hw)]

/-- Helpers work on a copy of their own: each call finds what the calls before it have made
    of the variables at the start, and nothing that the script has assigned. When the script
    succeeds, the copy is merged with what the script has left, key by key. -/
theorem helpers_have_their_own_copy {d : Datum} (hh : helpers.KeepsOrder)
    (hw : Ascending w.state)
    (hrun : (runCode helpers scene code source).outcome w = (.ok d, w')) :
    ∃ script, ScriptLeaves helpers scene code source w script ∧
      (∀ before call later, callsOf helpers scene source w = before ++ call :: later →
        call.found = helpers.after scene w (before.map HelperCall.asked)) ∧
      ∀ key,
        (∀ v, get? key (leftByCalls helpers scene source w).state = some v →
          sameVariable (get? key w.state) (some v) = false → get? key w'.state = some v) ∧
        (∀ v, get? key w.state = some v →
          get? key (leftByCalls helpers scene source w).state = none →
          get? key w'.state = none) ∧
        (sameVariable (get? key w.state) (get? key (leftByCalls helpers scene source w).state)
          = true → get? key w'.state = get? key script) := by
  obtain ⟨script, hleaves, hkeys⟩ := get?_of_runCode_ok hh hw hrun
  refine ⟨script, hleaves, ?_, ?_⟩
  · intro before call later hcalls
    have hmakes := makes_callsOf helpers scene source w
    rw [hcalls] at hmakes
    exact hmakes.found_eq
  · intro key
    rw [hkeys]
    refine ⟨?_, ?_, ?_⟩
    · intro v hcopy hnew
      rw [hcopy, hnew]
      rfl
    · intro v hstart hgone
      rw [hstart, hgone]
      rfl
    · intro hsame
      rw [if_pos hsame]

theorem helpers_have_their_own_copy_workshop :
    ∃ d w' script,
      (runCode workshopHelpers workshop merging merging).outcome workshopWorld = (.ok d, w') ∧
      ScriptLeaves workshopHelpers workshop merging merging workshopWorld script ∧
      get? "slot" w'.state = some (.int 7) ∧ get? "lamp" w'.state = none ∧
      get? "gold" w'.state = get? "gold" script := by
  have hfacts :
      ((runCode workshopHelpers workshop merging merging).outcome workshopWorld).1.isOk = true ∧
      sameVariable (get? "slot" (leftByCalls workshopHelpers workshop merging workshopWorld).state)
        (some (.int 7)) = true ∧
      (get? "lamp" (leftByCalls workshopHelpers workshop merging workshopWorld).state).isNone
        = true ∧
      sameVariable (get? "gold" workshopWorld.state)
        (get? "gold" (leftByCalls workshopHelpers workshop merging workshopWorld).state)
        = true := by
    decide +kernel
  obtain ⟨hok, hslot, hlamp, hgold⟩ := hfacts
  obtain ⟨d, w', hrun⟩ := exists_of_isOk hok
  obtain ⟨script, hleaves, -, hkeys⟩ :=
    helpers_have_their_own_copy workshopHelpers_keepsOrder workshopWorld_ascending hrun
  refine ⟨d, w', script, hrun, hleaves, ?_, ?_, ?_⟩
  · exact (hkeys "slot").1 _ (eq_of_same_int hslot) rfl
  · exact (hkeys "lamp").2.1 _ rfl (Option.isNone_iff_eq_none.1 hlamp)
  · exact (hkeys "gold").2.2 hgold

/-- When a script succeeds, the last call that touches a variable decides over it, if it
    leaves another value than the variable had at the start, or takes it away, or is the one to
    bring it in. If what it leaves is what there was at the start, the call is as if it had not
    been made: the variable is what the script has left. -/
theorem last_helper_write_wins {d : Datum} {key : String} {before later : List (HelperCall σ)}
    {call : HelperCall σ} (hh : helpers.KeepsOrder) (hw : Ascending w.state)
    (hrun : (runCode helpers scene code source).outcome w = (.ok d, w'))
    (hcalls : callsOf helpers scene source w = before ++ call :: later)
    (hlast : ∀ c ∈ later, get? key c.left.state = get? key c.found.state) :
    ∃ script, ScriptLeaves helpers scene code source w script ∧
      (sameVariable (get? key w.state) (get? key call.left.state) = false →
        get? key w'.state = get? key call.left.state) ∧
      (sameVariable (get? key w.state) (get? key call.left.state) = true →
        get? key w'.state = get? key script) := by
  obtain ⟨script, hleaves, hkeys⟩ := get?_of_runCode_ok hh hw hrun
  -- no later call changes the variable, so the copy ends with what this call has left
  have hcopy : get? key (leftByCalls helpers scene source w).state = get? key call.left.state := by
    have hmakes := makes_callsOf helpers scene source w
    rw [hcalls] at hmakes
    obtain ⟨_, -, hmade⟩ := hmakes.of_append
    cases hmade with
    | cons _ _ _ hlater => exact hlater.keeps (f := fun w => get? key w.state) hlast
  refine ⟨script, hleaves, ?_, ?_⟩
  · intro hnew
    rw [hkeys, hcopy, hnew]
    rfl
  · intro hsame
    rw [hkeys, hcopy, if_pos hsame]

theorem last_helper_write_wins_workshop :
    ∃ d w' call later,
      (runCode workshopHelpers workshop haggling haggling).outcome workshopWorld = (.ok d, w') ∧
      callsOf workshopHelpers workshop haggling workshopWorld = [] ++ call :: later ∧
      (∀ c ∈ later, get? "gold" c.left.state = get? "gold" c.found.state) ∧
      get? "gold" call.left.state = some (.int 5) ∧
      get? "gold" w'.state = get? "gold" call.left.state := by
  have hfacts :
      ((runCode workshopHelpers workshop haggling haggling).outcome workshopWorld).1.isOk = true ∧
      0 < (callsOf workshopHelpers workshop haggling workshopWorld).length ∧
      (∀ c ∈ callsOf workshopHelpers workshop haggling workshopWorld,
        sameVariable (get? "gold" c.left.state) (some (.int 5)) = true) ∧
      ∀ c ∈ (callsOf workshopHelpers workshop haggling workshopWorld).tail,
        sameVariable (get? "gold" c.found.state) (some (.int 5)) = true := by
    decide +kernel
  obtain ⟨hok, hlength, hleft, hfound⟩ := hfacts
  obtain ⟨d, w', hrun⟩ := exists_of_isOk hok
  obtain ⟨call, later, hcalls⟩ : ∃ call later,
      callsOf workshopHelpers workshop haggling workshopWorld = [] ++ call :: later :=
    List.exists_cons_of_length_pos hlength
  rw [hcalls] at hleft hfound
  -- five coins from the first call on, and the later call leaves them alone
  have hcall : get? "gold" call.left.state = some (.int 5) :=
    eq_of_same_int (hleft call List.mem_cons_self)
  have hlast : ∀ c ∈ later, get? "gold" c.left.state = get? "gold" c.found.state := by
    intro c hc
    rw [eq_of_same_int (hleft c (List.mem_cons_of_mem _ hc)), eq_of_same_int (hfound c hc)]
  obtain ⟨script, -, hwins, -⟩ :=
    last_helper_write_wins workshopHelpers_keepsOrder workshopWorld_ascending hrun hcalls hlast
  refine ⟨d, w', call, later, hrun, hcalls, hlast, hcall, ?_⟩
  apply hwins
  rw [hcall]
  rfl

/-- There is one coin at the start, one when a helper has given it back, and two in the end. -/
theorem gold_not_given_back :
    ∃ d w' call,
      (runCode workshopHelpers workshop givingBack givingBack).outcome workshopWorld = (.ok d, w') ∧
      callsOf workshopHelpers workshop givingBack workshopWorld = [call] ∧
      get? "gold" call.left.state = some (.int 1) ∧ get? "gold" w'.state = some (.int 2) := by
  have hfacts :
      ((runCode workshopHelpers workshop givingBack givingBack).outcome workshopWorld).1.isOk
        = true ∧
      sameVariable (get? "gold"
        ((runCode workshopHelpers workshop givingBack givingBack).outcome workshopWorld).2.state)
        (some (.int 2)) = true ∧
      (callsOf workshopHelpers workshop givingBack workshopWorld).length = 1 ∧
      ∀ c ∈ callsOf workshopHelpers workshop givingBack workshopWorld,
        sameVariable (get? "gold" c.left.state) (some (.int 1)) = true := by
    decide +kernel
  obtain ⟨hok, hend, hlength, hleft⟩ := hfacts
  obtain ⟨d, w', hrun⟩ := exists_of_isOk hok
  obtain ⟨call, hcalls⟩ := List.length_eq_one_iff.1 hlength
  rw [hrun] at hend
  rw [hcalls] at hleft
  exact ⟨d, w', call, hrun, hcalls, eq_of_same_int (hleft call List.mem_cons_self),
    eq_of_same_int hend⟩

end Script

end Hyperfiction
