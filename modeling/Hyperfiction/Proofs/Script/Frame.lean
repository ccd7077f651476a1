import Hyperfiction.Script.Interpreter

/-! # Variables that a part of a run leaves alone

    A part of a run finds some variables and leaves others. It *leaves* the variable `x`
    alone if those that it has found are still there, behind new ones of other names, and
    the one that is found under the name `x` holds what it held. Two parts in a row then
    do so as well, and a block takes away just what has come. A call of a function leaves
    every variable alone: the function sees only its arguments, and when it has ended all
    variables are back.
-/

namespace Hyperfiction.Script

/-! ## Section 1: New variables before the old ones -/

/-- The variables of before are still there, behind some new ones of other names than `x`.
    What they hold may have changed, but not of the one that is found under the name `x`. -/
def Grown (x : String) (before after : List Variable) : Prop :=
  ∃ pushed kept, after = pushed ++ kept ∧ kept.map Variable.name = before.map Variable.name ∧
    kept.find? (fun v => v.name == x) = before.find? (fun v => v.name == x) ∧
    ∀ v ∈ pushed, v.name ≠ x

/-- Among variables of other names there is none of this one. -/
theorem find?_of_fresh {x : String} {vs : List Variable} (h : ∀ v ∈ vs, v.name ≠ x) :
    vs.find? (fun v => v.name == x) = none := by
  rw [List.find?_eq_none]
  intro v hv
  simpa using h v hv

namespace Grown

variable {x : String} {vs vs' vs'' : List Variable}

theorem refl (vs : List Variable) : Grown x vs vs :=
  ⟨[], vs, rfl, rfl, rfl, fun _ h => absurd h List.not_mem_nil⟩

/-- The variable that is found under the name is the same. -/
theorem find? (h : Grown x vs vs') :
    vs'.find? (fun v => v.name == x) = vs.find? (fun v => v.name == x) := by
  obtain ⟨pushed, kept, rfl, -, hfind, hpushed⟩ := h
  rw [List.find?_append, find?_of_fresh hpushed, Option.none_or, hfind]

theorem trans (h : Grown x vs vs') (h' : Grown x vs' vs'') : Grown x vs vs'' := by
  have hfinds := h'.find?.trans h.find?
  obtain ⟨pushed, kept, rfl, hnames, -, hpushed⟩ := h
  obtain ⟨pushed', kept', rfl, hnames', -, hpushed'⟩ := h'
  -- of what the second step has kept, the first names are those that the first step pushed
  rw [List.map_append] at hnames'
  obtain ⟨new, old, rfl, hnew, hold⟩ := List.map_eq_append_iff.1 hnames'
  have hfresh : ∀ v ∈ pushed' ++ new, v.name ≠ x := by
    intro v hv
    rcases List.mem_append.1 hv with hv | hv
    · exact hpushed' v hv
    · have hname : v.name ∈ pushed.map Variable.name := hnew ▸ List.mem_map_of_mem hv
      obtain ⟨u, hu, hname⟩ := List.mem_map.1 hname
      rw [← hname]
      exact hpushed u hu
  refine ⟨pushed' ++ new, old, (List.append_assoc _ _ _).symm, hold.trans hnames, ?_, hfresh⟩
  rw [← hfinds, ← List.append_assoc, List.find?_append, find?_of_fresh hfresh, Option.none_or]

/-- A new variable of another name. -/
theorem push {v : Variable} (hv : v.name ≠ x) (vs : List Variable) : Grown x vs (v :: vs) := by
  refine ⟨[v], vs, rfl, rfl, rfl, ?_⟩
  intro u hu
  rw [List.mem_singleton.1 hu]
  exact hv

/-- A change of a variable of another name. -/
theorem change {name : String} (hname : name ≠ x) {f : Variable → Variable}
    (hf : ∀ v, (f v).name = v.name) (vs : List Variable) :
    Grown x vs (Exec.changeFirst name f vs) := by
  refine ⟨[], Exec.changeFirst name f vs, rfl, ?_, ?_, fun _ h => absurd h List.not_mem_nil⟩
  · induction vs with
    | nil => rfl
    | cons v vs ih =>
      unfold Exec.changeFirst
      split
      · rw [List.map_cons, List.map_cons, hf]
      · rw [List.map_cons, List.map_cons, ih]
  · induction vs with
    | nil => rfl
    | cons v vs ih =>
      unfold Exec.changeFirst
      split
      case isTrue hv =>
        have hv' : ((f v).name == x) = false := by
          rw [hf, hv]
          exact beq_false_of_ne hname
        have hv'' : (v.name == x) = false := by
          rw [hv]
          exact beq_false_of_ne hname
        simp only [List.find?_cons, hv', hv'']
      case isFalse => simp only [List.find?_cons, ih]

/-- When a block ends, as many variables go as have come. -/
theorem drop (h : Grown x vs vs') : Grown x vs (vs'.drop (vs'.length - vs.length)) := by
  obtain ⟨pushed, kept, rfl, hnames, hfind, -⟩ := h
  have hlength : kept.length = vs.length := by
    rw [← List.length_map Variable.name, hnames, List.length_map]
  have hdrop : (pushed ++ kept).length - vs.length = pushed.length := by
    rw [List.length_append, hlength, Nat.add_sub_cancel]
  rw [hdrop, List.drop_left]
  exact ⟨[], kept, rfl, hnames, hfind, fun _ h => absurd h List.not_mem_nil⟩

end Grown

/-! ## Section 2: Parts of a run -/

/-- Whatever the calls of the run are answered, it ends with something of this kind. -/
inductive Run.Ends {α : Type} (P : α → Prop) : Run α → Prop where
  | done {a : α} : P a → Ends P (.done a)
  | ask {helper : String} {args : List Value} {resume : Except String Value → Run α} :
      (∀ answer, Ends P (resume answer)) → Ends P (.ask helper args resume)

theorem Run.Ends.bind {α β : Type} {P : α → Prop} {Q : β → Prop} {r : Run α} {f : α → Run β}
    (hr : r.Ends P) (hf : ∀ a, P a → (f a).Ends Q) : (r.bind f).Ends Q := by
  induction hr with
  | done h => exact hf _ h
  | ask _ ih => exact .ask ih

theorem Run.Ends.any {α : Type} (r : Run α) : r.Ends fun _ => True := by
  induction r with
  | done a => exact .done trivial
  | ask helper args resume ih => exact .ask ih

theorem Run.Ends.mono {α : Type} {P Q : α → Prop} {r : Run α} (hr : r.Ends P)
    (h : ∀ a, P a → Q a) : r.Ends Q := by
  induction hr with
  | done hp => exact .done (h _ hp)
  | ask _ ih => exact .ask ih

/-- The part of a run leaves the variable `x` alone, however it ends. If it has a value,
    that is of the kind `R`. -/
def Exec.Leaves {α : Type} (x : String) (R : α → Prop) (part : Exec α) : Prop :=
  ∀ env : Environment, Run.Ends (fun ended => Grown x env.bindings ended.2.bindings ∧
    ∀ a, ended.1 = .ok a → R a) (part.run env)

namespace Exec

/-- The part leaves the variable alone, and may have any value. -/
abbrev Spares {α : Type} (x : String) (part : Exec α) : Prop :=
  Leaves x (fun _ => True) part

variable {α β : Type} {x : String} {R : α → Prop} {Q : β → Prop}

theorem Leaves.pure {a : α} (h : R a) : Leaves x R (Pure.pure a : Exec α) := by
  intro env
  refine .done ⟨.refl _, ?_⟩
  rintro _ ⟨⟩
  exact h

theorem Leaves.throw (halt : Halt) : Leaves x R (MonadExcept.throw halt : Exec α) := by
  intro env
  refine .done ⟨.refl _, ?_⟩
  rintro _ ⟨⟩

theorem Leaves.fault (f : Fault) : Leaves x R (Exec.fault f : Exec α) :=
  .throw (.fault f)

theorem Leaves.mono {R' : α → Prop} {part : Exec α} (h : Leaves x R part)
    (hR : ∀ a, R a → R' a) : Leaves x R' part :=
  fun env => (h env).mono fun _ ⟨hgrown, hvalue⟩ => ⟨hgrown, fun a ha => hR a (hvalue a ha)⟩

theorem Leaves.spares {part : Exec α} (h : Leaves x R part) : Spares x part :=
  h.mono fun _ _ => trivial

theorem Leaves.bind {part : Exec α} {next : α → Exec β} (h : Leaves x R part)
    (hnext : ∀ a, R a → Leaves x Q (next a)) : Leaves x Q (part >>= next) := by
  intro env
  refine (h env).bind ?_
  rintro ⟨halt | a, after⟩ ⟨hgrown, hvalue⟩
  · -- the part is left before its end, and nothing comes after it
    refine .done ⟨hgrown, ?_⟩
    rintro _ ⟨⟩
  · exact (hnext a (hvalue a rfl) after).mono fun _ ⟨hgrown', hvalue'⟩ =>
      ⟨hgrown.trans hgrown', hvalue'⟩

theorem Spares.bind {part : Exec α} {next : α → Exec β} (h : Spares x part)
    (hnext : ∀ a, Leaves x Q (next a)) : Leaves x Q (part >>= next) :=
  Leaves.bind h fun a _ => hnext a

theorem Leaves.tryCatch {part : Exec α} {handler : Halt → Exec α} (h : Leaves x R part)
    (hhandler : ∀ halt, Leaves x R (handler halt)) : Leaves x R (tryCatch part handler) := by
  intro env
  refine (h env).bind ?_
  rintro ⟨halt | a, after⟩ ⟨hgrown, hvalue⟩
  · exact (hhandler halt after).mono fun _ ⟨hgrown', hvalue'⟩ =>
      ⟨hgrown.trans hgrown', hvalue'⟩
  · exact .done ⟨hgrown, hvalue⟩

theorem Leaves.lift {r : Except Fault α} (h : ∀ a, r = .ok a → R a) :
    Leaves x R (Exec.lift r) := by
  cases r with
  | ok a => exact .pure (h a rfl)
  | error f => exact .fault f

theorem Spares.get : Spares x (MonadState.get : Exec Environment) :=
  fun _ => .done ⟨.refl _, fun _ _ => trivial⟩

theorem Spares.lookup (name : String) : Spares x (Exec.lookup name) := by
  unfold Exec.lookup
  refine Spares.get.bind fun env => ?_
  cases env.bindings.find? fun v => v.name == name with
  | none => exact .fault _
  | some v => exact .pure trivial

theorem Spares.read (v : Variable) : Spares x (Exec.read v) := by
  intro env
  obtain ⟨_, _, d | cell⟩ := v <;> exact .done ⟨.refl _, fun _ _ => trivial⟩

theorem Spares.isConstant (v : Variable) : Spares x (Exec.isConstant v) := by
  intro env
  obtain ⟨_, _, d | cell⟩ := v <;> exact .done ⟨.refl _, fun _ _ => trivial⟩

theorem Spares.write {name : String} (hname : name ≠ x) (d : Datum) :
    Spares x (Exec.write name d) := by
  unfold Exec.write
  refine (Spares.lookup name).bind fun v => ?_
  intro env
  cases v.content with
  | own _ =>
    refine .done ⟨.change hname ?_ _, fun _ _ => trivial⟩
    exact fun _ => rfl
  | shared cell => exact .done ⟨.refl _, fun _ _ => trivial⟩

theorem Spares.define {name : String} (hname : name ≠ x) (constant : Bool) (d : Datum) :
    Spares x (Exec.define name constant d) :=
  fun _ => .done ⟨.push hname _, fun _ _ => trivial⟩

theorem Spares.share {name : String} (hname : name ≠ x) : Spares x (Exec.share name) := by
  unfold Exec.share
  refine (Spares.lookup name).bind fun v => ?_
  intro env
  cases v.content with
  | own _ =>
    refine .done ⟨.change hname ?_ _, fun _ _ => trivial⟩
    exact fun _ => rfl
  | shared cell => exact .done ⟨.refl _, fun _ _ => trivial⟩

/-- A block takes its own variables away. -/
theorem Leaves.within {part : Exec α} (h : Leaves x R part) : Leaves x R (Exec.within part) := by
  intro env
  refine (h env).bind ?_
  rintro ⟨result, after⟩ ⟨hgrown, hvalue⟩
  exact .done ⟨hgrown.drop, hvalue⟩

/-- A part that sees other variables leaves these alone, whatever it does; its value is of a
    kind if it is so with any variables. -/
theorem Leaves.withOnly (bindings : List Variable) {part : Exec α}
    (h : ∀ env, Run.Ends (fun ended => ∀ a, ended.1 = .ok a → R a) (part.run env)) :
    Leaves x R (Exec.withOnly bindings part) := by
  intro env
  refine (h { env with bindings }).bind ?_
  rintro ⟨result, after⟩ hvalue
  exact .done ⟨.refl _, hvalue⟩

theorem Spares.withOnly (bindings : List Variable) (part : Exec α) :
    Spares x (Exec.withOnly bindings part) :=
  Leaves.withOnly bindings fun env => (Run.Ends.any (part.run env)).mono fun _ _ _ _ => trivial

theorem Spares.body {part : Exec Datum} (h : Spares x part) : Spares x (Exec.body part) := by
  refine Leaves.tryCatch h fun halt => ?_
  cases halt with
  | returned d => exact .pure trivial
  | _ => exact .throw _

theorem Spares.whole {part : Exec Datum} (h : Spares x part) : Spares x (Exec.whole part) := by
  refine Leaves.tryCatch h fun halt => ?_
  cases halt with
  | returned d => exact .pure trivial
  | exited d => exact .pure trivial
  | _ => exact .throw _

theorem Spares.round {part : Exec Datum} (h : Spares x part) : Spares x (Exec.round part) := by
  refine Leaves.tryCatch (Spares.bind h fun _ => .pure trivial) fun halt => ?_
  cases halt with
  | broken d => exact .pure trivial
  | continued => exact .pure trivial
  | _ => exact .throw _

theorem Spares.needBool (d : Datum) : Spares x (Exec.needBool d) := by
  unfold Exec.needBool
  split
  · exact .pure trivial
  · exact .fault _

theorem Spares.callHelper (name : String) (args : List Datum) :
    Spares x (Exec.callHelper name args) := by
  unfold Exec.callHelper
  cases Datum.toItems? args with
  | error typeName => exact .fault _
  | ok values =>
    intro env
    refine .ask fun answer => ?_
    cases answer with
    | ok v => exact .done ⟨.refl _, fun _ _ => trivial⟩
    | error message => exact .done ⟨.refl _, fun _ _ => trivial⟩

theorem Spares.callHelperOf (s : Setting) (name : String) (args : List Datum) :
    Spares x (Exec.callHelperOf s name args) := by
  unfold Exec.callHelperOf
  split
  · exact .callHelper name args
  · exact .fault _

theorem Spares.keepConstant (name : String) (readOnly : Bool) (o : Outcome) :
    Spares x (Exec.keepConstant name readOnly o) := by
  unfold Exec.keepConstant
  split
  · split
    · exact .pure trivial
    · exact .fault _
  · exact .pure trivial

/-- A function sees its own variables and its receiver only. -/
theorem Spares.called (receiver : Option (Bool × Datum)) (bindings : List Variable)
    (part : Exec Datum) : Spares x (Exec.called receiver bindings part) := by
  unfold Exec.called
  cases receiver with
  | none => exact .withOnly _ _
  | some self => exact .withOnly _ _

/-- A function without a receiver changes none. -/
theorem Leaves.called (bindings : List Variable) (part : Exec Datum) :
    Leaves x (fun o => o.changed = none) (Exec.called none bindings part) := by
  refine .withOnly bindings fun env => ?_
  refine (Run.Ends.any ((Exec.body part).run env)).bind ?_
  rintro ⟨halt | d, after⟩ -
  · refine .done ?_
    rintro _ ⟨⟩
  · refine .done ?_
    rintro _ ⟨⟩
    rfl

/-! ## Section 3: Calls -/

/-- Whether a step calls a method. -/
def Step.isMethod : Step → Bool
  | .method .. => true
  | .property .. | .index .. => false

section

variable (x : String) (s : Setting) (depth : Nat)

theorem spares_callFunction (fuel : Nat) (receiver : Option (Bool × Datum)) (f : Function)
    (args : List Datum) : Spares x (callFunction fuel s depth receiver f args) := by
  cases fuel with
  | zero =>
    unfold callFunction
    exact .fault _
  | succ fuel =>
    unfold callFunction
    split
    · exact .fault _
    · exact .called _ _ _

/-- What is called by its name, what is called as a value, and what a built-in function does. -/
structure SparesCalls (fuel : Nat) : Prop where
  outside : ∀ name args, Spares x (applyOutside fuel s depth name args)
  callable : ∀ receiver f args, Spares x (callWith fuel s depth receiver f args)
  plan : ∀ plan, Spares x (follow fuel s depth plan)

variable {x s depth}

theorem SparesCalls.outside_succ {fuel : Nat} (h : SparesCalls x s depth fuel) (name : String)
    (args : List Datum) : Spares x (applyOutside (fuel + 1) s depth name args) := by
  unfold applyOutside
  split
  · exact h.plan _
  · split
    · exact h.callable _ _ _
    · exact (Spares.callHelperOf _ _ _).bind fun _ => .pure trivial
  · exact (Spares.callHelperOf _ _ _).bind fun _ => .pure trivial

theorem SparesCalls.callable_succ {fuel : Nat} (h : SparesCalls x s depth fuel)
    (receiver : Option (Bool × Datum)) (f : Datum) (args : List Datum) :
    Spares x (callWith (fuel + 1) s depth receiver f args) := by
  unfold callWith
  split
  case h_1 name =>
    split
    · exact spares_callFunction x s depth fuel _ _ _
    · exact (h.outside _ _).bind fun _ => .pure trivial
    · exact (h.outside _ _).bind fun _ => Spares.keepConstant _ _ _
  case h_2 params captured b =>
    split
    · exact .fault _
    · split
      · exact .fault _
      · exact .called _ _ _
  case h_3 f bound => exact h.callable _ _ _
  case h_4 => exact .fault _

theorem SparesCalls.plan_succ {fuel : Nat} (h : SparesCalls x s depth fuel) (plan : Plan) :
    Spares x (follow (fuel + 1) s depth plan) := by
  unfold follow
  cases plan with
  | done o => exact .pure trivial
  | stop halt => exact .throw halt
  | call f ways resume =>
    dsimp only
    split
    · exact (h.callable _ _ _).bind fun _ => h.plan _
    · exact .fault _
  | attempt f args resume =>
    refine Spares.bind ?_ fun _ => h.plan _
    refine Leaves.tryCatch ((h.callable _ _ _).bind fun _ => .pure trivial) fun halt => ?_
    split
    · exact .fault _
    · exact .pure trivial

variable (x s depth)

theorem sparesCalls (fuel : Nat) : SparesCalls x s depth fuel := by
  induction fuel with
  | zero =>
    refine { outside := ?_, callable := ?_, plan := ?_ }
    · intro name args
      unfold applyOutside
      exact .fault _
    · intro receiver f args
      unfold callWith
      exact .fault _
    · intro plan
      unfold follow
      exact .fault _
  | succ fuel ih =>
    exact { outside := ih.outside_succ, callable := ih.callable_succ, plan := ih.plan_succ }

theorem spares_apply (fuel : Nat) (name : String) (args : List Datum) :
    Spares x (apply fuel s depth name args) := by
  cases fuel with
  | zero =>
    unfold apply
    exact .fault _
  | succ fuel =>
    unfold apply
    split
    · exact spares_callFunction x s depth fuel _ _ _
    · exact (sparesCalls x s depth fuel).outside _ _

theorem spares_callMethod (fuel : Nat) (readOnly : Bool) (d : Datum) (name : String)
    (args : List Datum) : Spares x (callMethod fuel s depth readOnly d name args) := by
  cases fuel with
  | zero =>
    unfold callMethod
    exact .fault _
  | succ fuel =>
    have hcalls := sparesCalls x s depth fuel
    unfold callMethod
    split
    · split
      · exact hcalls.callable _ _ _
      · exact hcalls.callable _ _ _
    · split
      · exact hcalls.callable _ _ _
      · split
        · exact spares_callFunction x s depth fuel _ _ _
        · exact (hcalls.outside _ _).bind fun _ => Spares.keepConstant _ _ _

/-- A function of the script that is called without a receiver changes none. -/
theorem leaves_callFunction (fuel : Nat) (f : Function) (args : List Datum) :
    Leaves x (fun o => o.changed = none) (callFunction fuel s depth none f args) := by
  cases fuel with
  | zero =>
    unfold callFunction
    exact .fault _
  | succ fuel =>
    unfold callFunction
    split
    · exact .fault _
    · exact .called _ _

/-- Nor does any value that is called without one. -/
theorem leaves_callWith (fuel : Nat) (f : Datum) (args : List Datum) :
    Leaves x (fun o => o.changed = none) (callWith fuel s depth none f args) := by
  induction fuel generalizing f args with
  | zero =>
    unfold callWith
    exact .fault _
  | succ fuel ih =>
    unfold callWith
    split
    case h_1 name =>
      split
      · exact leaves_callFunction x s depth fuel _ _
      · -- what a built-in function makes of its first argument is dropped
        exact ((sparesCalls x s depth fuel).outside _ _).bind fun _ => .pure rfl
      · rename_i hreceiver
        cases hreceiver
    case h_2 params captured b =>
      split
      · exact .fault _
      · split
        · exact .fault _
        · exact .called _ _
    case h_3 f bound => exact ih f (bound ++ args)
    case h_4 => exact .fault _

/-- A function that is called as a value is left as it is by its calls. -/
theorem leaves_callMethod_call (fuel : Nat) (readOnly : Bool) {f : Datum} (hf : f.isCallable = true)
    (args : List Datum) :
    Leaves x (fun o => o.changed = none) (callMethod fuel s depth readOnly f callName args) := by
  cases fuel with
  | zero =>
    unfold callMethod
    exact .fault _
  | succ fuel =>
    unfold callMethod
    rw [if_pos rfl, hf]
    exact leaves_callWith x s depth fuel f args

/-- Only a method changes what a chain of steps starts from. -/
theorem leaves_walk (fuel : Nat) (readOnly : Bool) (d : Datum) (steps : List Step) :
    Leaves x (fun r => steps.any Step.isMethod = false → r.changed = none)
      (walk fuel s depth readOnly d steps) := by
  induction fuel generalizing readOnly d steps with
  | zero =>
    unfold walk
    exact .fault _
  | succ fuel ih =>
    cases steps with
    | nil =>
      unfold walk
      exact .pure fun _ => rfl
    | cons step rest =>
      unfold walk
      split
      · exact .pure fun _ => rfl
      · cases step with
        | property name lenient =>
          refine Spares.bind (.lift fun _ _ => trivial) fun part => ?_
          refine (ih readOnly part.value rest).bind fun r hr => .pure fun hnone => ?_
          rw [hr hnone]
          cases part.put <;> rfl
        | index place lenient =>
          refine Spares.bind (.lift fun _ _ => trivial) fun part => ?_
          refine (ih readOnly part.value rest).bind fun r hr => .pure fun hnone => ?_
          rw [hr hnone]
          cases part.put <;> rfl
        | method name args lenient =>
          refine (spares_callMethod x s depth fuel readOnly d name args).bind fun called => ?_
          refine (ih false called.value rest).bind fun r _ => .pure fun hnone => ?_
          cases hnone

/-- Reaching into another variable, or into this one without a method on the way. -/
theorem spares_reach (fuel : Nat) {name : String} {steps : List Step}
    (h : name ≠ x ∨ steps.any Step.isMethod = false) :
    Spares x (reach fuel s depth name steps) := by
  cases fuel with
  | zero =>
    unfold reach
    exact .fault _
  | succ fuel =>
    unfold reach
    refine (Spares.lookup name).bind fun v => ?_
    refine (Spares.isConstant v).bind fun readOnly => ?_
    refine (Spares.read v).bind fun d => ?_
    refine (leaves_walk x s depth fuel readOnly d steps).bind fun r hr => ?_
    refine Spares.bind ?_ fun _ => .pure trivial
    rcases h with hname | hnone
    · cases r.changed with
      | none => exact .pure trivial
      | some new => exact .write hname new
    · rw [hr hnone]
      exact .pure trivial

end

end Exec

end Hyperfiction.Script
