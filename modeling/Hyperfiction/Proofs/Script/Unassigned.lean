import Hyperfiction.Proofs.Script.Frame

/-! # Variables that a script does not assign

    Whether a script leaves a variable alone can be read off its statements. It may read
    the variable and reach into it; what it may not do is assign to it, hand it to a
    function as its first argument, call a method on it, give it to a closure, or put
    another variable of its name before it. The functions of the script need no looking
    at, for they do not see the variable.

    What every statement does is one case of an induction on fuel.
-/

namespace Hyperfiction.Script

/-! ## Section 1: Reading off the statements -/

/-- Whether an access calls a method. -/
def Access.isMethod : Access → Bool
  | .method .. => true
  | .property .. | .index .. => false

namespace Expr

/-- Whether an expression is the variable of a name. -/
def isVariable (x : String) : Expr → Bool
  | .variable y => y == x
  | _ => false

end Expr

mutual

/-- The expression leaves the variable `x` alone. -/
def Expr.spares (x : String) : Expr → Bool
  | .text pieces => allSpare x pieces
  | .array items => allSpare x items
  | .map fields => fieldsSpare x fields
  | .closure _ captured _ => !captured.contains x
  | .unary _ operand => operand.spares x
  | .binary _ left right => left.spares x && right.spares x
  | .and left right => left.spares x && right.spares x
  | .or left right => left.spares x && right.spares x
  | .orElse left right => left.spares x && right.spares x
  | .inside item container => item.spares x && container.spares x
  | .call _ args => !(args.head?.any (Expr.isVariable x)) && allSpare x args
  | .chain base accesses =>
    -- what a method changes is put back into the variable that its chain starts from
    (!base.isVariable x || !accesses.any Access.isMethod) && base.spares x &&
      accessesSpare x accesses
  | .statement s => s.spares x
  | .unit | .bool _ | .int _ | .float _ | .char _ | .str _ | .variable _ | .receiver
  | .function _ => true

/-- All of the expressions leave the variable alone. -/
def allSpare (x : String) : List Expr → Bool
  | [] => true
  | e :: es => e.spares x && allSpare x es

/-- The expressions of all of the fields do. -/
def fieldsSpare (x : String) : List (String × Expr) → Bool
  | [] => true
  | (_, e) :: fs => e.spares x && fieldsSpare x fs

/-- The expression, if there is one, does. -/
def optionSpares (x : String) : Option Expr → Bool
  | none => true
  | some e => e.spares x

/-- The expressions in the access do. -/
def Access.spares (x : String) : Access → Bool
  | .property _ _ => true
  | .index e _ => e.spares x
  | .method _ args _ => allSpare x args

/-- The expressions in all of the accesses do. -/
def accessesSpare (x : String) : List Access → Bool
  | [] => true
  | a :: rest => a.spares x && accessesSpare x rest

/-- The statement leaves the variable alone. -/
def Stmt.spares (x : String) : Stmt → Bool
  | .expr e => e.spares x
  | .define name _ value => name != x && value.spares x
  | .assign target _ value => target.sparesTarget x && value.spares x
  | .block body => stmtsSpare x body
  | .conditional condition holds fails =>
    condition.spares x && stmtsSpare x holds && stmtsSpare x fails
  | .whileLoop condition body => condition.spares x && stmtsSpare x body
  | .loop body => stmtsSpare x body
  | .doLoop body condition _ => stmtsSpare x body && condition.spares x
  | .forEach name counter source body =>
    name != x && counter != some x && source.spares x && stmtsSpare x body
  | .switch subject cases default =>
    subject.spares x && casesSpare x cases && actionSpares x default
  | .attempt body name handler => name != some x && stmtsSpare x body && stmtsSpare x handler
  | .break_ value => optionSpares x value
  | .continue_ => true
  | .return_ value => optionSpares x value
  | .throw_ value => optionSpares x value

/-- An assignment to the target does not change the variable. -/
def Expr.sparesTarget (x : String) : Expr → Bool
  | .variable name => name != x
  | .chain base accesses => !base.isVariable x && accessesSpare x accesses
  | _ => true

/-- All of the statements leave the variable alone. -/
def stmtsSpare (x : String) : List Stmt → Bool
  | [] => true
  | s :: rest => s.spares x && stmtsSpare x rest

/-- The statement, if there is one, does. -/
def actionSpares (x : String) : Option Stmt → Bool
  | none => true
  | some s => s.spares x

/-- The guard and the action of the case do. -/
def Case.spares (x : String) : Case → Bool
  | .mk _ guard action => optionSpares x guard && action.spares x

/-- All of the cases do. -/
def casesSpare (x : String) : List Case → Bool
  | [] => true
  | c :: rest => c.spares x && casesSpare x rest

end

/-! ## Section 2: Expressions -/

namespace Exec

/-- With this much fuel, whatever leaves the variable alone by its looks does so when it is
    run. -/
structure SparesWith (x : String) (s : Setting) (depth fuel : Nat) : Prop where
  eval : ∀ e, e.spares x = true → Spares x (eval fuel s depth e)
  evalAll : ∀ es, allSpare x es = true → Spares x (evalAll fuel s depth es)
  evalAccesses : ∀ accesses, accessesSpare x accesses = true →
    Leaves x (fun steps => steps.any Step.isMethod = accesses.any Access.isMethod)
      (evalAccesses fuel s depth accesses)
  exec : ∀ st, st.spares x = true → Spares x (exec fuel s depth st)
  execAll : ∀ sts, stmtsSpare x sts = true → Spares x (execAll fuel s depth sts)
  choose : ∀ cases, casesSpare x cases = true →
    Leaves x (fun action => actionSpares x action = true) (choose fuel s depth cases)
  whileLoop : ∀ c b, c.spares x = true → stmtsSpare x b = true →
    Spares x (whileLoop fuel s depth c b)
  doLoop : ∀ b c last, c.spares x = true → stmtsSpare x b = true →
    Spares x (doLoop fuel s depth b c last)
  forLoop : ∀ name counter b place w, name ≠ x → counter ≠ some x → stmtsSpare x b = true →
    Spares x (forLoop fuel s depth name counter b place w)

theorem sparesWith_zero (x : String) (s : Setting) (depth : Nat) : SparesWith x s depth 0 where
  eval := by intros; unfold Exec.eval; exact .fault _
  evalAll := by intros; unfold Exec.evalAll; exact .fault _
  evalAccesses := by intros; unfold Exec.evalAccesses; exact .fault _
  exec := by intros; unfold Exec.exec; exact .fault _
  execAll := by intros; unfold Exec.execAll; exact .fault _
  choose := by intros; unfold Exec.choose; exact .fault _
  whileLoop := by intros; unfold Exec.whileLoop; exact .fault _
  doLoop := by intros; unfold Exec.doLoop; exact .fault _
  forLoop := by intros; unfold Exec.forLoop; exact .fault _

theorem allSpare_values {x : String} {fields : List (String × Expr)}
    (h : fieldsSpare x fields = true) : allSpare x (fields.map Prod.snd) = true := by
  induction fields with
  | nil => rfl
  | cons field rest ih =>
    obtain ⟨key, e⟩ := field
    rw [fieldsSpare, Bool.and_eq_true] at h
    rw [List.map_cons, allSpare, h.1, ih h.2]
    rfl

theorem casesSpare_iff {x : String} {cases : List Case} :
    casesSpare x cases = true ↔ ∀ c ∈ cases, c.spares x = true := by
  induction cases with
  | nil => simp [casesSpare]
  | cons c rest ih => simp [casesSpare, ih]

section

variable {x : String} {s : Setting} {depth fuel : Nat}

/-- One expression after the other. -/
theorem SparesWith.evalBoth (h : SparesWith x s depth fuel) {left right : Expr}
    (hspares : (left.spares x && right.spares x) = true) {next : Datum → Datum → Exec Datum}
    (hnext : ∀ a b, Spares x (next a b)) :
    Spares x (do
      let a ← Exec.eval fuel s depth left
      let b ← Exec.eval fuel s depth right
      next a b) := by
  rw [Bool.and_eq_true] at hspares
  exact (h.eval left hspares.1).bind fun a => (h.eval right hspares.2).bind fun b => hnext a b

/-- A truth value. -/
theorem SparesWith.evalBool (h : SparesWith x s depth fuel) {e : Expr}
    (hspares : e.spares x = true) {α : Type} {R : α → Prop} {next : Bool → Exec α}
    (hnext : ∀ b, Leaves x R (next b)) :
    Leaves x R (do
      let d ← Exec.eval fuel s depth e
      let b ← needBool d
      next b) :=
  (h.eval e hspares).bind fun d => (Spares.needBool d).bind hnext

theorem spares_shareAll {captured : List String} (h : x ∉ captured) :
    Spares x (captured.mapM Exec.share) := by
  have hloop : ∀ done, Spares x (List.mapM.loop Exec.share captured done) := by
    induction captured with
    | nil => exact fun _ => .pure trivial
    | cons name rest ih =>
      intro done
      rw [List.mem_cons, not_or] at h
      exact (Spares.share (Ne.symm h.1)).bind fun cell => ih h.2 (cell :: done)
  exact hloop []

/-- A call changes at most the variable that is its first argument. -/
theorem SparesWith.evalCall (h : SparesWith x s depth fuel) {name : String} {args : List Expr}
    (hspares : (Expr.call name args).spares x = true) :
    Spares x (Exec.eval (fuel + 1) s depth (.call name args)) := by
  unfold Expr.spares at hspares
  rw [Bool.and_eq_true] at hspares
  obtain ⟨hfirst, hargs⟩ := hspares
  have hplain : Spares x (do
      let ds ← Exec.evalAll fuel s depth args
      let r ← apply fuel s depth name ds
      return r.value) :=
    (h.evalAll args hargs).bind fun ds => (spares_apply x s depth fuel name ds).bind fun _ =>
      .pure trivial
  unfold Exec.eval
  rcases args with _ | ⟨first, rest⟩
  · exact hplain
  cases first with
  | «variable» y =>
    have hy : y ≠ x := by simpa [Expr.isVariable] using hfirst
    have hrest : allSpare x rest = true := by
      rw [allSpare, Bool.and_eq_true] at hargs
      exact hargs.2
    refine (h.evalAll rest hrest).bind fun ds => ?_
    refine (Spares.lookup y).bind fun v => ?_
    refine (Spares.read v).bind fun d => ?_
    refine (spares_apply x s depth fuel name (d :: ds)).bind fun r => ?_
    dsimp only
    split
    · split
      · exact (Spares.write hy _).bind fun _ => .pure trivial
      · exact .pure trivial
    · exact .pure trivial
  | _ => exact hplain

theorem SparesWith.evalChain (h : SparesWith x s depth fuel) (hx : receiverName ≠ x)
    {base : Expr} {accesses : List Access} (hspares : (Expr.chain base accesses).spares x = true) :
    Spares x (Exec.eval (fuel + 1) s depth (.chain base accesses)) := by
  unfold Expr.spares at hspares
  simp only [Bool.and_eq_true] at hspares
  obtain ⟨⟨hmethods, hbase⟩, haccesses⟩ := hspares
  unfold Exec.eval
  refine (h.evalAccesses accesses haccesses).bind fun steps hsteps => ?_
  split
  case h_1 y =>
    -- reached into, the variable keeps what it holds if no method is on the way
    refine spares_reach x s depth fuel ?_
    rw [hsteps]
    simpa [Expr.isVariable] using hmethods
  case h_2 => exact spares_reach x s depth fuel (.inl hx)
  case h_3 =>
    refine (h.eval base hbase).bind fun d => ?_
    exact (leaves_walk x s depth fuel false d steps).spares.bind fun _ => .pure trivial

theorem SparesWith.eval_succ (h : SparesWith x s depth fuel) (hx : receiverName ≠ x) (e : Expr)
    (hspares : e.spares x = true) : Spares x (Exec.eval (fuel + 1) s depth e) := by
  have hwhole := hspares
  unfold Expr.spares at hspares
  cases e with
  | call name args => exact h.evalCall hwhole
  | chain base accesses => exact h.evalChain hx hwhole
  | text pieces =>
    unfold Exec.eval
    exact (h.evalAll pieces hspares).bind fun _ => .pure trivial
  | array items =>
    unfold Exec.eval
    exact (h.evalAll items hspares).bind fun _ => .pure trivial
  | map fields =>
    unfold Exec.eval
    exact (h.evalAll _ (allSpare_values hspares)).bind fun _ => .pure trivial
  | «variable» name =>
    unfold Exec.eval
    exact (Spares.lookup name).bind Spares.read
  | receiver =>
    unfold Exec.eval
    exact (Spares.lookup receiverName).bind Spares.read
  | closure params captured body =>
    unfold Exec.eval
    exact (spares_shareAll (by simpa using hspares)).bind fun _ => .pure trivial
  | unary op operand =>
    unfold Exec.eval
    exact (h.eval operand hspares).bind fun _ => .lift fun _ _ => trivial
  | binary op left right =>
    unfold Exec.eval
    exact h.evalBoth hspares fun _ _ => .lift fun _ _ => trivial
  | and left right =>
    rw [Bool.and_eq_true] at hspares
    unfold Exec.eval
    refine h.evalBool hspares.1 fun b => ?_
    split
    · exact h.evalBool hspares.2 fun _ => .pure trivial
    · exact .pure trivial
  | or left right =>
    rw [Bool.and_eq_true] at hspares
    unfold Exec.eval
    refine h.evalBool hspares.1 fun b => ?_
    split
    · exact .pure trivial
    · exact h.evalBool hspares.2 fun _ => .pure trivial
  | orElse left right =>
    rw [Bool.and_eq_true] at hspares
    unfold Exec.eval
    refine (h.eval left hspares.1).bind fun d => ?_
    split
    · exact h.eval right hspares.2
    · exact .pure trivial
  | inside item container =>
    unfold Exec.eval
    refine h.evalBoth ((Bool.and_comm _ _).trans hspares) fun c d => ?_
    exact (spares_apply x s depth fuel _ _).bind fun _ => .pure trivial
  | statement st =>
    unfold Exec.eval
    exact h.exec st hspares
  | _ =>
    unfold Exec.eval
    exact .pure trivial

theorem SparesWith.evalAll_succ (h : SparesWith x s depth fuel) (es : List Expr)
    (hspares : allSpare x es = true) : Spares x (Exec.evalAll (fuel + 1) s depth es) := by
  cases es with
  | nil =>
    unfold Exec.evalAll
    exact .pure trivial
  | cons e rest =>
    rw [allSpare, Bool.and_eq_true] at hspares
    unfold Exec.evalAll
    exact (h.eval e hspares.1).bind fun _ => (h.evalAll rest hspares.2).bind fun _ => .pure trivial

theorem SparesWith.evalAccesses_succ (h : SparesWith x s depth fuel) (accesses : List Access)
    (hspares : accessesSpare x accesses = true) :
    Leaves x (fun steps => steps.any Step.isMethod = accesses.any Access.isMethod)
      (Exec.evalAccesses (fuel + 1) s depth accesses) := by
  cases accesses with
  | nil =>
    unfold Exec.evalAccesses
    exact .pure rfl
  | cons access rest =>
    rw [accessesSpare, Bool.and_eq_true] at hspares
    obtain ⟨haccess, hrest⟩ := hspares
    have hgoes : ∀ step : Step, step.isMethod = access.isMethod →
        Leaves x (fun steps => steps.any Step.isMethod = (access :: rest).any Access.isMethod) (do
          let steps ← Exec.evalAccesses fuel s depth rest
          return step :: steps) := by
      intro step hstep
      refine (h.evalAccesses rest hrest).bind fun steps hsteps => .pure ?_
      rw [List.any_cons, List.any_cons, hstep, hsteps]
    unfold Exec.evalAccesses
    unfold Access.spares at haccess
    cases access with
    | property name lenient => exact hgoes (.property name lenient) rfl
    | index e lenient => exact (h.eval e haccess).bind fun d => hgoes (.index d lenient) rfl
    | method name args lenient =>
      exact (h.evalAll args haccess).bind fun ds => hgoes (.method name ds lenient) rfl

/-! ## Section 3: Statements -/

/-- Writing to a place in another variable. -/
theorem SparesWith.put (h : SparesWith x s depth fuel) {name : String} (hname : name ≠ x)
    {accesses : List Access} (haccesses : accessesSpare x accesses = true)
    (change : Datum → Except Fault Datum) :
    Spares x (do
      let steps ← Exec.evalAccesses fuel s depth accesses
      let v ← lookup name
      write name (← lift (changeAt name (← isConstant v) change steps (← read v)))
      return Datum.unit) := by
  refine (h.evalAccesses accesses haccesses).spares.bind fun steps => ?_
  refine (Spares.lookup name).bind fun v => ?_
  refine (Spares.isConstant v).bind fun readOnly => ?_
  refine (Spares.read v).bind fun old => ?_
  refine Spares.bind (.lift fun _ _ => trivial) fun new => ?_
  exact (Spares.write hname new).bind fun _ => .pure trivial

theorem SparesWith.execAssign (h : SparesWith x s depth fuel) (hx : receiverName ≠ x)
    {target value : Expr} (op : Option BinaryOp) (htarget : target.sparesTarget x = true)
    (hvalue : value.spares x = true) :
    Spares x (Exec.exec (fuel + 1) s depth (.assign target op value)) := by
  unfold Exec.exec
  refine (h.eval value hvalue).bind fun d => ?_
  unfold Expr.sparesTarget at htarget
  cases target with
  | «variable» name => exact h.put (by simpa using htarget) rfl _
  | chain base accesses =>
    rw [Bool.and_eq_true] at htarget
    obtain ⟨hbase, haccesses⟩ := htarget
    cases base with
    | «variable» name => exact h.put (by simpa [Expr.isVariable] using hbase) haccesses _
    | _ => exact h.put hx haccesses _
  | _ => exact h.put hx rfl _

/-- A statement that is left with the value of an expression, or with none. -/
theorem SparesWith.leave (h : SparesWith x s depth fuel) {value : Option Expr}
    (hspares : optionSpares x value = true) {next : Datum → Exec Datum}
    (hnext : ∀ d, Spares x (next d)) :
    Spares x (match value with
      | some e => do
        let d ← Exec.eval fuel s depth e
        next d
      | none => do
        let d ← pure Datum.unit
        next d) := by
  cases value with
  | none => exact Spares.bind (.pure trivial) hnext
  | some e => exact (h.eval e hspares).bind hnext

theorem spares_defineOption {name : Option String} (hname : name ≠ some x) (d : Datum) :
    Spares x (name.forM fun n => define n false d) := by
  cases name with
  | none => exact .pure trivial
  | some n => exact .define (fun hn => hname (congrArg some hn)) false d

theorem SparesWith.execAttempt (h : SparesWith x s depth fuel) {name : Option String}
    {b handler : List Stmt} (hname : name ≠ some x) (hb : stmtsSpare x b = true)
    (hhandler : stmtsSpare x handler = true) :
    Spares x (Exec.exec (fuel + 1) s depth (.attempt b name handler)) := by
  unfold Exec.exec
  refine Leaves.tryCatch (h.execAll b hb).within fun halt => ?_
  cases halt with
  | fault f =>
    dsimp only
    split
    · refine Leaves.tryCatch ?_ fun halt => ?_
      · refine Leaves.within ?_
        exact (spares_defineOption hname f.datum).bind fun _ => (h.execAll handler hhandler).within
      · split
        · exact .fault _
        · exact .throw _
    · exact .fault _
  | _ => exact .throw _

theorem SparesWith.execSwitch (h : SparesWith x s depth fuel) {subject : Expr}
    {cases : List Case} {default : Option Stmt} (hsubject : subject.spares x = true)
    (hcases : casesSpare x cases = true) (hdefault : actionSpares x default = true) :
    Spares x (Exec.exec (fuel + 1) s depth (.switch subject cases default)) := by
  unfold Exec.exec
  refine (h.eval subject hsubject).bind fun d => ?_
  have hchosen : casesSpare x (cases.filter (namesValue d) ++ cases.filter (rangesOver d))
      = true := by
    rw [casesSpare_iff] at hcases ⊢
    intro c hc
    rcases List.mem_append.1 hc with hc | hc
    · exact hcases c (List.mem_filter.1 hc).1
    · exact hcases c (List.mem_filter.1 hc).1
  refine (h.choose _ hchosen).bind fun action haction => ?_
  cases action with
  | some action => exact h.exec action haction
  | none =>
    cases default with
    | some action => exact h.exec action hdefault
    | none => exact .pure trivial

theorem SparesWith.exec_succ (h : SparesWith x s depth fuel) (hx : receiverName ≠ x) (st : Stmt)
    (hspares : st.spares x = true) : Spares x (Exec.exec (fuel + 1) s depth st) := by
  unfold Stmt.spares at hspares
  cases st with
  | assign target op value =>
    rw [Bool.and_eq_true] at hspares
    exact h.execAssign hx op hspares.1 hspares.2
  | attempt b name handler =>
    simp only [Bool.and_eq_true, bne_iff_ne] at hspares
    exact h.execAttempt hspares.1.1 hspares.1.2 hspares.2
  | switch subject cases default =>
    simp only [Bool.and_eq_true] at hspares
    exact h.execSwitch hspares.1.1 hspares.1.2 hspares.2
  | expr e =>
    unfold Exec.exec
    exact h.eval e hspares
  | define name constant value =>
    rw [Bool.and_eq_true, bne_iff_ne] at hspares
    unfold Exec.exec
    refine (h.eval value hspares.2).bind fun d => ?_
    exact (Spares.define hspares.1 constant d).bind fun _ => .pure trivial
  | block b =>
    unfold Exec.exec
    exact (h.execAll b hspares).within
  | conditional c holds fails =>
    simp only [Bool.and_eq_true] at hspares
    unfold Exec.exec
    refine h.evalBool hspares.1.1 fun b => ?_
    split
    · exact (h.execAll holds hspares.1.2).within
    · exact (h.execAll fails hspares.2).within
  | whileLoop c b =>
    rw [Bool.and_eq_true] at hspares
    unfold Exec.exec
    exact h.whileLoop c b hspares.1 hspares.2
  | loop b =>
    unfold Exec.exec
    exact h.whileLoop (.bool true) b rfl hspares
  | doLoop b c last =>
    rw [Bool.and_eq_true] at hspares
    unfold Exec.exec
    exact h.doLoop b c last hspares.2 hspares.1
  | forEach name counter source b =>
    simp only [Bool.and_eq_true, bne_iff_ne] at hspares
    obtain ⟨⟨⟨hname, hcounter⟩, hsource⟩, hb⟩ := hspares
    unfold Exec.exec
    refine (h.eval source hsource).bind fun d => ?_
    split
    · exact h.forLoop name counter b 0 _ hname hcounter hb
    · exact .fault _
  | break_ value =>
    unfold Exec.exec
    exact h.leave hspares fun d => .throw _
  | continue_ =>
    unfold Exec.exec
    exact .throw _
  | return_ value =>
    unfold Exec.exec
    exact h.leave hspares fun d => .throw _
  | throw_ value =>
    unfold Exec.exec
    exact h.leave hspares fun d => .fault _

theorem SparesWith.execAll_succ (h : SparesWith x s depth fuel) (sts : List Stmt)
    (hspares : stmtsSpare x sts = true) : Spares x (Exec.execAll (fuel + 1) s depth sts) := by
  match sts with
  | [] =>
    unfold Exec.execAll
    exact .pure trivial
  | [st] =>
    rw [stmtsSpare, Bool.and_eq_true] at hspares
    unfold Exec.execAll
    exact h.exec st hspares.1
  | st :: next :: rest =>
    rw [stmtsSpare, Bool.and_eq_true] at hspares
    unfold Exec.execAll
    exact (h.exec st hspares.1).bind fun _ => h.execAll (next :: rest) hspares.2

theorem SparesWith.choose_succ (h : SparesWith x s depth fuel) (cases : List Case)
    (hspares : casesSpare x cases = true) :
    Leaves x (fun action => actionSpares x action = true)
      (Exec.choose (fuel + 1) s depth cases) := by
  match cases with
  | [] =>
    unfold Exec.choose
    exact .pure rfl
  | .mk values guard action :: rest =>
    rw [casesSpare, Bool.and_eq_true, Case.spares, Bool.and_eq_true] at hspares
    obtain ⟨⟨hguard, haction⟩, hrest⟩ := hspares
    have hgoes : ∀ holds : Bool, Leaves x (fun action => actionSpares x action = true)
        (if holds then pure (some action) else Exec.choose fuel s depth rest) := by
      intro holds
      cases holds with
      | true => exact .pure haction
      | false => exact h.choose rest hrest
    unfold Exec.choose
    cases guard with
    | none => exact hgoes true
    | some g => exact h.evalBool hguard hgoes

/-! ## Section 4: Loops -/

/-- One round of a loop, and the next ones if the loop is not left. -/
theorem spares_rounds {round : Exec (Option Datum)} {next : Exec Datum} (hround : Spares x round)
    (hnext : Spares x next) :
    Spares x (do
      match ← round with
      | some d => return d
      | none => next) := by
  refine hround.bind fun left => ?_
  cases left with
  | some d => exact .pure trivial
  | none => exact hnext

/-- The body of a loop with its own variables. -/
theorem SparesWith.turn (h : SparesWith x s depth fuel) {name : String} {counter : Option String}
    {b : List Stmt} (hname : name ≠ x) (hcounter : counter ≠ some x)
    (hb : stmtsSpare x b = true) (place item : Datum) :
    Spares x (round <| within do
      counter.forM fun c => define c false place
      define name false item
      within (Exec.execAll fuel s depth b)) := by
  refine Spares.round (Leaves.within ?_)
  refine (spares_defineOption hcounter place).bind fun _ => ?_
  exact (Spares.define hname false item).bind fun _ => (h.execAll b hb).within

theorem SparesWith.whileLoop_succ (h : SparesWith x s depth fuel) (c : Expr) (b : List Stmt)
    (hc : c.spares x = true) (hb : stmtsSpare x b = true) :
    Spares x (Exec.whileLoop (fuel + 1) s depth c b) := by
  unfold Exec.whileLoop
  refine h.evalBool hc fun holds => ?_
  split
  · exact spares_rounds (Spares.round (h.execAll b hb).within) (h.whileLoop c b hc hb)
  · exact .pure trivial

theorem SparesWith.doLoop_succ (h : SparesWith x s depth fuel) (b : List Stmt) (c : Expr)
    (last : Bool) (hc : c.spares x = true) (hb : stmtsSpare x b = true) :
    Spares x (Exec.doLoop (fuel + 1) s depth b c last) := by
  unfold Exec.doLoop
  refine spares_rounds (Spares.round (h.execAll b hb).within) ?_
  refine h.evalBool hc fun holds => ?_
  split
  · exact .pure trivial
  · exact h.doLoop b c last hc hb

theorem SparesWith.forLoop_succ (h : SparesWith x s depth fuel) (name : String)
    (counter : Option String) (b : List Stmt) (place : Nat) (w : Walk)
    (hname : name ≠ x) (hcounter : counter ≠ some x) (hb : stmtsSpare x b = true) :
    Spares x (Exec.forLoop (fuel + 1) s depth name counter b place w) := by
  unfold Exec.forLoop
  split
  · exact .pure trivial
  · exact spares_rounds (h.turn hname hcounter hb _ _)
      (h.forLoop name counter b (place + 1) _ hname hcounter hb)

end

/-- Whatever leaves a variable alone by its looks does so when it is run, with any fuel. -/
theorem sparesWith {x : String} (hx : receiverName ≠ x) (s : Setting) (depth fuel : Nat) :
    SparesWith x s depth fuel := by
  induction fuel with
  | zero => exact sparesWith_zero x s depth
  | succ fuel ih =>
    exact {
      eval := ih.eval_succ hx
      evalAll := ih.evalAll_succ
      evalAccesses := ih.evalAccesses_succ
      exec := ih.exec_succ hx
      execAll := ih.execAll_succ
      choose := ih.choose_succ
      whileLoop := ih.whileLoop_succ
      doLoop := ih.doLoop_succ
      forLoop := ih.forLoop_succ }

end Exec

/-- A program whose statements leave a variable alone ends with the variable that it has
    found under the name, whatever its calls are answered. -/
theorem Program.run_spares {p : Program} {x : String} (hx : receiverName ≠ x)
    (hspares : stmtsSpare x p.body = true) (helpers : List String) (bindings : List Variable) :
    Run.Ends (fun ended => ended.2.bindings.find? (fun v => v.name == x)
      = bindings.find? (fun v => v.name == x)) (p.run helpers bindings) := by
  have hbody := Exec.Spares.whole
    ((Exec.sparesWith hx { program := p, helpers } 0 stepLimit).execAll p.body hspares)
  exact (hbody { bindings }).mono fun _ ⟨hgrown, _⟩ => hgrown.find?

end Hyperfiction.Script
