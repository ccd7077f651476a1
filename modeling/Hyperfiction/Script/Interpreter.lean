import Hyperfiction.Script.Builtin
import Hyperfiction.Script.Environment

/-! # Running scripts

    What the expressions and statements of a script do. The arguments and
    indexes of a chain of accesses are evaluated before the value that the chain
    starts from, and the right side of an assignment before its left side. A
    chain that starts from a variable changes that variable; any other value is
    a copy.

    Every function here takes `fuel`, one unit less for each nested call and for
    each round of a loop; a run without fuel is exhausted.
-/

namespace Hyperfiction.Script

/-- What stays the same during a run. -/
structure Setting where
  program : Program
  /-- The names of the helpers that can be called. -/
  helpers : List String

/-- How many arguments a helper can be called with. -/
def helperArgsLimit : Nat := 8

/-- How deep functions may call functions. -/
def callLimit : Nat := 64

/-- How many steps a run may nest, and how many rounds a loop may take. The language has no
    such limit: a script that goes on for longer, or for ever, is exhausted here. -/
def stepLimit : Nat := 1000000

namespace Exec

/-! ## Places inside values -/

/-- A step into a value, its index or arguments evaluated. -/
inductive Step where
  | property (name : String) (lenient : Bool)
  | index (at_ : Datum) (lenient : Bool)
  | method (name : String) (args : List Datum) (lenient : Bool)

/-- Whether a step makes the unit value of the unit value. -/
def Step.isLenient : Step → Bool
  | .property _ lenient | .index _ lenient | .method _ _ lenient => lenient

/-- Whether a value is the unit value. -/
def isUnit : Datum → Bool
  | .unit => true
  | _ => false

/-- A part of a value, and what the value becomes when the part changes, if it
    changes with its part. -/
structure Part where
  value : Datum
  put : Option (Datum → Datum)

/-- A part that is a copy. -/
def Part.copy (d : Datum) : Part :=
  { value := d, put := none }

/-- The part of a value under a name. -/
def propertyPart (name : String) : Datum → Except Fault Part
  | .map fields =>
    match Table.get? name fields with
    | some d => .ok { value := d, put := some fun d => .map (Table.insert name d fields) }
    | none => .ok (.copy .unit)
  | d =>
    match Builtin.property? name d with
    | some p => .ok (.copy p)
    | none => .error (.failed ("Unknown property '" ++ name ++ "' of " ++ d.typeName))

/-- The part of a value at an index. -/
def indexPart : Datum → Datum → Except Fault Part
  | .arr items, .int i =>
    match Builtin.place? items.length i with
    | some n => .ok { value := items.getD n .unit, put := some fun d => .arr (items.set n d) }
    | none => .error (.failed "Array index out of bounds")
  | .map fields, .str key => propertyPart key (.map fields)
  | .str s, .int i =>
    match Builtin.place? s.length i with
    | some n => .ok (.copy (.char (s.toList.getD n ' ')))
    | none => .error (.failed "String index out of bounds")
  | .int n, .int i =>
    match Builtin.place? 64 i with
    | some bit => .ok (.copy (.bool ((n % UInt64.size).toNat.testBit bit)))
    | none => .error (.failed "Bit index out of bounds")
  | d, _ => .error (.failed ("Cannot index into " ++ d.typeName))

/-- What a change makes of an old value that may be constant. -/
def changed (name : String) (readOnly : Bool) (change : Datum → Except Fault Datum) (old : Datum) :
    Except Fault Datum :=
  if readOnly then .error (.constantAssigned name) else change old

/-- Changes the last place that some steps lead to; a key that a map does not
    have is new there. `name` is the variable that the steps start from. -/
def changeLast (name : String) (readOnly : Bool) (change : Datum → Except Fault Datum) :
    Step → Datum → Except Fault Datum
  | .property key _, .map fields =>
    match Table.get? key fields with
    | some old =>
      (changed name readOnly change old).map fun d => .map (Table.insert key d fields)
    | none => (change .unit).map fun d => .map (Table.insert key d fields)
  | .index (.str key) _, .map fields =>
    match Table.get? key fields with
    | some old =>
      (changed name readOnly change old).map fun d => .map (Table.insert key d fields)
    | none => (change .unit).map fun d => .map (Table.insert key d fields)
  | .index (.int i) _, .arr items =>
    match Builtin.place? items.length i with
    | some n =>
      (changed name readOnly change (items.getD n .unit)).map fun d => .arr (items.set n d)
    | none => .error (.failed "Array index out of bounds")
  | .index (.int i) _, .str s =>
    match Builtin.place? s.length i with
    | some n =>
      match changed name readOnly change (.char (s.toList.getD n ' ')) with
      | .ok (.char c) => .ok (.str (String.ofList (s.toList.set n c)))
      | .ok d => .error (.failed ("Expecting a character, not " ++ d.typeName))
      | .error f => .error f
    | none => .error (.failed "String index out of bounds")
  | .property key _, d => .error (.failed ("Unknown property '" ++ key ++ "' of " ++ d.typeName))
  | _, d => .error (.failed ("Cannot index into " ++ d.typeName))

/-- Changes the place that some steps lead to. A lenient step from the unit
    value leads nowhere and changes nothing. -/
def changeAt (name : String) (readOnly : Bool) (change : Datum → Except Fault Datum) :
    List Step → Datum → Except Fault Datum
  | [], d => changed name readOnly change d
  | step :: rest, d =>
    if step.isLenient && isUnit d then .ok d
    else match rest with
      | [] => changeLast name readOnly change step d
      | next :: rest =>
        let part : Except Fault Part := match step with
          | .property key _ => propertyPart key d
          | .index at_ _ => indexPart d at_
          | .method .. => .error (.failed "Cannot assign to this expression")
        match part with
        | .error f => .error f
        | .ok part =>
          (changeAt name readOnly change (next :: rest) part.value).map (part.put.getD fun _ => d)

/-! ## Literals -/

mutual

/-- The datum of an expression made of literals only. -/
def literal : Expr → Datum
  | .bool b => .bool b
  | .int n => .int n
  | .float x => .float x
  | .char c => .char c
  | .str s => .str s
  | .array items => .arr (literals items)
  | .map fields => .map (Table.ofPairs (literalFields fields))
  | .binary .until (.int a) (.int b) => .range a b false
  | .binary .through (.int a) (.int b) => .range a b true
  | _ => .unit

/-- The data of expressions made of literals only. -/
def literals : List Expr → List Datum
  | [] => []
  | e :: es => literal e :: literals es

/-- The fields of a map made of literals only. -/
def literalFields : List (String × Expr) → List (String × Datum)
  | [] => []
  | (k, e) :: fs => (k, literal e) :: literalFields fs

end

/-- Whether a case names a value; equal numbers of different types are not the same here. -/
def namesValue (d : Datum) : Case → Bool
  | .mk values _ _ => values.any fun e =>
    let l := literal e
    l.typeName == d.typeName && l.same d

/-- Whether a case has a range that a number belongs to. -/
def rangesOver (d : Datum) : Case → Bool
  | .mk values _ _ => values.any fun e =>
    match literal e, d with
    | .range a b c, .int n => Datum.inRange a b c n
    | .range a b c, .float x =>
      Float.ofInt a ≤ x && (x < Float.ofInt b || (c && x == Float.ofInt b))
    | _, _ => false

/-! ## Walks -/

/-- What is still to be walked over by a loop. -/
inductive Walk where
  | items (ds : List Datum)
  | integers (first last : Int) (closed : Bool)
  | steps (s : Steps)

/-- The walk over the items of a datum, if it has any to walk over. -/
def Walk.over? : Datum → Option Walk
  | .arr ds | .series _ ds => some (.items ds)
  | .str t => some (.items (t.toList.map .char))
  | .range first last closed => some (.integers first last closed)
  | .steps s => some (.steps s)
  | _ => none

/-- The next item of a walk, and the walk after it. -/
def Walk.next? : Walk → Option (Datum × Walk)
  | .items [] => none
  | .items (d :: ds) => some (d, .items ds)
  | .integers n last closed =>
    if Datum.inRange n last closed n then some (.int n, .integers (n + 1) last closed) else none
  | .steps (.ints n last step) =>
    if (0 < step ∧ n < last) ∨ (step < 0 ∧ last < n) then
      some (.int n, .steps (.ints (n + step) last step))
    else none
  | .steps (.floats x last step) =>
    if (0.0 < step ∧ x < last) ∨ (step < 0.0 ∧ last < x) then
      some (.float x, .steps (.floats (x + step) last step))
    else none

/-! ## Calls -/

/-- The function that calls another one. -/
def callName : String := "call"

/-- Whether a helper can be called by this name with these arguments. -/
def isHelper (s : Setting) (name : String) (args : List Datum) : Bool :=
  s.helpers.contains name && args.length ≤ helperArgsLimit

/-- Whether a datum can be called in a way. A function that is not of the script has a receiver
    as its first argument. -/
def takes (s : Setting) : Datum → Way → Bool
  | .closure params _ _, w => params.length == w.args.length
  | .function name, w =>
    let args := w.receiver.toList ++ w.args
    (s.program.function? name w.args.length).isSome || (Builtin.plan? name args).isSome ||
      isHelper s name args
  | .curried f bound, w => takes s f { w with args := bound ++ w.args }
  | _, _ => false

/-- The function in a field of a map. -/
def methodField? (name : String) : Datum → Option Datum
  | .map fields => (Table.get? name fields).filter Datum.isCallable
  | _ => none

/-- What a call comes to for its receiver: only a function for constants may be called on one,
    and does not change it. -/
def keepConstant (name : String) (readOnly : Bool) (o : Outcome) : Exec Outcome :=
  if readOnly && o.changed.isSome then
    if Builtin.forConstants.contains name then return { value := o.value }
    else failed ("Cannot change a constant by " ++ name)
  else return o

/-- Runs the body of a function on its variables. One that is called as a method finds its
    receiver behind them, and what it has made of it is part of the outcome. -/
def called (receiver : Option (Bool × Datum)) (bindings : List Variable) (x : Exec Datum) :
    Exec Outcome :=
  match receiver with
  | none => withOnly bindings do return { value := ← body x }
  | some (readOnly, d) =>
    let self : Variable := { name := receiverName, constant := readOnly, content := .own d }
    withOnly (bindings ++ [self]) do
      let value ← body x
      let after ← read (← lookup receiverName)
      return { value, changed := if readOnly then none else some after }

/-- The variables of a function that is called: its parameters, the last one first. -/
def parameters (params : List String) (args : List Datum) : List Variable :=
  ((params.zip args).map fun p => { name := p.1, content := .own p.2 : Variable }).reverse

/-- Calls a helper, if there is one of this name. -/
def callHelperOf (s : Setting) (name : String) (args : List Datum) : Exec Datum :=
  if isHelper s name args then callHelper name args else fault (.unknownFunction name)

/-! ## Expressions and statements -/

/-- A datum that has to be a truth value. -/
def needBool (d : Datum) : Exec Bool :=
  match d with
  | .bool b => pure b
  | d => failed ("Expecting a boolean, not " ++ d.typeName)

mutual

/-- The value of an expression. -/
def eval : (fuel : Nat) → Setting → (depth : Nat) → Expr → Exec Datum
  | 0, _, _, _ => fault .exhausted
  | fuel + 1, s, depth, e => do
    match e with
    | .unit => return .unit
    | .bool b => return .bool b
    | .int n => return .int n
    | .float x => return .float x
    | .char c => return .char c
    | .str t => return .str t
    | .text pieces =>
      let parts ← evalAll fuel s depth pieces
      return .str (String.ofList (parts.flatMap Datum.chars))
    | .array items => return .arr (← evalAll fuel s depth items)
    | .map fields =>
      let values ← evalAll fuel s depth (fields.map Prod.snd)
      return .map (Table.ofPairs ((fields.map Prod.fst).zip values))
    | .variable name => read (← lookup name)
    | .receiver => read (← lookup receiverName)
    | .function name => return .function name
    | .closure params captured b => return .closure params (← captured.mapM share) b
    | .unary op operand => lift (op.apply (← eval fuel s depth operand))
    | .binary op left right =>
      let x ← eval fuel s depth left
      let y ← eval fuel s depth right
      lift (op.apply x y)
    | .and left right =>
      if ← needBool (← eval fuel s depth left) then
        return .bool (← needBool (← eval fuel s depth right))
      else return .bool false
    | .or left right =>
      if ← needBool (← eval fuel s depth left) then return .bool true
      else return .bool (← needBool (← eval fuel s depth right))
    | .orElse left right =>
      match ← eval fuel s depth left with
      | .unit => eval fuel s depth right
      | d => return d
    | .inside item container =>
      let c ← eval fuel s depth container
      let d ← eval fuel s depth item
      return (← apply fuel s depth "contains" [c, d]).value
    | .call name (.variable x :: args) =>
      let args ← evalAll fuel s depth args
      let v ← lookup x
      let first ← read v
      let r ← apply fuel s depth name (first :: args)
      match r.changed, v.content with
      | some d, .own _ => if !v.constant then write x d
      | _, _ => pure ()
      return r.value
    | .call name args =>
      return (← apply fuel s depth name (← evalAll fuel s depth args)).value
    | .chain base accesses =>
      let steps ← evalAccesses fuel s depth accesses
      match base with
      | .variable name => reach fuel s depth name steps
      | .receiver => reach fuel s depth receiverName steps
      | e =>
        let d ← eval fuel s depth e
        return (← walk fuel s depth false d steps).value
    | .statement st => exec fuel s depth st

/-- The values of expressions in order. -/
def evalAll : (fuel : Nat) → Setting → (depth : Nat) → List Expr → Exec (List Datum)
  | 0, _, _, _ => fault .exhausted
  | _ + 1, _, _, [] => return []
  | fuel + 1, s, depth, e :: es => do
    let d ← eval fuel s depth e
    return d :: (← evalAll fuel s depth es)

/-- The steps of accesses, their indexes and arguments evaluated in order. -/
def evalAccesses : (fuel : Nat) → Setting → (depth : Nat) → List Access → Exec (List Step)
  | 0, _, _, _ => fault .exhausted
  | _ + 1, _, _, [] => return []
  | fuel + 1, s, depth, a :: rest => do
    let step ← match a with
      | .property name lenient => pure (Step.property name lenient)
      | .index e lenient => pure (Step.index (← eval fuel s depth e) lenient)
      | .method name args lenient =>
        pure (Step.method name (← evalAll fuel s depth args) lenient)
    return step :: (← evalAccesses fuel s depth rest)

/-- Follows steps from a variable, which changes with the value they lead to. -/
def reach : (fuel : Nat) → Setting → (depth : Nat) → (name : String) → List Step → Exec Datum
  | 0, _, _, _, _ => fault .exhausted
  | fuel + 1, s, depth, name, steps => do
    let v ← lookup name
    let r ← walk fuel s depth (← isConstant v) (← read v) steps
    r.changed.forM fun d => write name d
    return r.value

/-- Follows steps from a value: what they lead to, and what the value becomes if
    a method on the way changes it. -/
def walk : (fuel : Nat) → Setting → (depth : Nat) → (readOnly : Bool) → Datum → List Step →
    Exec Outcome
  | 0, _, _, _, _, _ => fault .exhausted
  | _ + 1, _, _, _, d, [] => return { value := d }
  | fuel + 1, s, depth, readOnly, d, step :: rest => do
    if step.isLenient && isUnit d then return { value := .unit }
    else match step with
      | .property name _ =>
        let part ← lift (propertyPart name d)
        let r ← walk fuel s depth readOnly part.value rest
        return { value := r.value, changed := part.put.bind fun put => r.changed.map put }
      | .index at_ _ =>
        let part ← lift (indexPart d at_)
        let r ← walk fuel s depth readOnly part.value rest
        return { value := r.value, changed := part.put.bind fun put => r.changed.map put }
      | .method name args _ =>
        let called ← callMethod fuel s depth readOnly d name args
        let r ← walk fuel s depth false called.value rest
        return { value := r.value, changed := called.changed }

/-- Calls a method of a value: a function in a field of it, a function of the
    script that has it as receiver, or any function with it as first argument. -/
def callMethod : (fuel : Nat) → Setting → (depth : Nat) → (readOnly : Bool) → Datum →
    (name : String) → List Datum → Exec Outcome
  | 0, _, _, _, _, _, _ => fault .exhausted
  | fuel + 1, s, depth, readOnly, d, name, args => do
    if name = callName then
      -- a function that is called is no receiver
      match d.isCallable, args with
      | false, f :: args => callWith fuel s depth (some (readOnly, d)) f args
      | _, _ => callWith fuel s depth none d args
    else match methodField? name d with
      | some f => callWith fuel s depth (some (readOnly, d)) f args
      | none =>
        match s.program.function? name args.length with
        | some f => callFunction fuel s depth (some (readOnly, d)) f args
        | none => keepConstant name readOnly (← applyOutside fuel s depth name (d :: args))

/-- Calls a function by its name: one of the script comes first. -/
def apply : (fuel : Nat) → Setting → (depth : Nat) → (name : String) → List Datum → Exec Outcome
  | 0, _, _, _, _ => fault .exhausted
  | fuel + 1, s, depth, name, args => do
    match s.program.function? name args.length with
    | some f => callFunction fuel s depth none f args
    | none => applyOutside fuel s depth name args

/-- Calls a built-in function, or else a helper. -/
def applyOutside : (fuel : Nat) → Setting → (depth : Nat) → (name : String) → List Datum →
    Exec Outcome
  | 0, _, _, _, _ => fault .exhausted
  | fuel + 1, s, depth, name, args => do
    match Builtin.plan? name args, args with
    | some plan, _ => follow fuel s depth plan
    | none, f :: rest =>
      -- this one is not built in, since it takes what the function it calls takes
      if name = callName then callWith fuel s depth none f rest
      else return { value := ← callHelperOf s name args }
    | none, [] => return { value := ← callHelperOf s name args }

/-- Does what a built-in function plans to do. -/
def follow : (fuel : Nat) → Setting → (depth : Nat) → Plan → Exec Outcome
  | 0, _, _, _ => fault .exhausted
  | fuel + 1, s, depth, plan => do
    match plan with
    | .done o => return o
    | .stop h => throw h
    | .call f ways resume =>
      match ways.find? (takes s f) with
      | some w =>
        let receiver := w.receiver.map fun d => (false, d)
        follow fuel s depth (resume (← callWith fuel s depth receiver f w.args))
      | none => fault (.unknownFunction callName)
    | .attempt f args resume =>
      let answer : Option Datum ← tryCatch
        (do return some (← callWith fuel s depth none f args).value) fun
          | .fault .exhausted => fault .exhausted
          | _ => return none
      follow fuel s depth (resume answer)

/-- Calls a value that can be called, on a receiver or on none. -/
def callWith : (fuel : Nat) → Setting → (depth : Nat) → (receiver : Option (Bool × Datum)) →
    Datum → List Datum → Exec Outcome
  | 0, _, _, _, _, _ => fault .exhausted
  | fuel + 1, s, depth, receiver, f, args => do
    match f with
    | .function name =>
      match s.program.function? name args.length, receiver with
      | some f, _ => callFunction fuel s depth receiver f args
      | none, none => return { value := (← applyOutside fuel s depth name args).value }
      | none, some (readOnly, d) =>
        keepConstant name readOnly (← applyOutside fuel s depth name (d :: args))
    | .closure params captured b =>
      if params.length ≠ args.length then fault (.unknownFunction "closure")
      else if callLimit ≤ depth then fault .exhausted
      else
        let taken := captured.map fun p => { name := p.1, content := .shared p.2 : Variable }
        called receiver (parameters params args ++ taken) (exec fuel s (depth + 1) b)
    | .curried f bound => callWith fuel s depth receiver f (bound ++ args)
    | d => failed ("Expecting a function, not " ++ d.typeName)

/-- Calls a function of the script, with a receiver if it is a method. -/
def callFunction : (fuel : Nat) → Setting → (depth : Nat) → (receiver : Option (Bool × Datum)) →
    Function → List Datum → Exec Outcome
  | 0, _, _, _, _, _ => fault .exhausted
  | fuel + 1, s, depth, receiver, f, args => do
    if callLimit ≤ depth then fault .exhausted
    else
      called receiver (parameters f.params args) (within (execAll fuel s (depth + 1) f.body))

/-- Runs a statement; its value is that of the last statement in it. -/
def exec : (fuel : Nat) → Setting → (depth : Nat) → Stmt → Exec Datum
  | 0, _, _, _ => fault .exhausted
  | fuel + 1, s, depth, st => do
    match st with
    | .expr e => eval fuel s depth e
    | .define name constant e =>
      define name constant (← eval fuel s depth e)
      return .unit
    | .assign target op e =>
      let d ← eval fuel s depth e
      let change (old : Datum) : Except Fault Datum := match op with
        | none => .ok d
        | some op => op.update old d
      let (name, accesses) : String × List Access := match target with
        | .variable name => (name, [])
        | .chain (.variable name) accesses => (name, accesses)
        | .chain _ accesses => (receiverName, accesses)
        | _ => (receiverName, [])
      let steps ← evalAccesses fuel s depth accesses
      let v ← lookup name
      write name (← lift (changeAt name (← isConstant v) change steps (← read v)))
      return .unit
    | .block b => within (execAll fuel s depth b)
    | .conditional c holds fails =>
      if ← needBool (← eval fuel s depth c) then within (execAll fuel s depth holds)
      else within (execAll fuel s depth fails)
    | .whileLoop c b => whileLoop fuel s depth c b
    | .loop b => whileLoop fuel s depth (.bool true) b
    | .doLoop b c last => doLoop fuel s depth b c last
    | .forEach name counter source b =>
      let d ← eval fuel s depth source
      match Walk.over? d with
      | some w => forLoop fuel s depth name counter b 0 w
      | none => failed ("Cannot walk over " ++ d.typeName)
    | .switch subject cases default =>
      let d ← eval fuel s depth subject
      match ← choose fuel s depth (cases.filter (namesValue d) ++ cases.filter (rangesOver d)) with
      | some action => exec fuel s depth action
      | none =>
        match default with
        | some action => exec fuel s depth action
        | none => return .unit
    | .attempt b name handler =>
      tryCatch (within (execAll fuel s depth b)) fun
        | .fault f =>
          if f.isCatchable then
            tryCatch
              (within do
                name.forM fun n => define n false f.datum
                within (execAll fuel s depth handler))
              fun
                | .fault (.thrown .unit) => fault f
                | h => throw h
          else fault f
        | h => throw h
    | .break_ e => do
      let d ← match e with
        | some e => eval fuel s depth e
        | none => pure .unit
      throw (.broken d)
    | .continue_ => throw .continued
    | .return_ e => do
      let d ← match e with
        | some e => eval fuel s depth e
        | none => pure .unit
      throw (.returned d)
    | .throw_ e => do
      let d ← match e with
        | some e => eval fuel s depth e
        | none => pure .unit
      fault (.thrown d)

/-- Runs statements in order; the value is that of the last one. -/
def execAll : (fuel : Nat) → Setting → (depth : Nat) → List Stmt → Exec Datum
  | 0, _, _, _ => fault .exhausted
  | _ + 1, _, _, [] => return .unit
  | fuel + 1, s, depth, [st] => exec fuel s depth st
  | fuel + 1, s, depth, st :: rest => do
    let _ ← exec fuel s depth st
    execAll fuel s depth rest

/-- The action of the first case whose guard holds. -/
def choose : (fuel : Nat) → Setting → (depth : Nat) → List Case → Exec (Option Stmt)
  | 0, _, _, _ => fault .exhausted
  | _ + 1, _, _, [] => return none
  | fuel + 1, s, depth, .mk _ guard action :: rest => do
    let holds ← match guard with
      | none => pure true
      | some g => do needBool (← eval fuel s depth g)
    if holds then return some action else choose fuel s depth rest

/-- Runs a body as long as its condition holds. -/
def whileLoop : (fuel : Nat) → Setting → (depth : Nat) → Expr → List Stmt → Exec Datum
  | 0, _, _, _, _ => fault .exhausted
  | fuel + 1, s, depth, c, b => do
    if ← needBool (← eval fuel s depth c) then
      match ← round (within (execAll fuel s depth b)) with
      | some d => return d
      | none => whileLoop fuel s depth c b
    else return .unit

/-- Runs a body until its condition comes out as `last`. -/
def doLoop : (fuel : Nat) → Setting → (depth : Nat) → List Stmt → Expr → (last : Bool) → Exec Datum
  | 0, _, _, _, _, _ => fault .exhausted
  | fuel + 1, s, depth, b, c, last => do
    match ← round (within (execAll fuel s depth b)) with
    | some d => return d
    | none =>
      if (← needBool (← eval fuel s depth c)) == last then return .unit
      else doLoop fuel s depth b c last

/-- Runs a body for each item of a walk, with the places as counter. -/
def forLoop : (fuel : Nat) → Setting → (depth : Nat) → (name : String) →
    (counter : Option String) → List Stmt → (at_ : Nat) → Walk → Exec Datum
  | 0, _, _, _, _, _, _, _ => fault .exhausted
  | fuel + 1, s, depth, name, counter, b, at_, w => do
    match w.next? with
    | none => return .unit
    | some (d, w) =>
      let left ← round <| within do
        counter.forM fun c => define c false (.int at_)
        define name false d
        within (execAll fuel s depth b)
      match left with
      | some d => return d
      | none => forLoop fuel s depth name counter b (at_ + 1) w

end

end Exec

/-- Runs a script with the given variables and helpers: its value, or why it
    stops, and what has become of the variables. -/
def Program.run (p : Program) (helpers : List String) (bindings : List Variable) :
    Run (Except Halt Datum × Environment) :=
  (Exec.whole (Exec.execAll stepLimit { program := p, helpers } 0 p.body)).run { bindings }

end Hyperfiction.Script
