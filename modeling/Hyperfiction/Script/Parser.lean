import Hyperfiction.Script.Syntax
import Hyperfiction.Script.Token

/-! # Reading scripts

    Builds the tree of a script from its words, and checks on the way what can
    be known before the script runs: that every name stands for something, that
    no constant is assigned to, that loops and functions are used where they
    may be, and that nothing nests too deep. The first fault in the order of the
    text is the one reported.
-/

namespace Hyperfiction.Script

/-- Why a script cannot be run at all. -/
inductive SyntaxError where
  /-- A name that stands for nothing. -/
  | undefined (name : String)
  /-- A constant, or a literal (without a name), is assigned to. -/
  | constant (name : String)
  | malformed (detail : String)
deriving DecidableEq, Repr, Inhabited

/-- How deep expressions and statements may nest. -/
def nestingLimit : Nat := 32

/-- How deep they may nest in the body of a function. -/
def bodyNestingLimit : Nat := 16

/-- Where in a script the reader stands. -/
structure Context where
  level : Nat := 0
  limit : Nat := nestingLimit
  /-- The names defined outside the script. -/
  outer : List String := []
  isGlobal : Bool := false
  inLoop : Bool := false
  /-- Whether there is a receiver. -/
  inFunction : Bool := false
  /-- Whether names that are not defined are taken from around the closure. -/
  inClosure : Bool := false
  /-- Whether a bar ends an expression. -/
  barEnds : Bool := false

/-- What has been read and what has not. -/
structure Progress where
  rest : List Token
  /-- The names defined so far, the latest first, and whether each is constant. -/
  locals : List (String × Bool) := []
  /-- The names a closure takes from around it. -/
  captured : List String := []
  functions : List Function := []

/-- A reader of a part of a script. -/
abbrev Reading (α : Type) := StateT Progress (Except SyntaxError) α

namespace Reading

/-! ## Single words -/

/-- Gives up on the script. -/
def malformed {α : Type} (detail : String) : Reading α :=
  throw (.malformed detail)

/-- The next word, which stays. -/
def peek : Reading (Option Token) := do
  return (← get).rest.head?

/-- Takes the next word. -/
def take : Reading (Option Token) := do
  let p ← get
  match p.rest with
  | [] => return none
  | t :: rest =>
    set { p with rest }
    return some t

/-- Takes the next word if it is the given symbol. -/
def takeSymbol (s : String) : Reading Bool := do
  match ← peek with
  | some (.symbol t) =>
    if t = s then
      let _ ← take
      return true
    else return false
  | _ => return false

/-- Takes the next word if it is the given keyword. -/
def takeKeyword (s : String) : Reading Bool := do
  match ← peek with
  | some (.keyword t) =>
    if t = s then
      let _ ← take
      return true
    else return false
  | _ => return false

/-- Takes the given symbol. -/
def expectSymbol (s : String) : Reading Unit := do
  if ← takeSymbol s then return () else malformed ("expecting '" ++ s ++ "'")

/-- Takes the given keyword. -/
def expectKeyword (s : String) : Reading Unit := do
  if ← takeKeyword s then return () else malformed ("expecting '" ++ s ++ "'")

/-- Takes a name. -/
def expectName : Reading String := do
  match ← take with
  | some (.name s) => return s
  | _ => malformed "expecting a name"

/-- Whether the next word is the given symbol. -/
def isSymbol (s : String) : Reading Bool := do
  match ← peek with
  | some (.symbol t) => return t = s
  | _ => return false

/-- Whether a value may be left out here: at the end, and before `;` or `}`. -/
def atEnd (ctx : Context) : Reading Bool := do
  match ← peek with
  | none => return true
  | some (.symbol ";") => return true
  | some (.symbol "\x7d") => return !ctx.isGlobal
  | _ => return false

/-! ## Names -/

/-- The context one level deeper. -/
def deeper (ctx : Context) : Reading Context := do
  if ctx.level < ctx.limit then return { ctx with level := ctx.level + 1 }
  else malformed "the script nests too deep"

/-- What a name stands for. -/
def resolve (ctx : Context) (name : String) : Reading Expr := do
  let p ← get
  if (p.locals.any fun l => l.1 == name) || ctx.outer.contains name then return .variable name
  else if p.functions.any fun f => f.name == name then return .function name
  else if ctx.inClosure then
    if !p.captured.contains name then set { p with captured := p.captured ++ [name] }
    return .variable name
  else throw (.undefined name)

/-- Defines a name from here on. -/
def define (name : String) (constant : Bool) : Reading Unit := do
  modify fun p => { p with locals := (name, constant) :: p.locals }

/-- Reads a part whose names are not seen after it. -/
def confined {α : Type} (read : Reading α) : Reading α := do
  let before := (← get).locals
  let a ← read
  modify fun p => { p with locals := before }
  return a

/-! ## Operators -/

/-- Rank and direction of an operator; the operators of a higher rank bind first. -/
def rank? (ctx : Context) : Option Token → Option (String × Nat × Bool)
  | some (.symbol s) =>
    match s with
    | "|" => if ctx.barEnds then none else some (s, 30, false)
    | "||" | "^" => some (s, 30, false)
    | "&&" | "&" => some (s, 60, false)
    | "==" | "!=" => some (s, 90, false)
    | "!in" => some (s, 110, false)
    | "<" | "<=" | ">" | ">=" => some (s, 130, false)
    | "??" => some (s, 135, false)
    | ".." | "..=" => some (s, 140, false)
    | "+" | "-" => some (s, 150, false)
    | "*" | "/" | "%" => some (s, 180, false)
    | "**" => some (s, 190, true)
    | "<<" | ">>" => some (s, 210, false)
    | _ => none
  | some (.keyword "in") => some ("in", 110, false)
  | _ => none

/-- An expression where a truth value is needed. -/
def needBool (e : Expr) : Reading Expr :=
  if e.isOtherLiteral then malformed "expecting a boolean expression" else return e

/-- The tree of an operator between two operands. -/
def combine (op : String) (left right : Expr) : Reading Expr :=
  match op with
  | "||" => do return .or (← needBool left) (← needBool right)
  | "&&" => do return .and (← needBool left) (← needBool right)
  | "??" => return .orElse left right
  | "in" => return .inside left right
  | "!in" => return .unary .not (.inside left right)
  | "|" => return .binary .bitOr left right
  | "^" => return .binary .bitXor left right
  | "&" => return .binary .bitAnd left right
  | "==" => return .binary .eq left right
  | "!=" => return .binary .ne left right
  | "<" => return .binary .lt left right
  | "<=" => return .binary .le left right
  | ">" => return .binary .gt left right
  | ">=" => return .binary .ge left right
  | ".." => return .binary .until left right
  | "..=" => return .binary .through left right
  | "+" => return .binary .add left right
  | "-" => return .binary .sub left right
  | "*" => return .binary .mul left right
  | "/" => return .binary .div left right
  | "%" => return .binary .mod left right
  | "**" => return .binary .pow left right
  | "<<" => return .binary .shl left right
  | ">>" => return .binary .shr left right
  | _ => malformed "unknown operator"

/-- A sign before an operand; that of a number becomes a part of it. -/
def signed (op : UnaryOp) : Expr → Expr
  | .int n => match op with
    | .plus => .int n
    | .minus => .int (-n)
    | .not => .unary .not (.int n)
  | .float x => match op with
    | .plus => .float x
    | .minus => .float (-x)
    | .not => .unary .not (.float x)
  | e => .unary op e

/-- The operator of an assignment: none for plain `=`. -/
def assignment? : Option Token → Option (Option BinaryOp)
  | some (.symbol s) =>
    match s with
    | "=" => some none
    | "+=" => some (some .add)
    | "-=" => some (some .sub)
    | "*=" => some (some .mul)
    | "/=" => some (some .div)
    | "%=" => some (some .mod)
    | "**=" => some (some .pow)
    | "<<=" => some (some .shl)
    | ">>=" => some (some .shr)
    | "&=" => some (some .bitAnd)
    | "|=" => some (some .bitOr)
    | "^=" => some (some .bitXor)
    | _ => none
  | _ => none

mutual

/-- Whether an expression is made of literals only. -/
def isLiteral : Expr → Bool
  | .unit | .bool _ | .int _ | .float _ | .char _ | .str _ => true
  | .array items => areLiterals items
  | .map fields => fieldsAreLiterals fields
  | .binary .until (.int _) (.int _) | .binary .through (.int _) (.int _) => true
  | _ => false

/-- Whether all items are made of literals only. -/
def areLiterals : List Expr → Bool
  | [] => true
  | e :: es => isLiteral e && areLiterals es

/-- Whether all fields are made of literals only. -/
def fieldsAreLiterals : List (String × Expr) → Bool
  | [] => true
  | (_, e) :: fs => isLiteral e && fieldsAreLiterals fs

end

/-- Whether an access leads to a place that can be assigned to. -/
def isPlace : Access → Bool
  | .method .. => false
  | _ => true

/-- An assignment, if its target can be assigned to. -/
def assignTo (target : Expr) (op : Option BinaryOp) (value : Expr) : Reading Stmt := do
  match target with
  | .receiver => return .assign target op value
  | .variable name =>
    match (← get).locals.find? fun l => l.1 == name with
    | some (_, true) => throw (.constant name)
    | _ => return .assign target op value
  | .chain (.variable _) accesses | .chain .receiver accesses =>
    if accesses.all isPlace then return .assign target op value
    else malformed "cannot assign to this expression"
  | e => if isLiteral e then throw (.constant "") else malformed "cannot assign to this expression"

/-- Whether an expression may be followed by an index. -/
def isIndexable : Expr → Bool
  | .unit | .bool _ | .float _ | .char _ | .and .. | .or .. | .orElse .. => false
  | _ => true

/-- Adds an access to an expression. -/
def reach (base : Expr) (access : Access) (joins : Bool) : Expr :=
  match base with
  | .chain b accesses => if joins then .chain b (accesses ++ [access]) else .chain base [access]
  | _ => .chain base [access]

/-- Whether a case stands for a range. -/
def hasRange : Case → Bool
  | .mk values _ _ => values.any fun
    | .binary .. => true
    | _ => false

/-! ## Grammar

    Each function reads one part of the grammar. A nested call has one unit of
    `fuel` less; the fuel is more than the words of a script can use up. -/

mutual

/-- An expression. -/
def expr : (fuel : Nat) → Context → Reading Expr
  | 0, _ => malformed "the script nests too deep"
  | fuel + 1, ctx => do
    let ctx ← deeper ctx
    let left ← unaryExpr fuel ctx
    binaryExpr fuel ctx 1 left

/-- The operators after a left operand that bind at least as tightly as `least`. -/
def binaryExpr : (fuel : Nat) → Context → (least : Nat) → Expr → Reading Expr
  | 0, _, _, _ => malformed "the script nests too deep"
  | fuel + 1, ctx, least, left => do
    match rank? ctx (← peek) with
    | none => return left
    | some (op, rank, rightward) =>
      if rank < least || (rank == least && !rightward) then return left
      else
        let _ ← take
        let ctx ← deeper ctx
        let right ← unaryExpr fuel ctx
        let right ← match rank? ctx (← peek) with
          | none => pure right
          | some (_, next, _) =>
            if rank < next || (rank == next && rightward) then binaryExpr fuel ctx rank right
            else pure right
        binaryExpr fuel ctx least (← combine op left right)

/-- An operand with the signs before it. -/
def unaryExpr : (fuel : Nat) → Context → Reading Expr
  | 0, _ => malformed "the script nests too deep"
  | fuel + 1, ctx => do
    match ← peek with
    | some (.symbol "-") =>
      let _ ← take
      return signed .minus (← unaryExpr fuel (← deeper ctx))
    | some (.symbol "+") =>
      let _ ← take
      return signed .plus (← unaryExpr fuel (← deeper ctx))
    | some (.symbol "!") =>
      let _ ← take
      return .unary .not (← unaryExpr fuel (← deeper ctx))
    | _ => primary fuel ctx

/-- An operand and the accesses after it. -/
def primary : (fuel : Nat) → Context → Reading Expr
  | 0, _ => malformed "the script nests too deep"
  | fuel + 1, ctx => do
    match ← peek with
    | some (.symbol "\x7b") =>
      postfixes fuel ctx (.statement (.block (← block fuel ctx))) false
    | some (.keyword "if") => postfixes fuel ctx (.statement (← conditional fuel ctx)) false
    | some (.keyword "switch") => postfixes fuel ctx (.statement (← switch fuel ctx)) false
    | some (.keyword "while") | some (.keyword "loop") =>
      postfixes fuel ctx (.statement (← whileLoop fuel ctx)) false
    | some (.keyword "do") => postfixes fuel ctx (.statement (← doLoop fuel ctx)) false
    | some (.keyword "for") => postfixes fuel ctx (.statement (← forLoop fuel ctx)) false
    | _ =>
      match ← take with
      | some (.int n) => postfixes fuel ctx (.int n) false
      | some (.float x) => postfixes fuel ctx (.float x) false
      | some (.char c) => postfixes fuel ctx (.char c) false
      | some (.str s) => postfixes fuel ctx (.str s) false
      | some (.keyword "true") => postfixes fuel ctx (.bool true) false
      | some (.keyword "false") => postfixes fuel ctx (.bool false) false
      | some (.symbol "()") => postfixes fuel ctx .unit false
      | some (.symbol "(") =>
        if ← takeSymbol ")" then postfixes fuel ctx .unit false
        else
          let e ← expr fuel { ctx with barEnds := false }
          expectSymbol ")"
          postfixes fuel ctx e false
      | some (.symbol "[") => postfixes fuel ctx (.array (← items fuel ctx "]" [])) false
      | some (.symbol "#\x7b") => postfixes fuel ctx (.map (← fields fuel ctx [])) false
      | some (.symbol "|") => closure fuel ctx (← closureParams fuel [])
      | some (.symbol "||") => closure fuel ctx []
      | some (.piece s) => postfixes fuel ctx (.text (← pieces fuel ctx [.str s])) false
      | some (.name s) =>
        if ← takeSymbol "()" then postfixes fuel ctx (.call s []) false
        else if ← takeSymbol "(" then
          postfixes fuel ctx (.call s (← items fuel ctx ")" [])) false
        else if ← isSymbol "::" then malformed "there are no modules"
        else postfixes fuel ctx (← resolve ctx s) false
      | some (.reserved "this") =>
        if ctx.inFunction then postfixes fuel ctx .receiver false
        else malformed "there is no receiver here"
      | some (.reserved s) =>
        if !Token.callableWords.contains s then malformed ("'" ++ s ++ "' is reserved")
        else if ← takeSymbol "()" then postfixes fuel ctx (.call s []) false
        else if ← takeSymbol "(" then
          postfixes fuel ctx (.call s (← items fuel ctx ")" [])) false
        else malformed ("'" ++ s ++ "' is reserved")
      | _ => malformed "expecting an expression"

/-- The accesses after an operand; they join the chain that `base` is if it was
    read as one just before. -/
def postfixes : (fuel : Nat) → Context → Expr → (joins : Bool) → Reading Expr
  | 0, _, _, _ => malformed "the script nests too deep"
  | fuel + 1, ctx, base, joins => do
    match ← peek with
    | some (.symbol "[") | some (.symbol "?[") =>
      if isIndexable base then
        let lenient ← isSymbol "?["
        let _ ← take
        let ctx ← deeper ctx
        let e ← expr fuel { ctx with barEnds := false }
        expectSymbol "]"
        postfixes fuel ctx (reach base (.index e lenient) joins) true
      else return base
    | some (.symbol ".") | some (.symbol "?.") =>
      let lenient ← isSymbol "?."
      let _ ← take
      let ctx ← deeper ctx
      match ← take with
      | some (.name s) =>
        if ← takeSymbol "()" then
          postfixes fuel ctx (reach base (.method s [] lenient) joins) true
        else if ← takeSymbol "(" then
          let args ← items fuel ctx ")" []
          postfixes fuel ctx (reach base (.method s args lenient) joins) true
        else postfixes fuel ctx (reach base (.property s lenient) joins) true
      | some (.reserved s) =>
        if !Token.callableWords.contains s then malformed ("'" ++ s ++ "' is reserved")
        else if ← takeSymbol "()" then
          postfixes fuel ctx (reach base (.method s [] lenient) joins) true
        else if ← takeSymbol "(" then
          let args ← items fuel ctx ")" []
          postfixes fuel ctx (reach base (.method s args lenient) joins) true
        else malformed ("'" ++ s ++ "' is reserved")
      | _ => malformed "expecting a property"
    | _ => return base

/-- Expressions between commas up to the closing symbol; `read` holds those
    before, in reverse. -/
def items : (fuel : Nat) → Context → (closing : String) → List Expr → Reading (List Expr)
  | 0, _, _, _ => malformed "the script nests too deep"
  | fuel + 1, ctx, closing, read => do
    if ← takeSymbol closing then return read.reverse
    else
      let e ← expr fuel { ctx with barEnds := false }
      if ← takeSymbol "," then items fuel ctx closing (e :: read)
      else
        expectSymbol closing
        return (e :: read).reverse

/-- The fields of a map up to its closing brace. -/
def fields : (fuel : Nat) → Context → List (String × Expr) → Reading (List (String × Expr))
  | 0, _, _ => malformed "the script nests too deep"
  | fuel + 1, ctx, read => do
    if ← takeSymbol "\x7d" then return read.reverse
    else
      let key ← match ← take with
        | some (.name s) | some (.str s) => pure s
        | _ => malformed "expecting a property"
      if read.any fun f => f.1 == key then malformed ("'" ++ key ++ "' is there already")
      else
        expectSymbol ":"
        let e ← expr fuel { ctx with barEnds := false }
        if ← takeSymbol "," then fields fuel ctx ((key, e) :: read)
        else
          expectSymbol "\x7d"
          return ((key, e) :: read).reverse

/-- The code and the further pieces of a text. -/
def pieces : (fuel : Nat) → Context → List Expr → Reading (List Expr)
  | 0, _, _ => malformed "the script nests too deep"
  | fuel + 1, ctx, read => do
    let code ← block fuel (← deeper ctx)
    let read := .statement (.block code) :: read
    match ← take with
    | some (.str s) => return (.str s :: read).reverse
    | some (.piece s) => pieces fuel ctx (.str s :: read)
    | _ => malformed "the text does not end"

/-- The parameters of a closure after its opening bar. -/
def closureParams : (fuel : Nat) → List String → Reading (List String)
  | 0, _ => malformed "the script nests too deep"
  | fuel + 1, read => do
    if read.isEmpty then
      if ← takeSymbol "|" then return []
    let s ← expectName
    if read.contains s then malformed ("'" ++ s ++ "' is there already")
    else if ← takeSymbol "," then closureParams fuel (s :: read)
    else
      expectSymbol "|"
      return (s :: read).reverse

/-- The body of a closure. The names it takes from around it have to stand for
    something there. -/
def closure : (fuel : Nat) → Context → List String → Reading Expr
  | 0, _, _ => malformed "the script nests too deep"
  | fuel + 1, ctx, params => do
    let before ← get
    set { before with locals := params.map (·, false), captured := [] }
    let body ← statement fuel
      { limit := bodyNestingLimit, inFunction := true, inClosure := true, barEnds := ctx.barEnds }
    let after ← get
    set { before with rest := after.rest, functions := after.functions }
    after.captured.forM fun name => do
      let _ ← resolve ctx name
    return .closure params after.captured (body.getD (.block []))

/-- The statements between braces. -/
def block : (fuel : Nat) → Context → Reading (List Stmt)
  | 0, _ => malformed "the script nests too deep"
  | fuel + 1, ctx => do
    expectSymbol "\x7b"
    confined (statements fuel { ctx with isGlobal := false, barEnds := false } [])

/-- The statements up to the closing brace. -/
def statements : (fuel : Nat) → Context → List Stmt → Reading (List Stmt)
  | 0, _, _ => malformed "the script nests too deep"
  | fuel + 1, ctx, read => do
    if ← takeSymbol "\x7d" then return read.reverse
    else
      match ← statement fuel ctx with
      | none => statements fuel ctx read
      | some s =>
        let read := s :: read
        if ← takeSymbol "\x7d" then return read.reverse
        else if ← takeSymbol ";" then statements fuel ctx read
        else if s.isClosed then statements fuel ctx read
        else malformed "expecting ';'"

/-- A statement; an empty one and the definition of a function are none. -/
def statement : (fuel : Nat) → Context → Reading (Option Stmt)
  | 0, _ => malformed "the script nests too deep"
  | fuel + 1, ctx => do
    let ctx ← deeper ctx
    match ← peek with
    | none => return none
    | some (.symbol ";") =>
      let _ ← take
      return none
    | some (.symbol "\x7b") => return some (.block (← block fuel ctx))
    | some (.keyword "fn") | some (.keyword "private") =>
      if ctx.isGlobal then
        let _ ← takeKeyword "private"
        function fuel ctx
        return none
      else malformed "functions are defined at the top only"
    | some (.keyword "if") => return some (← conditional fuel ctx)
    | some (.keyword "switch") => return some (← switch fuel ctx)
    | some (.keyword "while") | some (.keyword "loop") => return some (← whileLoop fuel ctx)
    | some (.keyword "do") => return some (← doLoop fuel ctx)
    | some (.keyword "for") => return some (← forLoop fuel ctx)
    | some (.keyword "continue") =>
      if ctx.inLoop then
        let _ ← take
        return some .continue_
      else malformed "there is no loop here"
    | some (.keyword "break") =>
      if ctx.inLoop then
        let _ ← take
        if ← atEnd { ctx with isGlobal := false } then return some (.break_ none)
        else return some (.break_ (some (← expr fuel ctx)))
      else malformed "there is no loop here"
    | some (.keyword "return") =>
      let _ ← take
      if ← atEnd ctx then return some (.return_ none)
      else return some (.return_ (some (← expr fuel ctx)))
    | some (.keyword "throw") =>
      let _ ← take
      if ← atEnd ctx then return some (.throw_ none)
      else return some (.throw_ (some (← expr fuel ctx)))
    | some (.keyword "try") => return some (← attempt fuel ctx)
    | some (.keyword "let") => return some (← definition fuel ctx false)
    | some (.keyword "const") => return some (← definition fuel ctx true)
    | _ =>
      let target ← expr fuel ctx
      match assignment? (← peek) with
      | none => return some (.expr target)
      | some op =>
        let _ ← take
        let value ← expr fuel ctx
        return some (← assignTo target op value)

/-- The definition of a variable or constant. -/
def definition : (fuel : Nat) → Context → (constant : Bool) → Reading Stmt
  | 0, _, _ => malformed "the script nests too deep"
  | fuel + 1, ctx, constant => do
    let _ ← take
    let name ← expectName
    let value ← if ← takeSymbol "=" then expr fuel ctx else pure .unit
    define name constant
    return .define name constant value

/-- An expression whose value decides what is run. -/
def condition : (fuel : Nat) → Context → Reading Expr
  | 0, _ => malformed "the script nests too deep"
  | fuel + 1, ctx => do
    if ← isSymbol "\x7b" then malformed "expecting a boolean expression"
    else needBool (← expr fuel ctx)

/-- `if` with its branches. -/
def conditional : (fuel : Nat) → Context → Reading Stmt
  | 0, _ => malformed "the script nests too deep"
  | fuel + 1, ctx => do
    let ctx ← deeper ctx
    expectKeyword "if"
    let c ← condition fuel ctx
    let holds ← block fuel ctx
    if ← takeKeyword "else" then
      match ← peek with
      | some (.keyword "if") => return .conditional c holds [← conditional fuel ctx]
      | _ => return .conditional c holds (← block fuel ctx)
    else return .conditional c holds []

/-- `while` and `loop`. -/
def whileLoop : (fuel : Nat) → Context → Reading Stmt
  | 0, _ => malformed "the script nests too deep"
  | fuel + 1, ctx => do
    let ctx ← deeper ctx
    if ← takeKeyword "while" then
      let c ← condition fuel ctx
      return .whileLoop c (← block fuel { ctx with inLoop := true })
    else
      expectKeyword "loop"
      return .loop (← block fuel { ctx with inLoop := true })

/-- `do` with `while` or `until`. -/
def doLoop : (fuel : Nat) → Context → Reading Stmt
  | 0, _ => malformed "the script nests too deep"
  | fuel + 1, ctx => do
    let ctx ← deeper ctx
    expectKeyword "do"
    let body ← block fuel { ctx with inLoop := true }
    if ← takeKeyword "until" then return .doLoop body (← condition fuel ctx) true
    else
      expectKeyword "while"
      return .doLoop body (← condition fuel ctx) false

/-- `for` over the items of a value. -/
def forLoop : (fuel : Nat) → Context → Reading Stmt
  | 0, _ => malformed "the script nests too deep"
  | fuel + 1, ctx => do
    let ctx ← deeper ctx
    expectKeyword "for"
    let (name, counter) ← if ← takeSymbol "(" then do
        let name ← expectName
        expectSymbol ","
        let counter ← expectName
        if counter = name then malformed ("'" ++ name ++ "' is there already")
        expectSymbol ")"
        pure (name, some counter)
      else do
        let name ← expectName
        pure (name, none)
    expectKeyword "in"
    let source ← if ← isSymbol "\x7b" then malformed "expecting an expression"
      else expr fuel ctx
    if source.isSingleLiteral then malformed "expecting something to walk over"
    confined do
      counter.forM fun c => define c false
      define name false
      return .forEach name counter source (← block fuel { ctx with inLoop := true })

/-- `switch` with its cases. -/
def switch : (fuel : Nat) → Context → Reading Stmt
  | 0, _ => malformed "the script nests too deep"
  | fuel + 1, ctx => do
    let ctx ← deeper ctx
    expectKeyword "switch"
    let subject ← expr fuel ctx
    expectSymbol "\x7b"
    let (cases, default) ← switchCases fuel { ctx with barEnds := false } [] none
    return .switch subject cases default

/-- The cases of a switch up to its closing brace. Nothing may follow the
    default, and no integer the ranges. -/
def switchCases : (fuel : Nat) → Context → List Case → Option Stmt →
    Reading (List Case × Option Stmt)
  | 0, _, _, _ => malformed "the script nests too deep"
  | fuel + 1, ctx, read, default => do
    if ← takeSymbol "\x7d" then return (read.reverse, default)
    else if default.isSome then malformed "the default case is the last one"
    else
      let (values, guard) ← if ← takeSymbol "_" then do
          match ← peek with
          | some (.keyword "if") => malformed "the default case has no guard"
          | _ => pure ([], none)
        else do
          let values ← caseValues fuel { ctx with barEnds := true } []
          if ← takeKeyword "if" then pure (values, some (← condition fuel ctx))
          else pure (values, none)
      expectSymbol "=>"
      let action ← statement fuel { ctx with isGlobal := false }
      let action := action.getD (.block [])
      if !(← takeSymbol ",") then
        if !(← isSymbol "\x7d") && !action.isClosed then malformed "expecting ','"
      if values.isEmpty then switchCases fuel ctx read (some action)
      else if (values.any fun
          | .int _ => true
          | _ => false) && read.any hasRange then malformed "an integer follows a range"
      else switchCases fuel ctx (.mk values guard action :: read) none

/-- The values of a case, between bars. -/
def caseValues : (fuel : Nat) → Context → List Expr → Reading (List Expr)
  | 0, _, _ => malformed "the script nests too deep"
  | fuel + 1, ctx, read => do
    let e ← tryCatch (expr fuel ctx) fun _ => malformed "expecting a literal"
    if !isLiteral e then malformed "expecting a literal"
    else if ← takeSymbol "|" then caseValues fuel ctx (e :: read)
    else return (e :: read).reverse

/-- `try` with `catch`. -/
def attempt : (fuel : Nat) → Context → Reading Stmt
  | 0, _ => malformed "the script nests too deep"
  | fuel + 1, ctx => do
    let ctx ← deeper ctx
    expectKeyword "try"
    let body ← block fuel ctx
    expectKeyword "catch"
    let name ← if ← takeSymbol "(" then do
        let name ← expectName
        expectSymbol ")"
        pure (some name)
      else pure none
    confined do
      name.forM fun n => define n false
      return .attempt body name (← block fuel ctx)

/-- The definition of a function; its body sees its parameters only. -/
def function : (fuel : Nat) → Context → Reading Unit
  | 0, _ => malformed "the script nests too deep"
  | fuel + 1, _ => do
    expectKeyword "fn"
    let name ← expectName
    let params ← if ← takeSymbol "()" then pure []
      else do
        expectSymbol "("
        functionParams fuel []
    let before ← get
    set { before with locals := params.reverse.map (·, false) }
    let body ← block fuel { limit := bodyNestingLimit, inFunction := true }
    let after ← get
    set { after with locals := before.locals }
    if after.functions.any fun f => f.name == name && f.params.length == params.length then
      malformed ("'" ++ name ++ "' is there already")
    else modify fun p => { p with functions := p.functions ++ [{ name, params, body }] }

/-- The parameters of a function after the opening bracket. -/
def functionParams : (fuel : Nat) → List String → Reading (List String)
  | 0, _ => malformed "the script nests too deep"
  | fuel + 1, read => do
    if ← takeSymbol ")" then return read.reverse
    else
      let s ← expectName
      if read.contains s then malformed ("'" ++ s ++ "' is there already")
      else if ← takeSymbol "," then functionParams fuel (s :: read)
      else
        expectSymbol ")"
        return (s :: read).reverse

end

/-- The statements of a script. -/
def program : (fuel : Nat) → Context → List Stmt → Reading (List Stmt)
  | 0, _, _ => malformed "the script nests too deep"
  | fuel + 1, ctx, read => do
    match ← peek with
    | none => return read.reverse
    | _ =>
      match ← statement fuel ctx with
      | none => program fuel ctx read
      | some s =>
        match ← peek with
        | none => return (s :: read).reverse
        | _ =>
          if ← takeSymbol ";" then program fuel ctx (s :: read)
          else if s.isClosed then program fuel ctx (s :: read)
          else malformed "expecting ';'"

end Reading

/-- The tree of a script that sees the given names. -/
def Program.parse (outer : List String) (code : String) : Except SyntaxError Program := do
  let tokens := Token.list code.toList
  let (body, p) ← (Reading.program (20 * tokens.length + 20) { outer, isGlobal := true } []).run
    { rest := tokens }
  return { body, functions := p.functions }

end Hyperfiction.Script
