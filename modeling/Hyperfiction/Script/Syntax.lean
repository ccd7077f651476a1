/-! # Script trees

    Scripts as trees: expressions and statements, and the functions that a
    script defines beside its statements.
-/

namespace Hyperfiction.Script

/-- Operators with one operand. -/
inductive UnaryOp where
  | plus | minus | not
deriving DecidableEq, Repr, Inhabited

/-- Operators with two operands, both of which are always evaluated. -/
inductive BinaryOp where
  | add | sub | mul | div | mod | pow | shl | shr
  | bitAnd | bitOr | bitXor
  | eq | ne | lt | le | gt | ge
  /-- The range that leaves its end out, and the one that has it. -/
  | until | through
deriving DecidableEq, Repr, Inhabited

/-- The symbol of an operator. -/
def UnaryOp.symbol : UnaryOp → String
  | .plus => "+"
  | .minus => "-"
  | .not => "!"

/-- The symbol of an operator. -/
def BinaryOp.symbol : BinaryOp → String
  | .add => "+" | .sub => "-" | .mul => "*" | .div => "/" | .mod => "%" | .pow => "**"
  | .shl => "<<" | .shr => ">>"
  | .bitAnd => "&" | .bitOr => "|" | .bitXor => "^"
  | .eq => "==" | .ne => "!=" | .lt => "<" | .le => "<=" | .gt => ">" | .ge => ">="
  | .until => ".." | .through => "..="

mutual

/-- An expression. -/
inductive Expr where
  | unit
  | bool (b : Bool)
  | int (n : Int)
  | float (x : Float)
  | char (c : Char)
  | str (s : String)
  /-- A text with code in it. -/
  | text (pieces : List Expr)
  | array (items : List Expr)
  | map (fields : List (String × Expr))
  | variable (name : String)
  /-- The receiver of a method. -/
  | receiver
  /-- A function of the script, by its name. -/
  | function (name : String)
  | closure (params : List String) (captured : List String) (body : Stmt)
  | unary (op : UnaryOp) (operand : Expr)
  | binary (op : BinaryOp) (left right : Expr)
  | and (left right : Expr)
  | or (left right : Expr)
  /-- The left operand, unless it is the unit value. -/
  | orElse (left right : Expr)
  /-- Whether a container holds an item. -/
  | inside (item container : Expr)
  | call (name : String) (args : List Expr)
  /-- Reaches into a value by one access after the other. -/
  | chain (base : Expr) (accesses : List Access)
  /-- A statement used for its value. -/
  | statement (s : Stmt)

/-- One step into a value; a lenient step makes the unit value of the unit value. -/
inductive Access where
  | property (name : String) (lenient : Bool)
  | index (at_ : Expr) (lenient : Bool)
  | method (name : String) (args : List Expr) (lenient : Bool)

/-- A statement. -/
inductive Stmt where
  | expr (e : Expr)
  | define (name : String) (constant : Bool) (value : Expr)
  /-- Assigns a value, or the outcome of an operator on the old and the new one. -/
  | assign (target : Expr) (op : Option BinaryOp) (value : Expr)
  | block (body : List Stmt)
  | conditional (condition : Expr) (holds : List Stmt) (fails : List Stmt)
  | whileLoop (condition : Expr) (body : List Stmt)
  | loop (body : List Stmt)
  /-- Runs its body until the condition comes out as `last`. -/
  | doLoop (body : List Stmt) (condition : Expr) (last : Bool)
  | forEach (name : String) (counter : Option String) (source : Expr) (body : List Stmt)
  | switch (subject : Expr) (cases : List Case) (default : Option Stmt)
  | attempt (body : List Stmt) (name : Option String) (handler : List Stmt)
  | break_ (value : Option Expr)
  | continue_
  | return_ (value : Option Expr)
  | throw_ (value : Option Expr)

/-- A case of a switch: the values it stands for, its guard, and what it does. -/
inductive Case where
  | mk (values : List Expr) (guard : Option Expr) (action : Stmt)

end

instance : Inhabited Expr := ⟨.unit⟩
instance : Inhabited Stmt := ⟨.block []⟩

/-- A function that a script defines. -/
structure Function where
  name : String
  params : List String
  body : List Stmt
deriving Inhabited

/-- A whole script. -/
structure Program where
  body : List Stmt
  functions : List Function
deriving Inhabited

/-- The function of a name that takes a number of arguments. -/
def Program.function? (p : Program) (name : String) (arity : Nat) : Option Function :=
  p.functions.find? fun f => f.name == name && f.params.length == arity

/-- Whether nothing has to stand between the statement and the next one. -/
def Stmt.isClosed : Stmt → Bool
  | .block _ | .conditional .. | .whileLoop .. | .loop _ | .forEach .. | .switch .. | .attempt .. =>
    true
  | _ => false

/-- Whether an expression is a literal of a type other than the truth values. -/
def Expr.isOtherLiteral : Expr → Bool
  | .unit | .int _ | .float _ | .char _ | .str _ | .text _ | .array _ | .map _ => true
  | _ => false

/-- Whether an expression is a literal that holds no items to walk over. -/
def Expr.isSingleLiteral : Expr → Bool
  | .unit | .bool _ | .int _ | .float _ | .char _ | .str _ | .map _ => true
  | _ => false

end Hyperfiction.Script
