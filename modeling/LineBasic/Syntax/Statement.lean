import LineBasic.Syntax.Token

/-!
Expressions and statements.
-/
namespace LineBasic

inductive ArithOp where
  | add
  | subtract
  | multiply
  | divide
  deriving DecidableEq, Repr

inductive Relation where
  | equal
  | notEqual
  | less
  | atMost
  | greater
  | atLeast
  deriving DecidableEq, Repr

def ArithOp.symbol : ArithOp → Symbol
  | add => .plus
  | subtract => .minus
  | multiply => .times
  | divide => .divide

def Relation.symbol : Relation → Symbol
  | equal => .equal
  | notEqual => .notEqual
  | less => .less
  | atMost => .atMost
  | greater => .greater
  | atLeast => .atLeast

inductive Expr where
  | number (x : Float)
  | text (s : String)
  | scalar (name : String)
  | element (name : String) (index : List Expr)
  | call (name : String) (args : List Expr)
  | negate (e : Expr)
  | arith (op : ArithOp) (l r : Expr)
  | compare (op : Relation) (l r : Expr)

inductive Target where
  | scalar (name : String)
  | element (name : String) (index : List Expr)

inductive Separator where
  | join
  | blank
  deriving DecidableEq, Repr

def Separator.symbol : Separator → Symbol
  | join => .semicolon
  | blank => .comma

structure PrintList where
  first : Expr
  rest : List (Separator × Expr)

structure Declaration where
  name : String
  dims : List Expr

inductive Finish where
  | endWord
  | stopWord
  deriving DecidableEq, Repr

inductive Stmt where
  | remark (text : String)
  | print (items : Option PrintList)
  | assign (target : Target) (value : Expr)
  | input (name : String)
  | jumpIf (condition : Expr) (line : Int)
  | doIf (condition : Expr) (inner : Stmt)
  | goto (line : Int)
  | gosub (line : Int)
  | goBack
  | loop (name : String) (start limit : Expr) (step : Option Expr)
  | next (name : String)
  | dim (arrays : List Declaration)
  | randomize (seed : Option Expr)
  | finish (word : Finish)
  | call (name : String) (args : List Expr)

instance : Inhabited Expr := ⟨.number 0⟩
instance : Inhabited Stmt := ⟨.remark ""⟩

structure Body where
  first : Stmt
  rest : List Stmt
  deriving Inhabited

def Body.toList (b : Body) : List Stmt := b.first :: b.rest

end LineBasic
