/-!
# Calculator programs

A small language whose node types are generated from two categories, `Expr` and `Stmt`. It is the
worked example of what a generated module is for: a tree of nodes that visitors walk over.

The numbers of a program are a parameter `F`, and what a calculator does with them is given by
`Arithmetic F`, so that statements about programs hold for every such arithmetic. The binary
floating-point numbers are one (`Arithmetic Float`).
-/

namespace VisitorNodes.Calculator

/-! ## 1. Programs -/

/-- The operators with one operand. -/
inductive UnaryOp where
  | neg
  deriving Repr, DecidableEq

/-- The operators with two operands. -/
inductive BinaryOp where
  | add
  | sub
  | mul
  deriving Repr, DecidableEq

/-- What has a value. -/
inductive Expr (F : Type) where
  | number (value : F)
  | var (name : String)
  | unary (op : UnaryOp) (operand : Expr F)
  | binary (left : Expr F) (op : BinaryOp) (right : Expr F)
  | call (callee : String) (args : List (Expr F))
  | cast (value : Expr F) (type : String)
  deriving Repr

/-- What has an effect. The second branch of a condition may be absent. -/
inductive Stmt (F : Type) where
  | assign (name : String) (value : Expr F)
  | print (value : Expr F)
  | cond (condition : Expr F) (thenBranch : Stmt F) (elseBranch : Option (Stmt F))
  | block (body : List (Stmt F))
  deriving Repr

/-! ## 2. Numbers -/

/-- What a calculator needs of its numbers. -/
class Arithmetic (F : Type) where
  neg : F → F
  add : F → F → F
  sub : F → F → F
  mul : F → F → F
  /-- The number below all others, where the search for a largest one starts. -/
  lowest : F
  /-- The larger of two numbers. -/
  larger : F → F → F
  /-- The number without its fraction. -/
  truncate : F → F
  /-- Whether a condition with this value holds. -/
  holds : F → Bool

/-- A number without its fraction: toward zero, keeping the sign of zero. -/
def truncateFloat (x : Float) : Float := if x < 0.0 then x.ceil else x.floor

/-- The larger of two numbers; what is not a number is ignored. -/
def largerFloat (x y : Float) : Float :=
  if x.isNaN then y else if y.isNaN then x else if x < y then y else x

/-- Binary floating-point numbers. A condition holds unless it equals zero, of either sign. -/
instance : Arithmetic Float where
  neg x := -x
  add x y := x + y
  sub x y := x - y
  mul x y := x * y
  lowest := -1.0 / 0.0
  larger := largerFloat
  truncate := truncateFloat
  holds x := x != 0.0

/-- The operator's function. -/
def UnaryOp.apply {F : Type} [Arithmetic F] : UnaryOp → F → F
  | .neg => Arithmetic.neg

/-- The operator's function. -/
def BinaryOp.apply {F : Type} [Arithmetic F] : BinaryOp → F → F → F
  | .add => Arithmetic.add
  | .sub => Arithmetic.sub
  | .mul => Arithmetic.mul

end VisitorNodes.Calculator
