import VisitorNodes.Calculator.Program
import VisitorNodes.Naming

/-!
# Outlines: what a visitor sees of a calculator program

Every node announces itself to a visitor by its visit method, and shows its members through its
accessors. An outline is the program seen in this way: visit methods, and accessors with what they
give. `visits` lists the methods in the order in which a visitor that goes on to every child is
called, a node before its children.
-/

namespace VisitorNodes.Calculator

variable {F : Type}

/-! ## 1. Outlines -/

/-- What accessors give: plain values, lists of nodes, and nodes. -/
inductive Outline (F : Type) where
  | number (value : F)
  | text (s : String)
  /-- A member that is not there. -/
  | absent
  | list (items : List (Outline F))
  /-- A node: its visit method, and its members by accessor. -/
  | node (method : String) (members : List (String × Outline F))
  deriving Repr

mutual

/-- The visit methods of an outline, a node before its children. -/
def Outline.visits : Outline F → List String
  | .number _ => []
  | .text _ => []
  | .absent => []
  | .list items => Outline.visitsOfItems items
  | .node method members => method :: Outline.visitsOfMembers members

/-- The visit methods of the nodes of a list, in its order. -/
def Outline.visitsOfItems : List (Outline F) → List String
  | [] => []
  | item :: items => item.visits ++ Outline.visitsOfItems items

/-- The visit methods below the members of a node, in their order. -/
def Outline.visitsOfMembers : List (String × Outline F) → List String
  | [] => []
  | (_, item) :: members => item.visits ++ Outline.visitsOfMembers members

end

/-! ## 2. Outlines of programs -/

/-- A node of a category from its variant and its fields. -/
def outlineNode (category variant : String) (fields : List (String × Outline F)) : Outline F :=
  .node (Naming.visitMethod variant category) (fields.map fun f => (Naming.accessor f.1, f.2))

/-- An operator as an outline shows it. -/
def UnaryOp.name : UnaryOp → String
  | .neg => "Neg"

/-- An operator as an outline shows it. -/
def BinaryOp.name : BinaryOp → String
  | .add => "Add"
  | .sub => "Sub"
  | .mul => "Mul"

mutual

/-- The outline of an expression. -/
def Expr.outline : Expr F → Outline F
  | .number value => outlineNode "Expr" "Number" [("value", .number value)]
  | .var name => outlineNode "Expr" "Variable" [("name", .text name)]
  | .unary op operand =>
    outlineNode "Expr" "Unary" [("op", .text op.name), ("operand", operand.outline)]
  | .binary left op right =>
    outlineNode "Expr" "Binary"
      [("left", left.outline), ("op", .text op.name), ("right", right.outline)]
  | .call callee args =>
    outlineNode "Expr" "Call" [("callee", .text callee), ("args", .list (Expr.outlines args))]
  | .cast value type =>
    outlineNode "Expr" "Cast" [("value", value.outline), ("type", .text type)]

/-- The outlines of expressions. -/
def Expr.outlines : List (Expr F) → List (Outline F)
  | [] => []
  | e :: es => e.outline :: Expr.outlines es

end

mutual

/-- The outline of a statement. -/
def Stmt.outline : Stmt F → Outline F
  | .assign name value =>
    outlineNode "Stmt" "Let" [("name", .text name), ("value", value.outline)]
  | .print value => outlineNode "Stmt" "Print" [("value", value.outline)]
  | .cond condition thenBranch elseBranch =>
    outlineNode "Stmt" "If"
      [("condition", condition.outline), ("thenBranch", thenBranch.outline),
       ("elseBranch", Stmt.outlineElse elseBranch)]
  | .block body => outlineNode "Stmt" "Block" [("body", .list (Stmt.outlines body))]

/-- The outline of the second branch of a condition, which may be absent. -/
def Stmt.outlineElse : Option (Stmt F) → Outline F
  | none => .absent
  | some branch => branch.outline

/-- The outlines of statements. -/
def Stmt.outlines : List (Stmt F) → List (Outline F)
  | [] => []
  | s :: ss => s.outline :: Stmt.outlines ss

end

end VisitorNodes.Calculator
