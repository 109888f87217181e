import VisitorNodes.Calculator.Program
import VisitorNodes.Dictionary

/-!
# Running calculator programs

A calculator keeps variables and a record of what was printed (`State`). Expressions and statements
run on it in the same way: they end with a value or with a fault, and in both cases with a state, so
what was done before a fault stays.

Operands run from left to right, and the arguments of a call before its function is looked up.
Variables have no scopes: what a block assigns stays visible after it.
-/

namespace VisitorNodes.Calculator

variable {F : Type}

/-! ## 1. States and faults -/

/-- What a calculator keeps between its steps. -/
structure State (F : Type) where
  /-- Every variable once, with its value. -/
  vars : List (String × F) := []
  /-- The values printed so far, the first one first. -/
  printed : List F := []
  deriving Repr

/-- Why a run ends early. -/
inductive Fault where
  | unboundVariable (name : String)
  | unknownFunction (name : String)
  deriving Repr, DecidableEq

/-- The report of a fault. That of a variable does not say which. -/
def Fault.message : Fault → String
  | .unboundVariable _ => "no entry found for key"
  | .unknownFunction name => "unknown function " ++ name

/-- Work on a state that may end with a fault. -/
abbrev Run (F : Type) := EStateM Fault (State F)

/-- The value of a variable. -/
def readVar (name : String) : Run F F := fun s =>
  match Dictionary.get? name s.vars with
  | some value => .ok value s
  | none => .error (.unboundVariable name) s

/-- Sets a variable. -/
def writeVar (name : String) (value : F) : Run F Unit := fun s =>
  .ok () { s with vars := Dictionary.set name value s.vars }

/-- Records a printed value. -/
def record (value : F) : Run F Unit := fun s =>
  .ok () { s with printed := s.printed ++ [value] }

/-! ## 2. Expressions -/

variable [Arithmetic F]

/-- The value of a call: `max` is the only function, the largest of its arguments. -/
def applyFunction (callee : String) (args : List F) : Run F F := fun s =>
  if callee = "max" then .ok (args.foldl Arithmetic.larger Arithmetic.lowest) s
  else .error (.unknownFunction callee) s

/-- A value cast to a type: `int` drops the fraction, any other type does nothing. -/
def castTo (type : String) (value : F) : F :=
  if type = "int" then Arithmetic.truncate value else value

mutual

/-- The value of an expression. -/
def Expr.eval : Expr F → Run F F
  | .number value => pure value
  | .var name => readVar name
  | .unary op operand => do
    let value ← operand.eval
    pure (op.apply value)
  | .binary left op right => do
    let x ← left.eval
    let y ← right.eval
    pure (op.apply x y)
  | .call callee args => do
    let values ← Expr.evalAll args
    applyFunction callee values
  | .cast value type => do
    let x ← value.eval
    pure (castTo type x)

/-- The values of expressions, from left to right. -/
def Expr.evalAll : List (Expr F) → Run F (List F)
  | [] => pure []
  | arg :: args => do
    let value ← arg.eval
    let values ← Expr.evalAll args
    pure (value :: values)

end

/-! ## 3. Statements -/

mutual

/-- Runs a statement. -/
def Stmt.exec : Stmt F → Run F Unit
  | .assign name value => do
    let x ← value.eval
    writeVar name x
  | .print value => do
    let x ← value.eval
    record x
  | .cond condition thenBranch elseBranch => do
    let x ← condition.eval
    if Arithmetic.holds x then thenBranch.exec else Stmt.execElse elseBranch
  | .block body => Stmt.execAll body

/-- Runs the second branch of a condition, if there is one. -/
def Stmt.execElse : Option (Stmt F) → Run F Unit
  | none => pure ()
  | some branch => branch.exec

/-- Runs statements one after the other. -/
def Stmt.execAll : List (Stmt F) → Run F Unit
  | [] => pure ()
  | stmt :: stmts => do
    stmt.exec
    Stmt.execAll stmts

end

/-! ## 4. Sessions -/

/-- A step of a session: a statement to run, or an expression to evaluate and show. -/
inductive Step (F : Type) where
  | expr (e : Expr F)
  | stmt (s : Stmt F)

/-- How a step ended: with the value of an expression, without one, or with a fault. -/
inductive Ending (F : Type) where
  | value (x : F)
  | finished
  | fault (f : Fault)

/-- What a step answers: its ending, what it printed, and all variables after it. -/
structure Answer (F : Type) where
  ending : Ending F
  printed : List F
  vars : List (String × F)

/-- How a step ends, and the state after it. -/
def Step.run (step : Step F) (s : State F) : Ending F × State F :=
  match step with
  | .expr e =>
    match e.eval s with
    | .ok x s => (.value x, s)
    | .error f s => (.fault f, s)
  | .stmt t =>
    match t.exec s with
    | .ok () s => (.finished, s)
    | .error f s => (.fault f, s)

/-- The answers of steps that share one state. A fault ends its step only. -/
def answers (s : State F) : List (Step F) → List (Answer F)
  | [] => []
  | step :: steps =>
    let (ending, after) := step.run s
    ⟨ending, after.printed.drop s.printed.length, after.vars⟩ :: answers after steps

end VisitorNodes.Calculator
