import VisitorNodes.Printer.CSharp
import VisitorNodes.Printer.Rust
import VisitorNodes.Text.Quoted

/-!
# Output languages and their printers

A target is a language that modules are generated in. It knows its names, the extension of its
files, the file that holds a category, and how to set up its printer.
-/

namespace VisitorNodes

open Text

/-! ## 1. Printers -/

/-- A language together with its set-up. -/
inductive Printer where
  | csharp (style : CSharp)
  | rust (style : Rust)
  deriving Repr, DecidableEq

/-- The buffer with the whole module behind what it held. -/
def Printer.print : Printer → Module → String → String
  | .csharp style => style.print
  | .rust style => style.print

/-! ## 2. Targets -/

/-- The languages that modules are generated in. -/
inductive Target where
  | csharp
  | rust
  deriving Repr, DecidableEq

/-- A name that no target has. -/
structure UnknownTarget where
  name : String
  deriving Repr, DecidableEq

/-- The report of an unknown target. -/
def UnknownTarget.message (u : UnknownTarget) : String :=
  "unknown target " ++ quoted u.name ++ ", expected one of: cs, rust"

namespace Target

/-- The target with this name. -/
def parse (name : String) : Except UnknownTarget Target :=
  if name = "cs" ∨ name = "csharp" then .ok .csharp
  else if name = "rs" ∨ name = "rust" then .ok .rust
  else .error ⟨name⟩

/-- The extension of the target's files. -/
def extension : Target → String
  | .csharp => "cs"
  | .rust => "rs"

/-- The file of a category: `TypeExpr.cs` in C#, `type_expr.rs` in Rust. -/
def fileName (target : Target) (category : String) : String :=
  let stem :=
    match target with
    | .csharp => category
    | .rust => String.ofList (snakeCase category.toList)
  stem ++ "." ++ target.extension

/-- The printer of a target. Only C# has a namespace; both have imports. -/
def printer (target : Target) (namespaceName : String) (imports : List String) : Printer :=
  match target with
  | .csharp => .csharp ⟨namespaceName, imports⟩
  | .rust => .rust ⟨imports⟩

end Target

/-! ## 3. Printers by name -/

/-- A printer as it is asked for: set up already, or by the name of its target. -/
inductive PrinterChoice where
  | ready (printer : Printer)
  | named (target namespaceName : String) (imports : List String)
  deriving Repr, DecidableEq

/-- The printer that was asked for, if its target is known. -/
def PrinterChoice.resolve : PrinterChoice → Except UnknownTarget Printer
  | .ready printer => .ok printer
  | .named target namespaceName imports =>
    (Target.parse target).map (·.printer namespaceName imports)

end VisitorNodes
