import VisitorNodes.Proofs.Outcome
import VisitorNodes.Proofs.Printer.CSharpNesting
import VisitorNodes.Proofs.Printer.RustNesting
/-!
# The white space of a generated text is its nesting

Both printers write their white space by hand, line by line, and the C# printer moves a finished
body to the right. All the same, every line of a generated text stands as deep as the braces before
it say, and all braces are closed in the end (`laidOut_emit`), with or without variants, fields and
imports. Braces that come from the grammar or the namespace would count as well, so there must be
none.
-/

namespace VisitorNodes

open Grammar Text

/-- A set-up that breaks no line and brings braces only by imports that close what they open. -/
def Printer.Tidy : Printer → Prop
  | .csharp style => style.Tidy
  | .rust style => style.Tidy

theorem Printer.laidOut_print {printer : Printer} (hp : printer.Tidy) {m : Module}
    (hs : m.SolidNames) (h : m.BareNames) : LaidOut (lines (printer.print m "")) := by
  cases printer with
  | csharp style => exact CSharp.laidOut_print hp hs h
  | rust style => exact Rust.laidOut_print hp hs h

/-- **The text of a category that was read is laid out**: each line has four spaces for every block
that is open where it begins, no block is closed that was not opened, and none is left open. -/
theorem laidOut_emit {printer : Printer} {name : String} {grammar : List String} {c : Category}
    (h : (Category.read name grammar).result = .ok c) (hc : c.Bare) (hp : printer.Tidy) :
    ∃ text, (emit printer name grammar).result = .ok text ∧ LaidOut (lines text) := by
  have hwf := Category.wellFormed_of_read h
  exact ⟨_, emit_result_of_read_ok h, Printer.laidOut_print hp (Category.solidNames_toModule hwf)
    (Category.bareNames_toModule hwf hc)⟩

/-- Both targets, with imports that hold braces and a variant without fields. -/
theorem laidOut_emit_imports :
    (∃ text, (emit (.csharp ⟨"Demo", ["System", "\x7bA, \x7bB\x7d\x7d"]⟩) "Expr"
        ["Unary : Token operator, Expr right", "Nil :"]).result = .ok text ∧
      LaidOut (lines text)) ∧
    ∃ text, (emit (.rust ⟨["crate::token::\x7bToken, Kind\x7d"]⟩) "Expr"
        ["Unary : Token operator, Expr right", "Nil :"]).result = .ok text ∧
      LaidOut (lines text) := by
  have hname : ¬ Category.Unnamed "Expr" := by
    rw [← Category.isName_eq_false_iff]
    decide
  have hread : (Category.read "Expr" ["Unary : Token operator, Expr right", "Nil :"]).result
      = .ok ⟨"Expr", [⟨"Unary", [⟨"Token", "operator"⟩, ⟨"Expr", "right"⟩]⟩, ⟨"Nil", []⟩]⟩ :=
    Category.read_eq_ok_iff.mpr ⟨hname, rfl, .cons rfl (.cons rfl .nil)⟩
  have hbare : Category.Bare
      ⟨"Expr", [⟨"Unary", [⟨"Token", "operator"⟩, ⟨"Expr", "right"⟩]⟩, ⟨"Nil", []⟩]⟩ :=
    ⟨by decide, by decide⟩
  have hcsharp : Printer.Tidy (.csharp ⟨"Demo", ["System", "\x7bA, \x7bB\x7d\x7d"]⟩) :=
    CSharp.Tidy.mk (by decide) (by decide) (by decide) (by decide)
  have hrust : Printer.Tidy (.rust ⟨["crate::token::\x7bToken, Kind\x7d"]⟩) :=
    Rust.Tidy.mk (by decide) (by decide)
  exact ⟨laidOut_emit hread hbare hcsharp, laidOut_emit hread hbare hrust⟩

end VisitorNodes
