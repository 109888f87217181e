import VisitorNodes.Proofs.Outcome
import VisitorNodes.Proofs.Printer.CSharpDispatch
import VisitorNodes.Proofs.Printer.RustDispatch
/-!
# Both targets dispatch alike

For every variant of a category, visitors have one method, which takes its node type and which its
nodes call. This file says which lines of a generated text do that, with nothing but the text and
the list of methods and node types (`Category.dispatches`) in the statement, and that the texts of
both targets do it for the same list (`dispatches_emit`).
-/

namespace VisitorNodes

open Grammar Text

/-- The visit method and the node type of each variant, in the order of the grammar. -/
def Category.dispatches (c : Category) : List (String × String) :=
  c.variants.map fun v => ("Visit" ++ Naming.capitalize v.name ++ c.name, v.name)

/-! ## 1. C# -/

/-- A C# text declares these methods, each with its node type, and calls them, each in the class of
    its node type. It has no other lines that begin like those. -/
structure CSharp.Dispatches (base param : String) (ds : List (String × String)) (text : String) :
    Prop where
  declared : (lines text).filter (starts "        T ") = ds.map fun (method, node) =>
    "        T " ++ method ++ "(" ++ node ++ " " ++ param ++ ");"
  called : (lines text).filter (starts "            return visitor.") = ds.map fun (method, _) =>
    "            return visitor." ++ method ++ "(this);"
  placed : BlockMarks.called ⟨"        T ", "    public class ", "    \x7d",
      "            return visitor."⟩ none (lines text) = ds.map fun (method, node) =>
    (some ("    public class " ++ node ++ " : " ++ base),
      "            return visitor." ++ method ++ "(this);")

namespace CSharp

theorem indent_marks : marks.indent
    = ⟨"        T ", "    public class ", "    \x7d", "            return visitor."⟩ := by
  decide

theorem indent_methodLine (m : Module) (method : VisitMethod) :
    "    " ++ methodLine m method = "        T " ++ method.name ++ "(" ++ method.nodeType ++ " "
      ++ visitorParam m ++ ");" := by
  have hstep : "        T " = "    " ++ "    T " := by decide
  unfold methodLine
  rw [hstep]
  simp only [String.append_assoc]

theorem indent_classLine (m : Module) (node : NodeType) :
    "    " ++ classLine m node = "    public class " ++ node.name ++ " : " ++ m.base := by
  have hstep : "    public class " = "    " ++ "public class " := by decide
  unfold classLine
  rw [hstep]
  simp only [String.append_assoc]

theorem indent_callLine (node : NodeType) :
    "    " ++ callLine node = "            return visitor." ++ node.visitMethod ++ "(this);" := by
  have hstep : "            return visitor." = "    " ++ "        return visitor." := by decide
  unfold callLine
  rw [hstep]
  simp only [String.append_assoc]

theorem dispatches_print {style : CSharp} {c : Category} (h : c.WellFormed)
    (hheader : ∀ l ∈ style.headerLines, '\n' ∉ l.toList) :
    Dispatches c.name (visitorParam c.toModule) c.dispatches (style.print c.toModule "") := by
  have hsolid := Category.solidNames_toModule h
  have hdeclared := declared_print hsolid hheader
  have hplaced := called_print hsolid hheader
  simp only [indent_marks, indent_methodLine, indent_classLine, indent_callLine]
    at hdeclared hplaced
  have hcalled := congrArg (List.map Prod.snd) hplaced
  rw [BlockMarks.map_snd_called, List.map_map] at hcalled
  refine ⟨hdeclared.trans ?_, hcalled.trans ?_, hplaced.trans ?_⟩
  all_goals
    unfold Category.dispatches
    rw [List.map_map]
    exact List.map_map

end CSharp

/-! ## 2. Rust -/

/-- A Rust text declares these methods, each with its node type, and calls them, each in the
    implementation of its node type. It has no other lines that begin like those. -/
structure Rust.Dispatches (ds : List (String × String)) (text : String) : Prop where
  declared : (lines text).filter (starts "    fn ") = ds.map fun (method, node) =>
    "    fn " ++ method ++ "(&mut self, node: &" ++ node ++ ") -> T;"
  called : (lines text).filter (starts "        visitor.") = ds.map fun (method, _) =>
    "        visitor." ++ method ++ "(self)"
  placed : BlockMarks.called ⟨"    fn ", "impl ", "\x7d", "        visitor."⟩ none (lines text)
      = ds.map fun (method, node) =>
    (some ("impl " ++ node ++ " \x7b"), "        visitor." ++ method ++ "(self)")

theorem Rust.dispatches_print {style : Rust} {c : Category} (h : c.WellFormed)
    (hheader : ∀ l ∈ style.headerLines, '\n' ∉ l.toList) :
    Dispatches c.dispatches (style.print c.toModule "") := by
  have hsolid := Category.solidNames_toModule h
  have hdeclared := declared_print hsolid hheader
  have hplaced := called_print hsolid hheader
  have hcalled := congrArg (List.map Prod.snd) hplaced
  rw [BlockMarks.map_snd_called, List.map_map] at hcalled
  refine ⟨hdeclared.trans ?_, hcalled.trans ?_, hplaced.trans ?_⟩
  all_goals
    unfold Category.dispatches
    rw [List.map_map]
    exact List.map_map

/-! ## 3. Both targets -/

/-- **Both targets declare and call the same visit methods.** The texts of a category that was read
    declare one method per variant and call it in that variant's type, in the order of the grammar
    and under the same names, however often a name occurs and whatever else it spells. -/
theorem dispatches_emit {name : String} {grammar : List String} {c : Category}
    (h : (Category.read name grammar).result = .ok c) {namespaceName : String}
    {usings uses : List String} (hnamespace : '\n' ∉ namespaceName.toList)
    (husings : ∀ path ∈ usings, '\n' ∉ path.toList) (huses : ∀ path ∈ uses, '\n' ∉ path.toList) :
    ∃ csharp rust,
      (emit (.csharp ⟨namespaceName, usings⟩) name grammar).result = .ok csharp ∧
      (emit (.rust ⟨uses⟩) name grammar).result = .ok rust ∧
      CSharp.Dispatches c.name (CSharp.visitorParam c.toModule) c.dispatches csharp ∧
      Rust.Dispatches c.dispatches rust := by
  have hwf := Category.wellFormed_of_read h
  exact ⟨_, _, emit_result_of_read_ok h, emit_result_of_read_ok h,
    CSharp.dispatches_print hwf (CSharp.headerLines_unfed hnamespace husings),
    Rust.dispatches_print hwf (Rust.headerLines_unfed huses)⟩

/-- A variant named `fn` that occurs twice, with fields named `return` and `fn`. -/
theorem dispatches_emit_keywords : ∃ csharp rust,
    (emit (.csharp ⟨"Demo", ["System"]⟩) "Expr" ["fn : T return, fn fn", "fn :"]).result
        = .ok csharp ∧
      (emit (.rust ⟨["crate::token"]⟩) "Expr" ["fn : T return, fn fn", "fn :"]).result = .ok rust ∧
      CSharp.Dispatches "Expr" "expr" [("VisitFnExpr", "fn"), ("VisitFnExpr", "fn")] csharp ∧
      Rust.Dispatches [("VisitFnExpr", "fn"), ("VisitFnExpr", "fn")] rust := by
  have hname : ¬ Category.Unnamed "Expr" := by
    rw [← Category.isName_eq_false_iff]
    decide
  have hread : (Category.read "Expr" ["fn : T return, fn fn", "fn :"]).result
      = .ok ⟨"Expr", [⟨"fn", [⟨"T", "return"⟩, ⟨"fn", "fn"⟩]⟩, ⟨"fn", []⟩]⟩ :=
    Category.read_eq_ok_iff.mpr ⟨hname, rfl, .cons rfl
      (.cons rfl .nil)⟩
  have hnamespace : '\n' ∉ "Demo".toList := by decide
  have husings : ∀ path ∈ ["System"], '\n' ∉ path.toList := by decide
  have huses : ∀ path ∈ ["crate::token"], '\n' ∉ path.toList := by decide
  have hparam : CSharp.visitorParam (Category.toModule
      ⟨"Expr", [⟨"fn", [⟨"T", "return"⟩, ⟨"fn", "fn"⟩]⟩, ⟨"fn", []⟩]⟩) = "expr" := by
    decide +kernel
  have hlist : Category.dispatches
      ⟨"Expr", [⟨"fn", [⟨"T", "return"⟩, ⟨"fn", "fn"⟩]⟩, ⟨"fn", []⟩]⟩
        = [("VisitFnExpr", "fn"), ("VisitFnExpr", "fn")] := by
    decide +kernel
  have hemit := dispatches_emit hread hnamespace husings huses
  rw [hparam, hlist] at hemit
  exact hemit

end VisitorNodes
