import VisitorNodes.Proofs.Printer.CSharpText
import VisitorNodes.Proofs.Text.Blocks
/-!
# Declared and called visit methods in a C# text

The visitor interface declares a visit method per node type, and the class of a node type calls its
own. Both are told by how their lines begin (`marks`), and the lines of a text that begin so are
these and no others: names hold no blank, so none of them can begin a line in that way
(`declared_bodyLines`, `called_bodyLines`). Moved into the namespace, the lines stay what they are
(`declared_print`, `called_print`).
-/

namespace VisitorNodes.CSharp

open Text

/-! ## 1. Lines that declare, and lines that call -/

/-- Declared visit methods, classes, and the calls of visit methods in them. -/
def marks : BlockMarks := ⟨"    T ", "public class ", "\x7d", "        return visitor."⟩

/-- The head of the class of a node type. -/
def classLine (m : Module) (node : NodeType) : String :=
  "public class " ++ node.name ++ " : " ++ m.base

/-- The call of a node's visit method. -/
def callLine (node : NodeType) : String :=
  "        return visitor." ++ node.visitMethod ++ "(this);"

theorem head_classLine (m : Module) (node : NodeType) : marks.Head (classLine m node) := by
  unfold classLine
  rw [String.append_assoc, String.append_assoc]
  exact ⟨starts_append_self _ _, avoids_append (by decide) _⟩

theorem call_callLine (node : NodeType) : marks.Call (callLine node) := by
  unfold callLine
  rw [String.append_assoc]
  exact ⟨starts_append_self _ _, Apart.starts_append (by decide) _⟩

theorem foot_brace : marks.Foot "\x7d" := ⟨by decide, by decide⟩

/-! ## 2. The base type and the visitor -/

theorem outer_baseLines (m : Module) : ∀ l ∈ baseLines m, Avoids marks.outer l := by
  simp only [baseLines, List.forall_mem_cons, String.append_assoc]
  refine ⟨avoids_append ?_ _, ?_, avoids_append ?_ _, ?_, ?_⟩ <;> decide

theorem outer_visitorHead (m : Module) :
    ∀ l ∈ ["", "public interface " ++ m.visitor.name ++ "<T>", "\x7b"], Avoids marks.outer l := by
  simp only [List.forall_mem_cons, String.append_assoc]
  refine ⟨?_, avoids_append ?_ _, ?_, ?_⟩ <;> decide

theorem declares_methodLine (m : Module) (method : VisitMethod) :
    starts marks.declares (methodLine m method) = true := by
  simp only [methodLine, String.append_assoc]
  exact starts_append_self _ _

theorem uncalled_methodLine (m : Module) (method : VisitMethod) :
    Avoids [marks.calls, marks.opens] (methodLine m method) := by
  simp only [methodLine, String.append_assoc]
  exact avoids_append (by decide) _

theorem declared_visitorLines (m : Module) :
    marks.declared (visitorLines m) = m.visitor.methods.map (methodLine m) := by
  have hfoot : ∀ l ∈ ["\x7d"], Avoids marks.outer l := by decide
  have hmethods : marks.declared (m.visitor.methods.map (methodLine m))
      = m.visitor.methods.map (methodLine m) :=
    BlockMarks.declared_map fun method _ => declares_methodLine m method
  unfold visitorLines
  rw [BlockMarks.declared_append, BlockMarks.declared_append,
    BlockMarks.declared_outer (outer_visitorHead m), BlockMarks.declared_outer hfoot, hmethods,
    List.nil_append, List.append_nil]

theorem uncalled_visitorLines (m : Module) :
    ∀ l ∈ visitorLines m, Avoids [marks.calls, marks.opens] l := by
  unfold visitorLines
  rw [List.forall_mem_append, List.forall_mem_append, List.forall_mem_map]
  exact ⟨⟨fun l hl => BlockMarks.uncalled_of_outer (outer_visitorHead m l hl),
    fun method _ => uncalled_methodLine m method⟩, by decide⟩

/-! ## 3. The class of a node type -/

theorem inner_propertyLine (member : Member) : Avoids marks.inner (propertyLine member) := by
  simp only [propertyLine, String.append_assoc]
  exact avoids_append (by decide) _

theorem inner_constructorLine (node : NodeType) : Avoids marks.inner (constructorLine node) := by
  simp only [constructorLine, String.append_assoc]
  exact avoids_append (by decide) _

/-- An assignment to `return` is still no call: an equals sign follows. -/
theorem inner_assignmentLine {member : Member} (h : member.SolidNames) :
    Avoids marks.inner (assignmentLine member) := by
  have hcall : starts marks.calls (assignmentLine member) = false := by
    have hcalls : marks.calls = "        " ++ ("return" ++ " " ++ "visitor.") := by decide
    have heq : " = " = " " ++ "= " := by decide
    rw [hcalls]
    simp only [assignmentLine, heq, String.append_assoc]
    rw [starts_append_append, ← String.append_assoc, ← String.append_assoc, ← Bool.not_eq_true,
      starts_word (by decide) (h.accessor.not_mem rfl)]
    intro hstarts
    obtain ⟨_, hs⟩ := hstarts
    rw [Apart.starts_append (by decide)] at hs
    exact absurd hs (by decide)
  have hrest : Avoids [marks.declares, marks.opens, marks.closes] (assignmentLine member) := by
    simp only [assignmentLine, String.append_assoc]
    exact avoids_append (by decide) _
  simp only [Avoids, List.forall_mem_cons] at hrest
  obtain ⟨hdeclares, hrest⟩ := hrest
  simp only [BlockMarks.inner, Avoids, List.forall_mem_cons]
  exact ⟨hdeclares, hcall, hrest⟩

/-- The lines of a class between its head and its call. -/
def beforeCall (m : Module) (node : NodeType) : List String :=
  ["\x7b"]
  ++ node.members.map propertyLine
  ++ (if node.members = [] then [] else [""])
  ++ [constructorLine node,
      "    \x7b"]
  ++ node.members.map assignmentLine
  ++ ["    \x7d",
      "",
      "    public override T Accept<T>(" ++ m.visitor.name ++ "<T> visitor)",
      "    \x7b"]

/-- A class is a block with one call. -/
theorem nodeLines_eq (m : Module) (node : NodeType) :
    nodeLines m node = [""] ++ BlockMarks.block (classLine m node)
      (beforeCall m node ++ callLine node :: ["    \x7d"]) "\x7d" := by
  unfold nodeLines acceptLines beforeCall classLine callLine BlockMarks.block
  simp only [List.append_assoc, List.cons_append, List.nil_append]

theorem inner_beforeCall (m : Module) {node : NodeType} (h : node.SolidNames) :
    ∀ l ∈ beforeCall m node, Avoids marks.inner l := by
  unfold beforeCall
  simp only [List.forall_mem_append]
  refine ⟨⟨⟨⟨⟨?brace, ?properties⟩, ?gap⟩, ?constructor⟩, ?assignments⟩, ?accept⟩
  case brace => decide
  case properties => exact List.forall_mem_map.mpr fun member _ => inner_propertyLine member
  case gap => split <;> decide
  case constructor =>
    rw [List.forall_mem_cons]
    exact ⟨inner_constructorLine node, by decide⟩
  case assignments =>
    exact List.forall_mem_map.mpr fun member hmem => inner_assignmentLine (h.members member hmem)
  case accept =>
    simp only [List.forall_mem_cons, String.append_assoc]
    refine ⟨?_, ?_, avoids_append ?_ _, ?_, ?_⟩ <;> decide

/-- The class of a node type calls its visit method, once. -/
theorem called_nodeLines (m : Module) {node : NodeType} (h : node.SolidNames)
    (rest : List String) :
    marks.called none (nodeLines m node ++ rest)
      = (some (classLine m node), callLine node) :: marks.called none rest := by
  have hempty : ∀ l ∈ [""], Avoids [marks.calls, marks.opens] l := by decide
  have hafter : ∀ l ∈ ["    \x7d"], Avoids marks.inner l := by decide
  rw [nodeLines_eq, List.append_assoc, BlockMarks.called_outer hempty,
    BlockMarks.called_block_call (head_classLine m node) (inner_beforeCall m h)
      (call_callLine node) hafter foot_brace]

/-- The class of a node type declares nothing. -/
theorem declared_nodeLines (m : Module) {node : NodeType} (h : node.SolidNames) :
    marks.declared (nodeLines m node) = [] := by
  have hempty : ∀ l ∈ [""], Avoids marks.outer l := by decide
  have hbody : ∀ l ∈ beforeCall m node ++ callLine node :: ["    \x7d"],
      starts marks.declares l = false := by
    rw [List.forall_mem_append, List.forall_mem_cons]
    exact ⟨fun l hl => BlockMarks.undeclared_of_inner (inner_beforeCall m h l hl),
      (call_callLine node).declares, by decide⟩
  rw [nodeLines_eq, BlockMarks.declared_append, BlockMarks.declared_outer hempty,
    BlockMarks.declared_block (head_classLine m node) hbody foot_brace, List.nil_append]

/-! ## 4. The body -/

/-- **The body declares the visit methods**, each once and in order, and nothing else. -/
theorem declared_bodyLines {m : Module} (h : m.SolidNames) :
    marks.declared (bodyLines m) = m.visitor.methods.map (methodLine m) := by
  have hnodes : marks.declared (m.nodes.flatMap (nodeLines m)) = [] :=
    BlockMarks.declared_flatMap fun node hnode => declared_nodeLines m (h.nodes node hnode)
  unfold bodyLines
  rw [BlockMarks.declared_append, BlockMarks.declared_append,
    BlockMarks.declared_outer (outer_baseLines m), declared_visitorLines, hnodes, List.nil_append,
    List.append_nil]

/-- **The body calls the visit methods**, each once, in order, and in the class of its node type. -/
theorem called_bodyLines {m : Module} (h : m.SolidNames) :
    marks.called none (bodyLines m)
      = m.nodes.map fun node => (some (classLine m node), callLine node) := by
  have hbase : ∀ l ∈ baseLines m, Avoids [marks.calls, marks.opens] l := fun l hl =>
    BlockMarks.uncalled_of_outer (outer_baseLines m l hl)
  unfold bodyLines
  rw [List.append_assoc, BlockMarks.called_outer hbase,
    BlockMarks.called_outer (uncalled_visitorLines m)]
  exact BlockMarks.called_flatMap fun node hnode => called_nodeLines m (h.nodes node hnode)

/-! ## 5. The text -/

section Text

variable {style : CSharp} {m : Module}

theorem outer_headerLines (style : CSharp) :
    ∀ l ∈ style.headerLines.map chomp, Avoids marks.indent.outer l := by
  rw [List.forall_mem_map]
  unfold headerLines
  rw [List.forall_mem_append, List.forall_mem_map]
  constructor
  · intro path _
    rw [String.append_assoc]
    exact (avoids_append (by decide) _).chomp
  · simp only [List.forall_mem_cons]
    refine ⟨(avoids_append ?_ _).chomp, Avoids.chomp ?_, ?_⟩ <;> decide

theorem inner_lastLine : ∀ l ∈ ["\x7d"], Avoids marks.indent.inner l := by decide

theorem proper_marks : marks.Proper := by constructor <;> decide

/-- The block behind the header declares the visit methods, and nothing else. -/
theorem declared_blockLines (h : m.SolidNames) : marks.indent.declared (blockLines m)
    = m.visitor.methods.map fun method => "    " ++ methodLine m method := by
  have hlast : marks.indent.declared ["\x7d"] = [] :=
    BlockMarks.declared_outer fun l hl => BlockMarks.outer_of_inner (inner_lastLine l hl)
  have hindent : ∀ method ∈ m.visitor.methods,
      indentLine 1 (methodLine m method) = "    " ++ methodLine m method := fun method _ =>
    indentLine_one (ne_empty_of_starts proper_marks.declares (declares_methodLine m method))
  rw [blockLines, BlockMarks.declared_append, hlast, BlockMarks.declared_indent proper_marks,
    declared_bodyLines h, List.map_map, List.append_nil]
  exact List.map_congr_left hindent

/-- **The text declares the visit methods**, each once and in order, and nothing else. -/
theorem declared_print (h : m.SolidNames) (hheader : ∀ l ∈ style.headerLines, '\n' ∉ l.toList) :
    marks.indent.declared (lines (style.print m ""))
      = m.visitor.methods.map fun method => "    " ++ methodLine m method := by
  rw [lines_print style h hheader, BlockMarks.declared_append,
    BlockMarks.declared_outer (outer_headerLines style), declared_blockLines h, List.nil_append]

/-- **The text calls the visit methods**, each once, in order, and in the class of its node type. -/
theorem called_print (h : m.SolidNames) (hheader : ∀ l ∈ style.headerLines, '\n' ∉ l.toList) :
    marks.indent.called none (lines (style.print m ""))
      = m.nodes.map fun node => (some ("    " ++ classLine m node), "    " ++ callLine node) := by
  have hhead : ∀ l ∈ style.headerLines.map chomp,
      Avoids [marks.indent.calls, marks.indent.opens] l := fun l hl =>
    BlockMarks.uncalled_of_outer (outer_headerLines style l hl)
  have hbody := BlockMarks.called_indent proper_marks none (bodyLines m)
  rw [Option.map_none, called_bodyLines h, List.map_map] at hbody
  rw [lines_print style h hheader, blockLines, BlockMarks.called_outer hhead,
    BlockMarks.called_append_inner inner_lastLine, hbody]
  refine List.map_congr_left fun node _ => ?_
  have hclass :=
    indentLine_one (ne_empty_of_starts proper_marks.opens (head_classLine m node).opens)
  have hcall := indentLine_one (ne_empty_of_starts proper_marks.calls (call_callLine node).calls)
  simp only [Function.comp_apply, Prod.map_apply, Option.map_some, hclass, hcall]

end Text

end VisitorNodes.CSharp
