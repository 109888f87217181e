import VisitorNodes.Proofs.Printer.BareNames
import VisitorNodes.Proofs.Printer.CSharpText
/-!
# The nesting of a C# text

The base type, the visitor and every node type are blocks of their own, each as deep as it is nested
when it stands alone (`nests_bodyLines`). The namespace opens one block around them, and its body is
moved by one step, so the whole text is laid out (`laidOut_print`).

Only imports may bring other braces, and then have to close what they open.
-/

namespace VisitorNodes.CSharp

open Text

variable {m : Module}

/-! ## 1. Names -/

theorem braceless_identifier {name : String} (h : Braceless name) :
    Braceless (identifier name) := by
  have hat : Braceless "@" := by decide
  exact fun c hc => (mem_identifier hc).elim (h c) (hat c)

theorem braceless_visitorParam (h : m.BareNames) : Braceless (visitorParam m) := by
  refine braceless_identifier (braceless_of_marks h.base fun mark hm hc => ?_)
  rw [String.toList_ofList] at hc
  exact mem_of_mem_lowerCamelCase hm hc

/-! ## 2. The base type and the visitor -/

theorem nests_baseLines (h : m.BareNames) : Nests 0 (baseLines m) 0 := by
  have hclass : Front 0 ("public abstract class " ++ m.base) := .append (by decide) h.base
  have haccept : Front 1 ("    public abstract T Accept<T>(" ++ m.visitor.name
      ++ "<T> visitor);") := .append (.append (by decide) h.visitor) (by decide)
  exact .cons hclass.line (.cons (by decide) (.cons haccept.line (.cons (by decide) (.nil 0))))

theorem front_methodLine (h : m.BareNames) {method : VisitMethod} (hm : method.BareNames) :
    Front 1 (methodLine m method) := by
  have hp := braceless_visitorParam h
  have htype : Front 1 ("    T " ++ method.name ++ "(" ++ method.nodeType) :=
    .append (.append (.append (by decide) hm.name) (by decide)) hm.nodeType
  exact .append (.append (.append htype (by decide)) hp) (by decide)

theorem nests_visitorLines (h : m.BareNames) : Nests 0 (visitorLines m) 0 := by
  have hhead : Front 0 ("public interface " ++ m.visitor.name ++ "<T>") :=
    .append (.append (by decide) h.visitor) (by decide)
  have hmethods : Nests 1 (m.visitor.methods.map (methodLine m)) 1 :=
    .map fun method hm => (front_methodLine h (h.methods method hm)).line
  have hopen : Nests 0 ["", "public interface " ++ m.visitor.name ++ "<T>", "\x7b"] 1 :=
    .cons (by decide) (.cons hhead.line (.single (by decide)))
  exact (hopen.append hmethods).append (.single (by decide))

/-! ## 3. The class of a node type -/

/-- A property opens a block and closes it. -/
theorem leads_propertyLine {member : Member} (h : member.BareNames) :
    Leads 1 (propertyLine member) 1 := by
  unfold propertyLine
  refine Front.leads (.append (.append (.append ?_ h.type) ?_) h.accessor) ?_ <;> decide

theorem braceless_param {member : Member} (h : member.BareNames) : Braceless (param member) := by
  have hp := braceless_identifier h.param
  unfold param
  rw [braceless_append, braceless_append]
  exact ⟨⟨h.type, by decide⟩, hp⟩

theorem front_constructorLine {node : NodeType} (h : node.BareNames) :
    Front 1 (constructorLine node) := by
  have hparams : Braceless (", ".intercalate (node.members.map param)) :=
    braceless_intercalate (by decide) (List.forall_mem_map.mpr fun member hmem =>
      braceless_param (h.members member hmem))
  unfold constructorLine
  refine .append (.append (.append (.append ?_ h.name) ?_) hparams) ?_ <;> decide

theorem front_assignmentLine {member : Member} (hs : member.SolidNames) (h : member.BareNames) :
    Front 2 (assignmentLine member) := by
  -- only white space comes before the accessor, so its first character decides
  have hname : Front 2 (indentation 2 ++ member.accessor) :=
    .name h.accessor_ne hs.accessor h.accessor 2
  have hp := braceless_identifier h.param
  unfold assignmentLine
  rw [show "        " = indentation 2 from by decide]
  refine .append (.append (.append hname ?_) hp) ?_ <;> decide

theorem nests_acceptLines (h : m.BareNames) {node : NodeType} (hn : node.BareNames) :
    Nests 1 (acceptLines m node) 0 := by
  have haccept : Front 1 ("    public override T Accept<T>(" ++ m.visitor.name
      ++ "<T> visitor)") := .append (.append (by decide) h.visitor) (by decide)
  have hcall : Front 2 ("        return visitor." ++ node.visitMethod ++ "(this);") :=
    .append (.append (by decide) hn.visitMethod) (by decide)
  have hfoot : Leads 2 "    \x7d" 1 := by decide
  exact .cons (by decide) (.cons haccept.line (.cons (by decide) (.cons hcall.line
    (.cons hfoot (.single (by decide))))))

theorem nests_nodeLines (h : m.BareNames) {node : NodeType} (hs : node.SolidNames)
    (hn : node.BareNames) : Nests 0 (nodeLines m node) 0 := by
  have hclass : Front 0 ("public class " ++ node.name ++ " : " ++ m.base) :=
    .append (.append (.append (by decide) hn.name) (by decide)) h.base
  have hhead : Nests 0 ["", "public class " ++ node.name ++ " : " ++ m.base, "\x7b"] 1 :=
    .cons (by decide) (.cons hclass.line (.single (by decide)))
  have hproperties : Nests 1 (node.members.map propertyLine) 1 :=
    .map fun member hmem => leads_propertyLine (hn.members member hmem)
  have hgap : Nests 1 (if node.members = [] then [] else [""]) 1 := by
    split
    · exact .nil 1
    · exact .single (by decide)
  have hconstructor : Nests 1 [constructorLine node, "    \x7b"] 2 :=
    .cons (front_constructorLine hn).line (.single (by decide))
  have hassignments : Nests 2 (node.members.map assignmentLine) 2 :=
    .map fun member hmem =>
      (front_assignmentLine (hs.members member hmem) (hn.members member hmem)).line
  have hfoot : Nests 2 ["    \x7d"] 1 := .single (by decide)
  exact (((((hhead.append hproperties).append hgap).append hconstructor).append
    hassignments).append hfoot).append (nests_acceptLines h hn)

/-- **The body of the namespace closes all it opens.** -/
theorem nests_bodyLines (hs : m.SolidNames) (h : m.BareNames) : Nests 0 (bodyLines m) 0 := by
  have hnodes : Nests 0 (m.nodes.flatMap (nodeLines m)) 0 := .flatMap fun node hn =>
    nests_nodeLines h (hs.nodes node hn) (h.nodes node hn)
  exact ((nests_baseLines h).append (nests_visitorLines h)).append hnodes

/-! ## 4. The text -/

/-- A set-up that breaks no line and brings braces only by imports that close what they open. -/
structure Tidy (style : CSharp) : Prop where
  namespaceUnfed : '\n' ∉ style.namespaceName.toList
  namespaceBraceless : Braceless style.namespaceName
  usingsUnfed : ∀ path ∈ style.usings, '\n' ∉ path.toList
  usingsBalanced : ∀ path ∈ style.usings, opens path = closes path

/-- The header opens the namespace. -/
theorem nests_headerLines {style : CSharp} (h : style.Tidy) :
    Nests 0 (style.headerLines.map chomp) 1 := by
  have husings : Nests 0 (style.usings.map fun path => chomp ("using " ++ path ++ ";")) 0 :=
    .naming (by decide) (by decide) (by decide) h.usingsBalanced
  have hnamespace : Leads 0 (chomp ("namespace " ++ style.namespaceName)) 0 := by
    have hb := h.namespaceBraceless
    exact Front.leads_chomp (by decide) (by decide) (by rw [Turns, hb.opens_eq, hb.closes_eq])
  unfold headerLines
  rw [List.map_append, List.map_map]
  exact husings.append (.cons hnamespace (.single (by decide)))

/-- **A C# text is laid out.** -/
theorem laidOut_print {style : CSharp} (hstyle : style.Tidy) (hs : m.SolidNames)
    (h : m.BareNames) : LaidOut (lines (style.print m "")) := by
  have hbody : Nests 1 ((bodyLines m).map (indentLine 1)) 1 := (nests_bodyLines hs h).indent
  have hclose : Nests 1 ["\x7d"] 0 := .single (by decide)
  rw [lines_print style hs (headerLines_unfed hstyle.namespaceUnfed hstyle.usingsUnfed)]
  exact ((nests_headerLines hstyle).append (hbody.append hclose)).laidOut

end VisitorNodes.CSharp
