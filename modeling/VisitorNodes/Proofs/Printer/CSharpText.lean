import VisitorNodes.Printer.CSharp
import VisitorNodes.Proofs.Printer.SolidNames
/-!
# The lines of a C# text

The body of a C# text is written, read back as lines and written again one step to the right. With
solid names no line of the body is broken by that (`unbroken_bodyLines`), so the whole text is the
header, the body's lines moved by one step, and the closing brace (`print_eq`).
-/

namespace VisitorNodes.CSharp

open Text

/-- Escaping a name brings in an `@` only. -/
theorem mem_identifier {name : String} {c : Char} (h : c ∈ (identifier name).toList) :
    c ∈ name.toList ∨ c ∈ "@".toList := by
  unfold identifier at h
  split at h
  · rw [String.toList_append, List.mem_append] at h
    exact h.symm
  · exact .inl h

/-- Names of one escaped form are the same, or one is the other written verbatim. -/
theorem eq_of_identifier_eq {a b : String} (e : identifier a = identifier b) :
    a = b ∨ (a ∈ keywords ∧ b = "@" ++ a) ∨ (b ∈ keywords ∧ a = "@" ++ b) := by
  unfold identifier at e
  split at e <;> split at e
  case isTrue.isTrue => exact .inl ((String.append_right_inj "@").mp e)
  case isTrue.isFalse ha _ => exact .inr (.inl ⟨ha, e.symm⟩)
  case isFalse.isTrue hb => exact .inr (.inr ⟨hb, e⟩)
  case isFalse.isFalse => exact .inl e

theorem solid_identifier {name : String} (h : Solid name.toList) :
    Solid (identifier name).toList := by
  have hat : Solid "@".toList := by decide
  exact fun c hc => (mem_identifier hc).elim (h c) (hat c)

theorem solid_visitorParam {m : Module} (h : m.SolidNames) : Solid (visitorParam m).toList := by
  refine solid_identifier ?_
  rw [String.toList_ofList]
  exact h.base.lowerCamelCase

section Lines

variable {m : Module}

theorem unbroken_baseLines (h : m.SolidNames) : ∀ l ∈ baseLines m, Unbroken l := by
  have hb := unbroken_of_solid h.base
  have hv := unbroken_of_solid h.visitor
  simp only [baseLines, List.forall_mem_cons, unbroken_append]
  refine ⟨⟨?_, hb⟩, ?_, ⟨⟨?_, hv⟩, ?_⟩, ?_, ?_⟩ <;> decide

theorem unbroken_methodLine (h : m.SolidNames) {method : VisitMethod} (hm : method.SolidNames) :
    Unbroken (methodLine m method) := by
  have hn := unbroken_of_solid hm.name
  have ht := unbroken_of_solid hm.nodeType
  have hp := unbroken_of_solid (solid_visitorParam h)
  simp only [methodLine, unbroken_append]
  refine ⟨⟨⟨⟨⟨⟨?_, hn⟩, ?_⟩, ht⟩, ?_⟩, hp⟩, ?_⟩ <;> decide

theorem unbroken_visitorLines (h : m.SolidNames) : ∀ l ∈ visitorLines m, Unbroken l := by
  have hv := unbroken_of_solid h.visitor
  have hm : ∀ method ∈ m.visitor.methods, Unbroken (methodLine m method) := fun method hmem =>
    unbroken_methodLine h (h.methods method hmem)
  simp only [visitorLines, List.forall_mem_append, List.forall_mem_cons, List.forall_mem_map,
    unbroken_append]
  refine ⟨⟨⟨?_, ⟨⟨?_, hv⟩, ?_⟩, ?_, ?_⟩, hm⟩, ?_, ?_⟩ <;> decide

theorem unbroken_propertyLine {member : Member} (h : member.SolidNames) :
    Unbroken (propertyLine member) := by
  have ht := unbroken_of_solid h.type
  have ha := unbroken_of_solid h.accessor
  simp only [propertyLine, unbroken_append]
  refine ⟨⟨⟨⟨?_, ht⟩, ?_⟩, ha⟩, ?_⟩ <;> decide

theorem unbroken_param {member : Member} (h : member.SolidNames) : Unbroken (param member) := by
  have ht := unbroken_of_solid h.type
  have hp := unbroken_of_solid (solid_identifier h.param)
  simp only [param, unbroken_append]
  exact ⟨⟨ht, by decide⟩, hp⟩

theorem unbroken_constructorLine {node : NodeType} (h : node.SolidNames) :
    Unbroken (constructorLine node) := by
  have hn := unbroken_of_solid h.name
  have hp : Unbroken (", ".intercalate (node.members.map param)) :=
    unbroken_intercalate (by decide) (List.forall_mem_map.mpr fun member hmem =>
      unbroken_param (h.members member hmem))
  simp only [constructorLine, unbroken_append]
  refine ⟨⟨⟨⟨?_, hn⟩, ?_⟩, hp⟩, ?_⟩ <;> decide

theorem unbroken_assignmentLine {member : Member} (h : member.SolidNames) :
    Unbroken (assignmentLine member) := by
  have ha := unbroken_of_solid h.accessor
  have hp := unbroken_of_solid (solid_identifier h.param)
  simp only [assignmentLine, unbroken_append]
  refine ⟨⟨⟨⟨?_, ha⟩, ?_⟩, hp⟩, ?_⟩ <;> decide

theorem unbroken_acceptLines (h : m.SolidNames) {node : NodeType} (hn : node.SolidNames) :
    ∀ l ∈ acceptLines m node, Unbroken l := by
  have hv := unbroken_of_solid h.visitor
  have hm := unbroken_of_solid hn.visitMethod
  simp only [acceptLines, List.forall_mem_cons, unbroken_append]
  refine ⟨?_, ⟨⟨?_, hv⟩, ?_⟩, ?_, ⟨⟨?_, hm⟩, ?_⟩, ?_, ?_, ?_⟩ <;> decide

theorem unbroken_nodeLines (h : m.SolidNames) {node : NodeType} (hn : node.SolidNames) :
    ∀ l ∈ nodeLines m node, Unbroken l := by
  have hname := unbroken_of_solid hn.name
  have hbase := unbroken_of_solid h.base
  unfold nodeLines
  simp only [List.forall_mem_append]
  refine ⟨⟨⟨⟨⟨⟨?head, ?properties⟩, ?gap⟩, ?constructor⟩, ?assignments⟩, ?foot⟩,
    unbroken_acceptLines h hn⟩
  case head =>
    simp only [List.forall_mem_cons, unbroken_append]
    refine ⟨?_, ⟨⟨⟨?_, hname⟩, ?_⟩, hbase⟩, ?_, ?_⟩ <;> decide
  case properties =>
    exact List.forall_mem_map.mpr fun member hmem =>
      unbroken_propertyLine (hn.members member hmem)
  case gap => split <;> decide
  case constructor =>
    rw [List.forall_mem_cons]
    exact ⟨unbroken_constructorLine hn, by decide⟩
  case assignments =>
    exact List.forall_mem_map.mpr fun member hmem =>
      unbroken_assignmentLine (hn.members member hmem)
  case foot => decide

/-- **No line of the body is broken** when it is read back. -/
theorem unbroken_bodyLines (h : m.SolidNames) : ∀ l ∈ bodyLines m, Unbroken l := by
  unfold bodyLines
  rw [List.forall_mem_append, List.forall_mem_append]
  refine ⟨⟨unbroken_baseLines h, unbroken_visitorLines h⟩, fun l hl => ?_⟩
  obtain ⟨node, hnode, hl⟩ := List.mem_flatMap.mp hl
  exact unbroken_nodeLines h (h.nodes node hnode) l hl

end Lines

/-- All lines of a text: the header, the body moved by one step, the closing brace. -/
def textLines (style : CSharp) (m : Module) : List String :=
  style.headerLines ++ (bodyLines m).map (indentLine 1) ++ ["\x7d"]

/-- **The text is written line by line.** -/
theorem print_eq (style : CSharp) {m : Module} (h : m.SolidNames) (out : String) :
    style.print m out = pushLines out (style.textLines m) := by
  unfold print textLines
  simp only [pushIndented, lines_pushLines_unbroken (unbroken_bodyLines h), pushLines_append]
  rfl

/-- The lines behind the header: the body moved by one step, and the closing brace. -/
def blockLines (m : Module) : List String := (bodyLines m).map (indentLine 1) ++ ["\x7d"]

theorem unbroken_blockLines {m : Module} (h : m.SolidNames) : ∀ l ∈ blockLines m, Unbroken l := by
  unfold blockLines
  rw [List.forall_mem_append, List.forall_mem_map]
  exact ⟨fun l hl => unbroken_indentLine (unbroken_bodyLines h l hl), by decide⟩

/-- **The text is a header, which only the set-up decides, and the block behind it.** -/
theorem print_eq_header_append (style : CSharp) {m : Module} (h : m.SolidNames) :
    style.print m "" = pushLines "" style.headerLines ++ pushLines "" (blockLines m) := by
  rw [print_eq style h, textLines, List.append_assoc, pushLines_append, pushLines_eq_append]
  rfl

/-- Behind the header, the lines of the text come back as they were written. -/
theorem lines_print (style : CSharp) {m : Module} (h : m.SolidNames)
    (hheader : ∀ l ∈ style.headerLines, '\n' ∉ l.toList) :
    lines (style.print m "") = style.headerLines.map chomp ++ blockLines m := by
  have htext : style.textLines m = style.headerLines ++ blockLines m :=
    List.append_assoc _ _ _
  have hnl : ∀ l ∈ style.textLines m, '\n' ∉ l.toList := by
    rw [htext, List.forall_mem_append]
    exact ⟨hheader, fun l hl hc => (unbroken_blockLines h l hl '\n' hc).1 rfl⟩
  have hchomp : (blockLines m).map chomp = (blockLines m).map id :=
    List.map_congr_left fun l hl => chomp_of_unbroken (unbroken_blockLines h l hl)
  rw [print_eq style h, lines_pushLines hnl, htext, List.map_append, hchomp, List.map_id]

/-- A header of lines without line feeds, if what is imported and named has none. -/
theorem headerLines_unfed {style : CSharp} (hn : '\n' ∉ style.namespaceName.toList)
    (hu : ∀ path ∈ style.usings, '\n' ∉ path.toList) :
    ∀ l ∈ style.headerLines, '\n' ∉ l.toList := by
  unfold headerLines
  rw [List.forall_mem_append, List.forall_mem_map]
  refine ⟨fun path hp => ?_, ?_⟩
  · have hpath := hu path hp
    simp only [String.toList_append, List.mem_append, not_or]
    refine ⟨⟨?_, hpath⟩, ?_⟩ <;> decide
  · simp only [List.forall_mem_cons, String.toList_append, List.mem_append, not_or]
    refine ⟨⟨?_, hn⟩, ?_, ?_⟩ <;> decide

end VisitorNodes.CSharp
