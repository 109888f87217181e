import VisitorNodes.Module
import VisitorNodes.Proofs.Reading
import VisitorNodes.Proofs.Text.Letter
import VisitorNodes.Proofs.Text.LineText
/-!
# The names of a module hold no blanks

Printers copy the names of a module into their texts. For the module of a category that was read,
no name holds a blank (`solidNames_toModule`): the words of the grammar do not, and derived names
are made of them. So no name can break a line or carry a space into it.
-/

namespace VisitorNodes

open Grammar Text

/-- A member of solid names. -/
structure Member.SolidNames (member : Member) : Prop where
  type : Solid member.type.toList
  param : Solid member.param.toList
  accessor : Solid member.accessor.toList

/-- A visit method of solid names. -/
structure VisitMethod.SolidNames (method : VisitMethod) : Prop where
  name : Solid method.name.toList
  nodeType : Solid method.nodeType.toList

/-- A node type of solid names. -/
structure NodeType.SolidNames (node : NodeType) : Prop where
  name : Solid node.name.toList
  visitMethod : Solid node.visitMethod.toList
  members : ∀ member ∈ node.members, member.SolidNames

/-- A module of solid names. -/
structure Module.SolidNames (m : Module) : Prop where
  base : Solid m.base.toList
  visitor : Solid m.visitor.name.toList
  methods : ∀ method ∈ m.visitor.methods, method.SolidNames
  nodes : ∀ node ∈ m.nodes, node.SolidNames

namespace Naming

theorem solid_capitalize {ident : String} (h : Solid ident.toList) :
    Solid (capitalize ident).toList := by
  unfold capitalize
  rw [String.toList_ofList]
  exact h.capitalize

theorem solid_visitor {category : String} (h : Solid category.toList) :
    Solid (visitor category).toList := by
  unfold visitor
  rw [String.toList_append, String.toList_append, solid_append, solid_append]
  exact ⟨⟨by decide, h⟩, by decide⟩

theorem solid_visitMethod {variant category : String} (hv : Solid variant.toList)
    (hc : Solid category.toList) : Solid (visitMethod variant category).toList := by
  unfold visitMethod
  rw [String.toList_append, String.toList_append, solid_append, solid_append]
  exact ⟨⟨by decide, solid_capitalize hv⟩, hc⟩

end Naming

theorem Member.solidNames_ofField {field : Field} (h : field.WellFormed) :
    (Member.ofField field).SolidNames where
  type := h.type.solid
  param := h.name.solid
  accessor := Naming.solid_capitalize h.name.solid

/-- **No name of a well-formed category's module holds a blank.** -/
theorem Category.solidNames_toModule {c : Category} (h : c.WellFormed) :
    c.toModule.SolidNames where
  base := h.name.solid
  visitor := Naming.solid_visitor h.name.solid
  methods method hm := by
    obtain ⟨v, hv, rfl⟩ := List.mem_map.mp hm
    have hname := (h.variants v hv).name.solid
    exact ⟨Naming.solid_visitMethod hname h.name.solid, hname⟩
  nodes node hn := by
    obtain ⟨v, hv, rfl⟩ := List.mem_map.mp hn
    have hname := (h.variants v hv).name.solid
    refine ⟨hname, Naming.solid_visitMethod hname h.name.solid, fun member hmem => ?_⟩
    obtain ⟨f, hf, rfl⟩ := List.mem_map.mp hmem
    exact Member.solidNames_ofField ((h.variants v hv).fields f hf)

end VisitorNodes
