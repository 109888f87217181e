import VisitorNodes.Module
import VisitorNodes.Proofs.Reading
import VisitorNodes.Proofs.Text.Letter
import VisitorNodes.Proofs.Text.Nesting
/-!
# The names of a module hold no braces

The words of a grammar may hold braces, and then they stand in the generated text as well. A
category whose words hold none (`Category.Bare`) has a module whose names hold none
(`bareNames_toModule`): no case mapping makes a brace out of another character. Lines begin with some
of these names, so it matters that they hold something.
-/

namespace VisitorNodes

open Grammar Text

/-- A category without braces in the texts that it was read from. -/
structure Category.Bare (c : Category) : Prop where
  name : Braceless c.name
  variants : ∀ v ∈ c.variants, Braceless v.name ∧
    ∀ f ∈ v.fields, Braceless f.type ∧ Braceless f.name

/-- A member of names without braces. -/
structure Member.BareNames (member : Member) : Prop where
  type : Braceless member.type
  param : Braceless member.param
  accessor : Braceless member.accessor
  accessor_ne : member.accessor.toList ≠ []

/-- A visit method of names without braces. -/
structure VisitMethod.BareNames (method : VisitMethod) : Prop where
  name : Braceless method.name
  nodeType : Braceless method.nodeType

/-- A node type of names without braces. -/
structure NodeType.BareNames (node : NodeType) : Prop where
  name : Braceless node.name
  name_ne : node.name.toList ≠ []
  visitMethod : Braceless node.visitMethod
  members : ∀ member ∈ node.members, member.BareNames

/-- A module of names without braces. -/
structure Module.BareNames (m : Module) : Prop where
  base : Braceless m.base
  base_ne : m.base.toList ≠ []
  visitor : Braceless m.visitor.name
  methods : ∀ method ∈ m.visitor.methods, method.BareNames
  nodes : ∀ node ∈ m.nodes, node.BareNames

/-- Braces are marks: a text whose marks come from a name without braces has none. -/
theorem braceless_of_marks {text name : String} (h : Braceless name)
    (hm : ∀ mark, IsMark mark → mark ∈ text.toList → mark ∈ name.toList) :
    Braceless text := by
  intro c hc
  constructor
  · rintro rfl
    exact (h _ (hm _ (by decide) hc)).1 rfl
  · rintro rfl
    exact (h _ (hm _ (by decide) hc)).2 rfl

namespace Naming

theorem braceless_capitalize {ident : String} (h : Braceless ident) :
    Braceless (capitalize ident) := by
  refine braceless_of_marks h fun mark hm hc => ?_
  unfold capitalize at hc
  rw [String.toList_ofList] at hc
  exact mem_of_mem_capitalize hm hc

theorem braceless_visitor {category : String} (h : Braceless category) :
    Braceless (visitor category) := by
  unfold visitor
  rw [braceless_append, braceless_append]
  exact ⟨⟨by decide, h⟩, by decide⟩

theorem braceless_visitMethod {variant category : String} (hv : Braceless variant)
    (hc : Braceless category) : Braceless (visitMethod variant category) := by
  unfold visitMethod
  rw [braceless_append, braceless_append]
  exact ⟨⟨by decide, braceless_capitalize hv⟩, hc⟩

end Naming

theorem Member.bareNames_ofField {field : Field} (h : field.WellFormed)
    (ht : Braceless field.type) (hn : Braceless field.name) : (Member.ofField field).BareNames where
  type := ht
  param := hn
  accessor := Naming.braceless_capitalize hn
  accessor_ne := by
    unfold ofField Naming.accessor Naming.capitalize
    rw [String.toList_ofList]
    exact capitalize_ne_nil h.name.ne

/-- **No name of the module holds a brace if no word of the category does.** -/
theorem Category.bareNames_toModule {c : Category} (h : c.WellFormed) (hb : c.Bare) :
    c.toModule.BareNames where
  base := hb.name
  base_ne := h.name.ne
  visitor := Naming.braceless_visitor hb.name
  methods method hm := by
    obtain ⟨v, hv, rfl⟩ := List.mem_map.mp hm
    obtain ⟨hname, _⟩ := hb.variants v hv
    exact ⟨Naming.braceless_visitMethod hname hb.name, hname⟩
  nodes node hn := by
    obtain ⟨v, hv, rfl⟩ := List.mem_map.mp hn
    obtain ⟨hname, hfields⟩ := hb.variants v hv
    refine ⟨hname, (h.variants v hv).name.ne, Naming.braceless_visitMethod hname hb.name,
      fun member hmem => ?_⟩
    obtain ⟨f, hf, rfl⟩ := List.mem_map.mp hmem
    obtain ⟨htype, hfield⟩ := hfields f hf
    exact Member.bareNames_ofField ((h.variants v hv).fields f hf) htype hfield

end VisitorNodes
