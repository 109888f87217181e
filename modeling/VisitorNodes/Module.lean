import VisitorNodes.Category
import VisitorNodes.Naming

/-!
# Modules

A module is what is generated for one category, with every name already derived: a base type, a
visitor interface and one node type per variant. Printers only copy names out of it, so two printers
agree on all of them.
-/

namespace VisitorNodes

open Grammar

/-- A method of the visitor interface and the node type that it takes. -/
structure VisitMethod where
  name : String
  nodeType : String
  deriving Repr, DecidableEq

/-- The visitor interface, with one method per variant. -/
structure Visitor where
  name : String
  methods : List VisitMethod
  deriving Repr, DecidableEq

/-- A field of a node type: the declared type, verbatim, the parameter that sets it, which is the
name in the grammar, and the accessor that reads it. -/
structure Member where
  type : String
  param : String
  accessor : String
  deriving Repr, DecidableEq

/-- The type of one variant. `visitMethod` is what it calls when it accepts a visitor. -/
structure NodeType where
  name : String
  visitMethod : String
  members : List Member
  deriving Repr, DecidableEq

/-- A generated module. `base` is the name of the base type. -/
structure Module where
  base : String
  visitor : Visitor
  nodes : List NodeType
  deriving Repr, DecidableEq

/-! ## From a category to its module -/

/-- The member of a field. -/
def Member.ofField (field : Field) : Member :=
  ⟨field.type, field.name, Naming.accessor field.name⟩

/-- The visit method of a variant. -/
def VisitMethod.ofVariant (category : String) (variant : Variant) : VisitMethod :=
  ⟨Naming.visitMethod variant.name category, variant.name⟩

/-- The node type of a variant. -/
def NodeType.ofVariant (category : String) (variant : Variant) : NodeType :=
  ⟨variant.name, Naming.visitMethod variant.name category, variant.fields.map Member.ofField⟩

/-- The module of a category name and its variants, in their order. -/
def Module.ofVariants (category : String) (variants : List Variant) : Module where
  base := category
  visitor := ⟨Naming.visitor category, variants.map (VisitMethod.ofVariant category)⟩
  nodes := variants.map (NodeType.ofVariant category)

/-- The module of a category. -/
def Category.toModule (c : Category) : Module := Module.ofVariants c.name c.variants

end VisitorNodes
