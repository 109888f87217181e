import VisitorNodes.Text.Letter

/-!
# The names of generated code

A name that stands in more than one place of a generated module is derived here, so its declaration
and all its uses agree: the visitor interface of a category, the visit method of each variant, and
the accessor of each field.
-/

namespace VisitorNodes.Naming

/-- The identifier with its first character upper-cased and the rest untouched. -/
def capitalize (ident : String) : String := String.ofList (Text.capitalize ident.toList)

/-- The visitor interface of a category: `Expr` has `IExprVisitor`. -/
def visitor (category : String) : String := "I" ++ category ++ "Visitor"

/-- The visit method of a variant: `Binary` of `Expr` has `VisitBinaryExpr`. -/
def visitMethod (variant category : String) : String := "Visit" ++ capitalize variant ++ category

/-- The accessor of a field: `operator` has `Operator`. -/
def accessor (field : String) : String := capitalize field

end VisitorNodes.Naming
