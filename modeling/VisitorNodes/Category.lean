import VisitorNodes.Grammar.Source

/-!
# Categories

A category is a named family of node variants, such as the expressions of a language. Its name must
not be empty or hold a blank, and all its lines must be well formed: a category is read as a whole
or rejected, and the name is looked at before any line.

Names that occur twice are kept as they are. Each occurrence after the first is reported, variant by
variant: the variant's own name, then the names of its fields.
-/

namespace VisitorNodes

open Grammar Text

/-- A category and its variants in the order of the grammar. -/
structure Category where
  name : String
  variants : List Variant
  deriving Repr, DecidableEq

/-! ## 1. Rejections -/

/-- Why a category was not read. -/
inductive Rejection where
  | invalidName (name : String)
  | malformed (category : String) (line : MalformedLine)
  deriving Repr, DecidableEq

namespace Rejection

/-- The report of a rejection. That of a malformed line goes on with the line's own. -/
def message : Rejection → String
  | .invalidName name => "invalid category name " ++ quoted name
  | .malformed category line => "failed to generate `" ++ category ++ "`: " ++ line.message

/-- The malformed line that a rejection goes back to. -/
def cause? : Rejection → Option MalformedLine
  | .invalidName _ => none
  | .malformed _ line => some line

/-- The grammar line that a rejection goes back to, if there is one. -/
def line? (r : Rejection) : Option String := r.cause?.map (·.line)

end Rejection

/-! ## 2. Duplicate names -/

namespace Category

/-- The reports on the fields of a variant, where `seen` are the names of its earlier fields. -/
def fieldWarnings (category variant : String) (seen : List String) : List Field → List Event
  | [] => []
  | field :: fields =>
    (if field.name ∈ seen then [.duplicateField category variant field.name] else [])
      ++ fieldWarnings category variant (field.name :: seen) fields

/-- The reports on variants, where `seen` are the names of the earlier ones. -/
def variantWarnings (category : String) (seen : List String) : List Variant → List Event
  | [] => []
  | variant :: variants =>
    (if variant.name ∈ seen then [.duplicateVariant category variant.name] else [])
      ++ fieldWarnings category variant.name [] variant.fields
      ++ variantWarnings category (variant.name :: seen) variants

/-- The reports on all names of a category that occur again. -/
def warnings (c : Category) : List Event := variantWarnings c.name [] c.variants

/-! ## 3. Reading a category -/

/-- A category name holds something, and no blank. -/
def isName (name : String) : Bool := !name.toList.isEmpty && !name.toList.any isBlank

/-- The category with this name and these grammar lines. -/
def read (name : String) (lines : List String) : Traced (Except Rejection Category) :=
  if isName name then
    (readLines lines).andThen fun
      | .error line => .silent (.error (.malformed name line))
      | .ok variants =>
        let category : Category := ⟨name, variants⟩
        ⟨.ok category, category.warnings⟩
  else .silent (.error (.invalidName name))

end Category

end VisitorNodes
