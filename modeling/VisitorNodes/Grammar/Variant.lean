import VisitorNodes.Text.Blank
import VisitorNodes.Text.Cut
import VisitorNodes.Text.Quoted

/-!
# One grammar line

A line describes one node variant of a category:

```
Name : Type field, Type field, ...
```

This file holds what such a line says (`Variant`), what can be wrong with it (`Defect`), and its
reading. The name and every entry are trimmed. A type and a field name are separated by exactly one
space and hold no blank. A blank field list is a variant without fields. Anything else is a defect,
there is no recovery, and of several defects the first in this order is reported: the colons, the
name, the entries from left to right.
-/

namespace VisitorNodes.Grammar

open Text

/-! ## 1. What a line says -/

/-- A field: its type, verbatim, and its name. -/
structure Field where
  type : String
  name : String
  deriving Repr, DecidableEq

/-- A variant: its name and its fields in the order of the line. -/
structure Variant where
  name : String
  fields : List Field
  deriving Repr, DecidableEq

/-! ## 2. What can be wrong with a line -/

/-- The defects, in the order in which they are looked for. -/
inductive Defect where
  | missingColon
  | extraColon
  | emptyName
  /-- The name has a blank inside. -/
  | spacedName (name : String)
  /-- Nothing stands between two commas, or at an end of the list. -/
  | emptyEntry
  /-- The entry has no space, so it lacks a type or a name. -/
  | loneEntry (entry : String)
  /-- The entry has more than a type, one space and a name. -/
  | crowdedEntry (entry : String)
  deriving Repr, DecidableEq

namespace Defect

/-- A defect in words. -/
def message : Defect → String
  | .missingColon => "missing `:` between variant name and fields"
  | .extraColon => "unexpected second `:`"
  | .emptyName => "empty variant name"
  | .spacedName name => "variant name " ++ quoted name ++ " contains whitespace"
  | .emptyEntry => "empty field entry"
  | .loneEntry entry => "field " ++ quoted entry ++ " is missing a type or a name"
  | .crowdedEntry entry => "field " ++ quoted entry ++ " must be exactly `Type name`"

/-- The part of the line that the defect blames, if it names one. -/
def blamed? : Defect → Option String
  | .spacedName name => some name
  | .loneEntry entry => some entry
  | .crowdedEntry entry => some entry
  | _ => none

end Defect

/-! ## 3. Reading a line -/

/-- The field that an entry of the list describes. -/
def Field.parse (entry : List Char) : Except Defect Field :=
  let entry := trim entry
  if entry = [] then .error .emptyEntry
  else
    match cut ' ' entry with
    | none => .error (.loneEntry (.ofList entry))
    | some (type, name) =>
      if type.any isBlank || name.isEmpty || name.any isBlank then
        .error (.crowdedEntry (.ofList entry))
      else .ok ⟨.ofList type, .ofList name⟩

/-- The fields of all entries, or the defect of the first that has one. -/
def Field.parseAll : List (List Char) → Except Defect (List Field)
  | [] => .ok []
  | entry :: entries =>
    match Field.parse entry with
    | .error defect => .error defect
    | .ok field => (Field.parseAll entries).map (field :: ·)

/-- The fields that the part of a line behind the colon lists. -/
def Field.parseList (list : List Char) : Except Defect (List Field) :=
  let list := trim list
  if list = [] then .ok [] else Field.parseAll (list.splitOn ',')

/-- The name that the part of a line before the colon holds. -/
def Variant.parseName (part : List Char) : Except Defect String :=
  let name := trim part
  if name = [] then .error .emptyName
  else if name.any isBlank then .error (.spacedName (.ofList name))
  else .ok (.ofList name)

/-- **The variant that a line describes, or its first defect.** -/
def Variant.parse (line : String) : Except Defect Variant :=
  match cut ':' line.toList with
  | none => .error .missingColon
  | some (before, after) =>
    if ':' ∈ after then .error .extraColon
    else
      match Variant.parseName before with
      | .error defect => .error defect
      | .ok name => (Field.parseList after).map (⟨name, ·⟩)

example : Variant.parse " Unary :Token op , Expr right" =
    .ok ⟨"Unary", [⟨"Token", "op"⟩, ⟨"Expr", "right"⟩]⟩ := by rfl

example : Variant.parse "Nil : " = .ok ⟨"Nil", []⟩ := by rfl

example : Variant.parse "A : T, U  u" = .error (.loneEntry "T") := by rfl

end VisitorNodes.Grammar
