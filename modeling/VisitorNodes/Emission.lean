import VisitorNodes.Target

/-!
# Emission: grammar lines in, the text of one module out

Nothing is printed unless the whole category was read. The text is the module printed into an empty
buffer, and its completion is reported last.
-/

namespace VisitorNodes

open Text

/-- The text generated for a category from its grammar lines. -/
def emit (printer : Printer) (category : String) (lines : List String) :
    Traced (Except Rejection String) :=
  (Category.read category lines).andThen fun
    | .error rejection => .silent (.error rejection)
    | .ok c =>
      let m := c.toModule
      let text := printer.print m ""
      ⟨.ok text, [.emittedModule c.name m.nodes.length text.utf8ByteSize]⟩

/-- The text generated for a category from a grammar given as one text. -/
def emitSource (printer : Printer) (category source : String) : Traced (Except Rejection String) :=
  emit printer category (lines source)

end VisitorNodes
