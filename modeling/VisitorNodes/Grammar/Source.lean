import VisitorNodes.Grammar.Variant
import VisitorNodes.Text.Lines
import VisitorNodes.Event

/-!
# The lines of a grammar

A grammar is read line by line, one variant a line, and stops at the first malformed line. Lines
are numbered from 1. Each line that is read is reported, also when a later one is malformed.
-/

namespace VisitorNodes.Grammar

open Text

/-- A line with a defect, and where it stands. -/
structure MalformedLine where
  number : Nat
  line : String
  defect : Defect
  deriving Repr, DecidableEq

/-- The report of a malformed line: its number and defect, and the line itself below. -/
def MalformedLine.message (m : MalformedLine) : String :=
  "line " ++ toString m.number ++ ": " ++ m.defect.message ++ "\n  " ++ quoted m.line

/-- The variant of the line with this number, reported if there is one. -/
def readLine (number : Nat) (line : String) : Traced (Except MalformedLine Variant) :=
  match Variant.parse line with
  | .error defect => .silent (.error ⟨number, line, defect⟩)
  | .ok variant => ⟨.ok variant, [.parsedVariant variant.name variant.fields.length]⟩

/-- The variants of lines numbered from `number`, up to the first malformed one. -/
def readLinesFrom (number : Nat) : List String → Traced (Except MalformedLine (List Variant))
  | [] => .silent (.ok [])
  | line :: lines =>
    (readLine number line).andThen fun
      | .error malformed => .silent (.error malformed)
      | .ok variant =>
        (readLinesFrom (number + 1) lines).andThen fun rest =>
          .silent (rest.map (variant :: ·))

/-- The variants of the lines of a grammar. -/
def readLines (lines : List String) : Traced (Except MalformedLine (List Variant)) :=
  readLinesFrom 1 lines

/-- The variants of a grammar given as one text. -/
def readSource (source : String) : Traced (Except MalformedLine (List Variant)) :=
  readLines (lines source)

end VisitorNodes.Grammar
