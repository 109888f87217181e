import VisitorNodes.Event

/-!
# Filters of events

A filter holds rules. A rule is about the components whose names begin in a given way, or only
about those of their events that carry a given value, and admits events down to a level. Of the
rules about an event the most specific one decides, whatever the others say; an event that no rule
is about is not admitted.
-/

namespace VisitorNodes

/-! ## 1. Rules -/

/-- The number of levels down to and with this one. -/
def Level.depth : Level → Nat
  | .error => 1
  | .warn => 2
  | .info => 3
  | .debug => 4

/-- What an event carries, by name: its message and its values. -/
def Event.fields (e : Event) : List String := "message" :: e.values.map (·.1)

/-- A rule on the components whose names begin with `component`, and if there is a field only on
their events that carry it: the first `depth` levels are admitted, none at 0, errors at 1, and all
from 4 on. -/
structure LogRule where
  component : String
  field? : Option String
  depth : Nat
  deriving Repr, DecidableEq

namespace LogRule

/-- The rule that all components are admitted down to a level. -/
def all (depth : Nat) : LogRule := ⟨"", none, depth⟩

/-- Whether the rule is about an event. -/
def covers (r : LogRule) (e : Event) : Bool :=
  r.component.toList.isPrefixOf e.component.toList && r.field?.all (· ∈ e.fields)

/-- Whether asking for the first field, or for none, is less specific than asking for the second: no
field is less specific than any, and of two fields the earlier one in the order of texts. -/
def isFieldBelow : Option String → Option String → Bool
  | _, none => false
  | none, some _ => true
  | some a, some b => a < b

/-- Whether a rule is less specific than another: it names less of the component, or as much and its
field is less specific. -/
def isBelow (a b : LogRule) : Bool :=
  a.component.length < b.component.length
    || a.component.length == b.component.length && isFieldBelow a.field? b.field?

end LogRule

/-! ## 2. Filters -/

/-- Which events are logged. -/
structure LogFilter where
  rules : List LogRule
  deriving Repr, DecidableEq

namespace LogFilter

/-- Warnings and errors of all components. -/
def default : LogFilter := ⟨[.all 2]⟩

/-- No events. -/
def off : LogFilter := ⟨[]⟩

/-- The rule that decides on an event: the most specific one about it, and of several equally
specific ones the last. -/
def ruleFor? (f : LogFilter) (e : Event) : Option LogRule :=
  (f.rules.filter (·.covers e)).foldl (fun best rule =>
    if best.any rule.isBelow then best else some rule) none

/-- Whether the filter lets an event into the log. -/
def admits (f : LogFilter) (e : Event) : Bool :=
  (f.ruleFor? e).any fun rule => e.level.depth ≤ rule.depth

@[simp] theorem off_admits (e : Event) : off.admits e = false := rfl

end LogFilter

end VisitorNodes
