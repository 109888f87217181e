/-!
# Events, and work that reports them

Reading a grammar and writing modules is reported as events. Work that reports is pure: it gives its
result together with the list of its events, in the order in which they happened (`Traced`).

An event has a level, the component it comes from, a message and named values. Its written form is
in `VisitorNodes.Event.Log`, the filters that admit it in `VisitorNodes.Event.Filter`.
-/

namespace VisitorNodes

/-! ## 1. Events -/

/-- How urgent an event is, from the most urgent down. -/
inductive Level where
  | error
  | warn
  | info
  | debug
  deriving Repr, DecidableEq

/-- What is reported. -/
inductive Event where
  /-- A grammar line was read as a variant with so many fields. -/
  | parsedVariant (variant : String) (fields : Nat)
  /-- An earlier variant of the category has the same name. -/
  | duplicateVariant (category variant : String)
  /-- An earlier field of the variant has the same name. -/
  | duplicateField (category variant field : String)
  /-- The text of a module is complete; `bytes` is its length in UTF-8. -/
  | emittedModule (category : String) (variants bytes : Nat)
  /-- The text of a module was written to a file. -/
  | wroteModule (category path : String)
  deriving Repr, DecidableEq

/-- A value that an event carries. -/
inductive EventValue where
  /-- A text that the log quotes. -/
  | text (s : String)
  /-- A text that the log shows as it is. -/
  | plain (s : String)
  | count (n : Nat)
  deriving Repr, DecidableEq

namespace Event

/-- How urgent the event is. -/
def level : Event → Level
  | .parsedVariant .. => .debug
  | .duplicateVariant .. => .warn
  | .duplicateField .. => .warn
  | .emittedModule .. => .debug
  | .wroteModule .. => .info

/-- The component that reports the event. -/
def component : Event → String
  | .parsedVariant .. => "visitgen::grammar"
  | .duplicateVariant .. => "visitgen::emit"
  | .duplicateField .. => "visitgen::emit"
  | .emittedModule .. => "visitgen::emit"
  | .wroteModule .. => "visitgen"

/-- What happened, in words. -/
def message : Event → String
  | .parsedVariant .. => "parsed variant"
  | .duplicateVariant .. => "duplicate variant name"
  | .duplicateField .. => "duplicate field name"
  | .emittedModule .. => "emitted module"
  | .wroteModule .. => "wrote module"

/-- The named values of an event, in the order in which the log shows them. -/
def values : Event → List (String × EventValue)
  | .parsedVariant variant fields => [("variant", .text variant), ("fields", .count fields)]
  | .duplicateVariant category variant =>
    [("category", .text category), ("variant", .text variant)]
  | .duplicateField category variant field =>
    [("category", .text category), ("variant", .text variant), ("field", .text field)]
  | .emittedModule category variants bytes =>
    [("category", .text category), ("variants", .count variants), ("bytes", .count bytes)]
  | .wroteModule category path => [("category", .plain category), ("path", .plain path)]

end Event

/-! ## 2. Work that reports -/

/-- A result with the events of the work that led to it. -/
structure Traced (α : Type) where
  result : α
  events : List Event
  deriving Repr, DecidableEq

namespace Traced

variable {α β : Type}

/-- Work that reports nothing. -/
def silent (a : α) : Traced α := ⟨a, []⟩

/-- One piece of work after the other: the events of the first come first. -/
def andThen (t : Traced α) (f : α → Traced β) : Traced β :=
  let next := f t.result
  ⟨next.result, t.events ++ next.events⟩

@[simp] theorem silent_result (a : α) : (silent a).result = a := rfl

@[simp] theorem silent_events (a : α) : (silent a).events = [] := rfl

@[simp] theorem andThen_result (t : Traced α) (f : α → Traced β) :
    (t.andThen f).result = (f t.result).result := rfl

@[simp] theorem andThen_events (t : Traced α) (f : α → Traced β) :
    (t.andThen f).events = t.events ++ (f t.result).events := rfl

end Traced

end VisitorNodes
