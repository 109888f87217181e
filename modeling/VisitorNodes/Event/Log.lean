import VisitorNodes.Event.Filter
import VisitorNodes.Text.Quoted

/-!
# The log: written events

An event is one line of the log: its level, right-aligned, its component, its message, and its
values as `key=value`. A filter decides which events get their line.
-/

namespace VisitorNodes

open Text

/-! ## 1. Lines -/

/-- A level as the log shows it, five characters wide. -/
def Level.label : Level → String
  | .error => "ERROR"
  | .warn => " WARN"
  | .info => " INFO"
  | .debug => "DEBUG"

/-- A value as the log shows it. -/
def EventValue.shown : EventValue → String
  | .text s => quoted s
  | .plain s => s
  | .count n => toString n

/-- The line of an event, without its end. -/
def Event.line (e : Event) : String :=
  e.level.label ++ " " ++ e.component ++ ": " ++ e.message
    ++ String.join (e.values.map fun v => " " ++ v.1 ++ "=" ++ v.2.shown)

example : (Event.duplicateVariant "D" "Pair").line =
    " WARN visitgen::emit: duplicate variant name category=\"D\" variant=\"Pair\"" := by
  decide +kernel

/-! ## 2. Logs -/

namespace LogFilter

/-- The log of events: the lines of those that the filter admits. -/
def log (f : LogFilter) (events : List Event) : List String :=
  (events.filter f.admits).map Event.line

end LogFilter

end VisitorNodes
