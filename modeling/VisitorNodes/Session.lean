import VisitorNodes.Emission

/-!
# Sessions: many modules in one buffer

A session prints modules one behind the other into one growing buffer. A step names a printer and
either a finished module or a category with its lines. A step that is refused leaves the buffer as
it is, and the next step goes on.
-/

namespace VisitorNodes.Session

open Text

/-- What a step prints. -/
inductive Subject where
  | finished (m : Module)
  | category (name : String) (lines : List String)
  deriving Repr, DecidableEq

/-- A printer and what it prints. -/
structure Step where
  printer : PrinterChoice
  subject : Subject
  deriving Repr, DecidableEq

/-- Why a step printed nothing. -/
inductive Refusal where
  | unknownTarget (u : UnknownTarget)
  | rejected (r : Rejection)
  deriving Repr, DecidableEq

/-- The module to print. -/
def Subject.module : Subject → Traced (Except Rejection Module)
  | .finished m => .silent (.ok m)
  | .category name lines =>
    (Category.read name lines).andThen fun read => .silent (read.map Category.toModule)

/-- The buffer after a step, or why it stayed as it was. The printer is looked at first. -/
def Step.run (out : String) (step : Step) : Traced (Except Refusal String) :=
  match step.printer.resolve with
  | .error u => .silent (.error (.unknownTarget u))
  | .ok printer =>
    step.subject.module.andThen fun
      | .error r => .silent (.error (.rejected r))
      | .ok m => .silent (.ok (printer.print m out))

/-- What a step answers: the text it added or why it was refused, and the size of the buffer. -/
structure Answer where
  added : Except Refusal String
  bytes : Nat

/-- The answer of a step that led from one buffer to the next. -/
def Answer.of (before : String) : Except Refusal String → Answer
  | .error refusal => ⟨.error refusal, before.utf8ByteSize⟩
  | .ok after => ⟨.ok (gained before after), after.utf8ByteSize⟩

/-- The buffer that the next step starts from. -/
def bufferAfter (before : String) : Except Refusal String → String
  | .error _ => before
  | .ok after => after

/-- The final buffer and the answers of all steps. -/
def run (out : String) : List Step → Traced (String × List Answer)
  | [] => .silent (out, [])
  | step :: steps =>
    (step.run out).andThen fun outcome =>
      (run (bufferAfter out outcome) steps).andThen fun (last, answers) =>
        .silent (last, Answer.of out outcome :: answers)

end VisitorNodes.Session
