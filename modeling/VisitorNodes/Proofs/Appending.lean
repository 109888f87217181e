import VisitorNodes.Session
/-!
# Printing only appends

A printer writes behind what its buffer holds and never looks at it (`Printer.print_eq_append`). So
a step of a session does to any buffer what it does to an empty one (`Step.run_result`), a refused
step does nothing, and a session leaves the text it began with followed by what its steps print,
each on its own (`run_buffer`). Answers are about the added text, so they do not depend on earlier
steps but for the size of the buffer.
-/

namespace VisitorNodes

open Text

/-! ## 1. Printers -/

namespace Text

theorem pushLine_append (front out line : String) :
    pushLine (front ++ out) line = front ++ pushLine out line := by
  simp only [pushLine, String.append_assoc]

theorem pushIndented_append (front out text : String) (level : Nat) :
    pushIndented (front ++ out) text level = front ++ pushIndented out text level := by
  rw [pushIndented_eq_append, pushIndented_eq_append out, String.append_assoc]

end Text

theorem CSharp.print_eq_append (style : CSharp) (m : Module) (out : String) :
    style.print m out = out ++ style.print m "" := by
  unfold CSharp.print
  -- header, block and closing line are written one behind the other
  simp only [pushLines_eq_append out style.headerLines, pushIndented_append, pushLine_append]

theorem Rust.print_eq_append (style : Rust) (m : Module) (out : String) :
    style.print m out = out ++ style.print m "" :=
  pushLines_eq_append out (style.moduleLines m)

/-- **A buffer keeps what it holds**: a module stands behind it as it stands alone. -/
theorem Printer.print_eq_append (printer : Printer) (m : Module) (out : String) :
    printer.print m out = out ++ printer.print m "" := by
  cases printer with
  | csharp style => exact style.print_eq_append m out
  | rust style => exact style.print_eq_append m out

namespace Session

/-! ## 2. Steps -/

/-- What a step prints into an empty buffer, if it is not refused. -/
def Step.printed (step : Step) : Option String := (step.run "").result.toOption

/-- **A step does to any buffer what it does to an empty one.** -/
theorem Step.run_result (step : Step) (out : String) :
    (step.run out).result = (step.run "").result.map (out ++ ·) := by
  unfold Step.run
  cases step.printer.resolve with
  | error u => rfl
  | ok printer =>
    simp only [Traced.andThen_result]
    cases step.subject.module.result with
    | error r => rfl
    | ok m =>
      simp only [Traced.silent_result, Except.map, printer.print_eq_append m out]

/-- A finished module is always printed. -/
theorem printed_finished (printer : Printer) (m : Module) :
    Step.printed ⟨.ready printer, .finished m⟩ = some (printer.print m "") := rfl

/-- Of a category is printed what is emitted from it alone. -/
theorem printed_category (printer : Printer) (name : String) (lines : List String) :
    Step.printed ⟨.ready printer, .category name lines⟩
      = (emit printer name lines).result.toOption := by
  simp only [Step.printed, Step.run, PrinterChoice.resolve, Subject.module, emit,
    Traced.andThen_result, Traced.silent_result]
  cases (Category.read name lines).result <;> rfl

/-- The buffer behind a step has what the step printed behind what it held. -/
theorem bufferAfter_run (step : Step) (out : String) :
    bufferAfter out (step.run out).result = out ++ step.printed.getD "" := by
  rw [step.run_result out]
  unfold Step.printed
  cases (step.run "").result with
  | error refusal => exact (String.append_empty).symm
  | ok text => rfl

/-- The answer to a step tells what it printed, or why nothing, and the size of the buffer. -/
theorem answerOf_run (step : Step) (out : String) :
    Answer.of out (step.run out).result
      = ⟨(step.run "").result, (out ++ step.printed.getD "").utf8ByteSize⟩ := by
  rw [step.run_result out]
  unfold Step.printed
  cases (step.run "").result with
  | error refusal =>
    show (⟨.error refusal, out.utf8ByteSize⟩ : Answer) = ⟨.error refusal, (out ++ "").utf8ByteSize⟩
    rw [String.append_empty]
  | ok text =>
    show (⟨.ok (gained out (out ++ text)), (out ++ text).utf8ByteSize⟩ : Answer)
      = ⟨.ok text, (out ++ text).utf8ByteSize⟩
    rw [gained_append]

/-! ## 3. Runs -/

/-- The buffer behind all steps. -/
def finalBuffer (out : String) (steps : List Step) : String := (run out steps).result.1

/-- The answers to all steps. -/
def answers (out : String) (steps : List Step) : List Answer := (run out steps).result.2

theorem finalBuffer_cons (out : String) (step : Step) (steps : List Step) :
    finalBuffer out (step :: steps) = finalBuffer (out ++ step.printed.getD "") steps := by
  rw [← bufferAfter_run]
  rfl

theorem answers_cons (out : String) (step : Step) (steps : List Step) :
    answers out (step :: steps)
      = ⟨(step.run "").result, (out ++ step.printed.getD "").utf8ByteSize⟩
        :: answers (out ++ step.printed.getD "") steps := by
  rw [← answerOf_run, ← bufferAfter_run]
  rfl

/-- Later steps print into the buffer that the earlier ones left. -/
theorem finalBuffer_append (out : String) (before after : List Step) :
    finalBuffer out (before ++ after) = finalBuffer (finalBuffer out before) after := by
  induction before generalizing out with
  | nil => rfl
  | cons step steps ih => rw [List.cons_append, finalBuffer_cons, finalBuffer_cons, ih]

theorem answers_append (out : String) (before after : List Step) :
    answers out (before ++ after)
      = answers out before ++ answers (finalBuffer out before) after := by
  induction before generalizing out with
  | nil => rfl
  | cons step steps ih =>
    rw [List.cons_append, answers_cons, answers_cons, finalBuffer_cons, ih, List.cons_append]

theorem length_answers (out : String) (steps : List Step) :
    (answers out steps).length = steps.length := by
  induction steps generalizing out with
  | nil => rfl
  | cons step steps ih => rw [answers_cons, List.length_cons, List.length_cons, ih]

/-- **A session leaves its first text and behind it what its steps print**, in their order. -/
theorem run_buffer (out : String) (steps : List Step) :
    finalBuffer out steps = out ++ String.join (steps.filterMap Step.printed) := by
  induction steps generalizing out with
  | nil => exact (String.append_empty).symm
  | cons step steps ih =>
    rw [finalBuffer_cons, ih, String.append_assoc]
    cases hprinted : step.printed with
    | none => rw [List.filterMap_cons_none hprinted, Option.getD_none, String.empty_append]
    | some text => rw [List.filterMap_cons_some hprinted, Option.getD_some, String.join_cons]

/-- A refused step leaves the buffer as it is. -/
theorem finalBuffer_cons_refused {step : Step} (h : step.printed = none) (out : String)
    (steps : List Step) : finalBuffer out (step :: steps) = finalBuffer out steps := by
  rw [finalBuffer_cons, h, Option.getD_none, String.append_empty]

/-- The answer to a refused step names a refusal; the answers to the others stay. -/
theorem answers_cons_refused {step : Step} (h : step.printed = none) (out : String)
    (steps : List Step) : ∃ refusal, answers out (step :: steps)
      = ⟨.error refusal, out.utf8ByteSize⟩ :: answers out steps := by
  rw [answers_cons, h, Option.getD_none, String.append_empty]
  unfold Step.printed at h
  cases hrun : (step.run "").result with
  | error refusal => exact ⟨refusal, rfl⟩
  | ok text =>
    rw [hrun] at h
    cases h

/-- **Sessions only append.** Behind every first part of the steps the buffer is the text it began
with and what these steps print into an empty buffer, one behind the other, and the other steps go
on from there. Each answer is the step's own but for the size of the buffer. A step that prints
nothing changes neither the buffer nor the answers to any other step. A finished module is always
printed, and of a category what is emitted from its lines, if they are not rejected. -/
theorem run_appends (out : String) :
    (∀ before after, finalBuffer out before = out ++ String.join (before.filterMap Step.printed) ∧
      finalBuffer out (before ++ after) = finalBuffer (finalBuffer out before) after ∧
      answers out (before ++ after)
        = answers out before ++ answers (finalBuffer out before) after) ∧
    (∀ before step after, (answers out (before ++ step :: after))[before.length]?
      = some ⟨(step.run "").result, (finalBuffer out (before ++ [step])).utf8ByteSize⟩) ∧
    (∀ before step after, step.printed = none →
      finalBuffer out (before ++ step :: after) = finalBuffer out (before ++ after) ∧
      ∃ refusal, answers out (before ++ step :: after)
          = answers out before ++ ⟨.error refusal, (finalBuffer out before).utf8ByteSize⟩
            :: answers (finalBuffer out before) after ∧
        answers out (before ++ after)
          = answers out before ++ answers (finalBuffer out before) after) ∧
    (∀ printer m, Step.printed ⟨.ready printer, .finished m⟩ = some (printer.print m "")) ∧
    (∀ printer name lines, Step.printed ⟨.ready printer, .category name lines⟩
      = (emit printer name lines).result.toOption) := by
  refine ⟨fun before after => ⟨run_buffer out before, finalBuffer_append out before after,
    answers_append out before after⟩, fun before step after => ?_,
    fun before step after hrefused => ?_, printed_finished, printed_category⟩
  · have hlength := length_answers out before
    rw [answers_append, List.getElem?_append_right (Nat.le_of_eq hlength), hlength, Nat.sub_self,
      answers_cons, finalBuffer_append, finalBuffer_cons]
    rfl
  · obtain ⟨refusal, hanswers⟩ := answers_cons_refused hrefused (finalBuffer out before) after
    refine ⟨?_, refusal, ?_, answers_append out before after⟩
    · rw [finalBuffer_append, finalBuffer_cons_refused hrefused, ← finalBuffer_append]
    · rw [answers_append, hanswers]

/-- A category with a malformed line between a finished module and a category, in two languages. -/
theorem run_appends_malformed :
    let m : Module := ⟨"Expr", ⟨"IExprVisitor", []⟩, []⟩
    let bad : Step := ⟨.ready (.rust {}), .category "Stmt" ["Nil :", "?"]⟩
    let good : Step := ⟨.ready (.csharp ⟨"Demo", []⟩), .category "Stmt" ["Nil :"]⟩
    bad.printed = none ∧
      finalBuffer "// demo\n" [⟨.ready (.rust {}), .finished m⟩, bad, good]
        = finalBuffer "// demo\n" [⟨.ready (.rust {}), .finished m⟩, good] := by
  intro m bad good
  have hrefused : bad.printed = none := by decide +kernel
  exact ⟨hrefused,
    ((run_appends "// demo\n").2.2.1 [⟨.ready (.rust {}), .finished m⟩] bad [good] hrefused).1⟩

end Session

end VisitorNodes
