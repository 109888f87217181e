/-!
# Tasks on the demos

The demos are modules that are kept beside their grammars. One task generates them anew, with one
call of the generator per demo; the other does the same and then asks the version control whether
any of them changed.

A task only starts programs, and stops at the first that does not end with success. How programs are
started is given by a `Launcher`.
-/

namespace VisitorNodes.Demos

/-! ## 1. Calls and their endings -/

/-- A program and its arguments. -/
structure Call where
  program : String
  arguments : List String
  deriving Repr, DecidableEq

/-- How a program ended. -/
inductive Ending where
  | exited (code : Nat)
  | killed (signal : Nat)
  deriving Repr, DecidableEq

/-- The names of the signals that have one. -/
def signalNames : List (Nat × String) :=
  [(1, "SIGHUP"), (2, "SIGINT"), (3, "SIGQUIT"), (4, "SIGILL"), (5, "SIGTRAP"), (6, "SIGABRT"),
   (7, "SIGBUS"), (8, "SIGFPE"), (9, "SIGKILL"), (10, "SIGUSR1"), (11, "SIGSEGV"),
   (12, "SIGUSR2"), (13, "SIGPIPE"), (14, "SIGALRM"), (15, "SIGTERM"), (16, "SIGSTKFLT"),
   (17, "SIGCHLD"), (18, "SIGCONT"), (19, "SIGSTOP"), (20, "SIGTSTP"), (21, "SIGTTIN"),
   (22, "SIGTTOU"), (23, "SIGURG"), (24, "SIGXCPU"), (25, "SIGXFSZ"), (26, "SIGVTALRM"),
   (27, "SIGPROF"), (28, "SIGWINCH"), (29, "SIGIO"), (30, "SIGPWR"), (31, "SIGSYS")]

/-- The words for an ending. -/
def Ending.text : Ending → String
  | .exited code => "exit status: " ++ toString code
  | .killed signal =>
    "signal: " ++ toString signal
      ++ (match signalNames.lookup signal with
          | some name => " (" ++ name ++ ")"
          | none => "")

/-- Starts programs on a machine whose state is in `σ`. There is no ending if there is no such
program. -/
structure Launcher (σ : Type) where
  launch : Call → σ → Option Ending × σ

/-! ## 2. Failures -/

/-- Why a task stopped. -/
inductive Failure where
  | notStarted (program : String)
  | ended (program : String) (ending : Ending)
  | outOfDate (cause : Failure)
  deriving Repr, DecidableEq

/-- The text of a failure and of what it goes back to. -/
def Failure.causes : Failure → List String
  | .notStarted program => ["failed to spawn " ++ program, "No such file or directory (os error 2)"]
  | .ended program ending => [program ++ " exited with " ++ ending.text]
  | .outOfDate cause => "generated demos are out of date, run `cargo x codegen`" :: cause.causes

/-- The causes with their numbers. -/
def numbered (start : Nat) : List String → List String
  | [] => []
  | cause :: causes => ("    " ++ toString start ++ ": " ++ cause) :: numbered (start + 1) causes

/-- The report of a failure: its text, and below it what it goes back to. Causes are numbered if
there are several. -/
def Failure.report (f : Failure) : List String :=
  match f.causes with
  | [] => []
  | [text] => ["Error: " ++ text]
  | [text, cause] => ["Error: " ++ text, "", "Caused by:", "    " ++ cause]
  | text :: causes => ["Error: " ++ text, "", "Caused by:"] ++ numbered 0 causes

/-! ## 3. Tasks -/

/-- Modules that are kept: where, in which language, with which further options, and from which
grammars. -/
structure Demo where
  outDir : String
  target : String
  options : List String
  categories : List String
  deriving Repr, DecidableEq

/-- The demos. -/
def demos : List Demo :=
  [⟨"demos/lox", "cs", ["-n", "Lox"], ["Expr=demos/lox/expr.ast", "Stmt=demos/lox/stmt.ast"]⟩,
   ⟨"demos/calc", "rust", ["-u", "super::\x7bBinaryOp, UnaryOp\x7d"],
    ["Expr=demos/calc/expr.ast"]⟩,
   ⟨"demos/calc", "rust", ["-u", "super::expr::Expr"], ["Stmt=demos/calc/stmt.ast"]⟩]

/-- The call that generates a demo. -/
def Demo.call (d : Demo) : Call where
  program := "cargo"
  arguments :=
    ["run", "--release", "-p", "visitgen-cli", "--", "-t", d.target, "-o", d.outDir]
      ++ d.options ++ d.categories

/-- The call that asks whether a demo changed. -/
def compareCall : Call where
  program := "git"
  arguments := ["diff", "--exit-code", "--", "demos"]

/-- The tasks: to generate the demos, and also to check that they did not change. -/
inductive Task where
  | generate
  | check
  deriving Repr, DecidableEq

/-- The task that the first argument names. Further arguments do not matter. -/
def Task.ofArguments? : List String → Option Task
  | [] => none
  | argument :: _ =>
    if argument = "codegen" then some .generate
    else if argument = "codegen-check" then some .check
    else none

/-- The lines shown if no task is named. -/
def usage : List String :=
  ["",
   "usage: cargo x <command>",
   "",
   "commands:",
   "    codegen          regenerate demos",
   "    codegen-check    fail if regenerating demos changes them"]

section Run

variable {σ : Type} (l : Launcher σ)

/-- Makes a call that must end with success. -/
def makeCall (c : Call) (s : σ) : Except Failure Unit × σ :=
  match l.launch c s with
  | (none, s) => (.error (.notStarted c.program), s)
  | (some ending, s) =>
    if ending = .exited 0 then (.ok (), s) else (.error (.ended c.program ending), s)

/-- Makes calls in order, up to the first that fails. -/
def makeCalls : List Call → σ → Except Failure Unit × σ
  | [], s => (.ok (), s)
  | c :: cs, s =>
    match makeCall l c s with
    | (.error f, s) => (.error f, s)
    | (.ok (), s) => makeCalls cs s

/-- Carries out a task. -/
def Task.run (s : σ) : Task → Except Failure Unit × σ
  | .generate => makeCalls l (demos.map Demo.call) s
  | .check =>
    match makeCalls l (demos.map Demo.call) s with
    | (.error f, s) => (.error f, s)
    | (.ok (), s) =>
      let (outcome, s) := makeCall l compareCall s
      (outcome.mapError .outOfDate, s)

end Run

end VisitorNodes.Demos
