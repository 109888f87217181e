import VisitorNodes.Command.Run
import VisitorNodes.Demos.Task

/-!
# A bench for tasks

A bench is a machine with at most two programs, which keep a record of their calls:

* `cargo` follows a script of codes, one a call. With code 0, and when the script is over, it runs
  the generator on the bench's files with the arguments behind `--`, and ends as that does. Any
  other code is how it ends, and it does nothing else;
* `git` always ends in the same way.

A code below 1000 is an exit status, and 1000 and more stands for a signal.
-/

namespace VisitorNodes.Demos

open Text

/-- A machine with its files, its streams, its programs and the record of their calls. -/
structure Bench where
  world : Command.World
  /-- The calls that reached a program, the first one first. -/
  calls : List Call := []
  /-- The script of `cargo`, if there is that program. -/
  cargo : Option (List Nat) := some []
  /-- The code of `git`, if there is that program. -/
  git : Option Nat := some 0
  deriving Repr, DecidableEq

/-- The ending that a code stands for. -/
def Ending.ofCode (code : Nat) : Ending :=
  if code < 1000 then .exited code else .killed (code - 1000)

namespace Bench

/-- The arguments that `cargo` hands on: those behind the first `--`. -/
def handedOn (arguments : List String) : List String :=
  (arguments.dropWhile (· != "--")).drop 1

/-- Runs the generator, without a log. -/
def runGenerator (b : Bench) (arguments : List String) : Ending × Bench :=
  let (code, world) := Command.run .off arguments b.world
  (.exited code, { b with world := world })

/-- Starts a program on a bench. -/
def launch (c : Call) (b : Bench) : Option Ending × Bench :=
  if c.program = "cargo" then
    match b.cargo with
    | none => (none, b)
    | some codes =>
      let b := { b with calls := b.calls ++ [c], cargo := some codes.tail }
      let code := codes.headD 0
      if code = 0 then
        let (ending, b) := b.runGenerator (handedOn c.arguments)
        (some ending, b)
      else (some (.ofCode code), b)
  else if c.program = "git" then
    match b.git with
    | none => (none, b)
    | some code => (some (.ofCode code), { b with calls := b.calls ++ [c] })
  else (none, b)

/-- Starting programs on a bench. -/
def launcher : Launcher Bench := ⟨launch⟩

/-- The bench with more lines on the stream of reports. -/
def report (b : Bench) (ls : List String) : Bench := { b with world := b.world.report ls }

/-- Runs the task that the arguments name: the exit code, and the bench after it. -/
def run (arguments : List String) (b : Bench) : Nat × Bench :=
  match Task.ofArguments? arguments with
  | none => (1, b.report usage)
  | some task =>
    match task.run launcher b with
    | (.ok (), b) => (0, b)
    | (.error f, b) => (1, b.report f.report)

end Bench

end VisitorNodes.Demos
