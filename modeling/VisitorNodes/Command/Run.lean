import VisitorNodes.Command.Turn
import VisitorNodes.Event.Log

/-!
# Runs of the command

A run changes a file tree and writes to two streams. The turns of all requests are taken in order,
each on the tree that the turns before it left, and a failed one does not keep the others from
theirs. The exit code is 0 if nothing failed and 1 otherwise.
-/

namespace VisitorNodes.Command

open Text

/-- What a run works on: the files, and what was written to the standard streams. -/
structure World where
  files : FileTree
  stdout : String := ""
  stderr : String := ""
  deriving Repr, DecidableEq

/-- The world with more lines on the stream of reports. -/
def World.report (w : World) (ls : List String) : World :=
  { w with stderr := pushLines w.stderr ls }

/-- How a turn ended: with the events of its last step, or with the causes of its failure. -/
abbrev TurnResult := Except (List String) (List Event)

/-- Carries out what is left of a turn. -/
def Turn.perform (r : Request) (w : World) : Turn → TurnResult × World
  | .fail causes => (.error causes, w)
  | .display text => (.ok [], { w with stdout := w.stdout ++ text })
  | .save directory path text =>
    match w.files.makeDirs directory with
    | (.error fault, files) =>
      (.error (makeFailure directory fault.message), { w with files := files })
    | (.ok (), files) =>
      match files.write path text with
      | .error fault => (.error (writeFailure path fault.message), { w with files := files })
      | .ok written => (.ok [.wroteModule r.category path], { w with files := written })

/-- The turn of a request: whether it succeeded, and the world after it with all its reports. -/
def turn (s : Settings) (filter : LogFilter) (r : Request) (w : World) : Bool × World :=
  let plan := s.plan r ((w.files.read r.grammar).mapError (·.message))
  let w := w.report (filter.log plan.events)
  match plan.result.perform r w with
  | (.error causes, w) => (false, w.report [failureReport causes])
  | (.ok events, w) => (true, w.report (filter.log events))

/-- The turns of requests in order: how many failed, and the world after all of them. -/
def turns (s : Settings) (filter : LogFilter) : List Request → World → Nat × World
  | [], w => (0, w)
  | r :: rs, w =>
    let (succeeded, w) := turn s filter r w
    let (failed, w) := turns s filter rs w
    (if succeeded then failed else failed + 1, w)

/-- A run that generates: its exit code and the world after it. -/
def generate (s : Settings) (filter : LogFilter) (w : World) : Nat × World :=
  if s.requests = [] then (1, w.report [noRequests])
  else
    match turns s filter s.requests w with
    | (0, w) => (0, w)
    | (failed, w) => (1, w.report [summary failed s.requests.length])

/-- **A run of the command**: its exit code and the world after it. -/
def run (filter : LogFilter) (arguments : List String) (w : World) : Nat × World :=
  match Invocation.parse arguments with
  | .error e => (1, w.report [usageReport e])
  | .ok .help => (0, { w with stdout := pushLine w.stdout helpText })
  | .ok (.generate s) => generate s filter w

end VisitorNodes.Command
