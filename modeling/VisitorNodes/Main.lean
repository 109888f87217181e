import VisitorNodes.Command.Turn
import VisitorNodes.Event.Filter.Setting
import VisitorNodes.Event.Log

/-!
# The command

The outer layer of the command: it carries out on the real files and streams what
`VisitorNodes.Command` decides.
-/

open VisitorNodes Command

/-- The system's number of a fault. Some operations give it negated. -/
def faultNumber (code : UInt32) : UInt32 := if code < 0x80000000 then code else 0 - code

/-- The wording of a failed file operation. -/
def faultMessage (e : IO.Error) : String :=
  match e with
  | .noFileOrDirectory .. => FileTree.Fault.missing.message
  | .alreadyExists .. => FileTree.Fault.exists.message
  | .inappropriateType _ code _ =>
    if faultNumber code = 20 then FileTree.Fault.notDirectory.message
    else FileTree.Fault.isDirectory.message
  | .invalidArgument _ code _ =>
    if faultNumber code = 36 then FileTree.Fault.tooLong.message else toString e
  | _ => toString e

/-- The outcome of a file operation, its failure as text. -/
def attempt {α : Type} (act : IO α) : IO (Except String α) :=
  return (← act.toBaseIO).mapError faultMessage

/-- The text of a file, or why there is none. -/
def readGrammar (path : String) : IO (Except String String) :=
  return (← attempt (IO.FS.readBinFile path)).bind fun bytes =>
    match Content.ofBytes bytes with
    | .text s => .ok s
    | .binary _ => .error FileTree.Fault.notText.message

/-- Carries out a turn: the causes of its failure, or the events of its last step. -/
def perform (r : Request) : Turn → IO (Except (List String) (List Event))
  | .fail causes => return .error causes
  | .display text => do
    IO.print text
    return .ok []
  | .save directory path text => do
    match ← attempt (if directory = "" then pure () else IO.FS.createDirAll directory) with
    | .error fault => return .error (makeFailure directory fault)
    | .ok () =>
      match ← attempt (IO.FS.writeFile path text) with
      | .error fault => return .error (writeFailure path fault)
      | .ok () => return .ok [.wroteModule r.category path]

/-- The turn of a request: whether it succeeded. -/
def takeTurn (s : Settings) (filter : LogFilter) (r : Request) : IO Bool := do
  let plan := s.plan r (← readGrammar r.grammar)
  (filter.log plan.events).forM fun line => IO.eprintln line
  match ← perform r plan.result with
  | .error causes =>
    IO.eprintln (failureReport causes)
    return false
  | .ok events =>
    (filter.log events).forM fun line => IO.eprintln line
    return true

/-- The command. Its exit code is 0 if nothing failed and 1 otherwise. -/
def main (arguments : List String) : IO UInt32 := do
  match Invocation.parse arguments with
  | .error e =>
    IO.eprintln (usageReport e)
    return 1
  | .ok .help =>
    IO.println helpText
    return 0
  | .ok (.generate s) =>
    if s.requests = [] then
      IO.eprintln noRequests
      return 1
    let filter := LogFilter.ofSetting (← IO.getEnv "RUST_LOG")
    let outcomes ← s.requests.mapM (takeTurn s filter)
    let failed := outcomes.countP (!·)
    if failed = 0 then return 0
    IO.eprintln (summary failed outcomes.length)
    return 1
