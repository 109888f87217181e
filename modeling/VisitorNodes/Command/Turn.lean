import VisitorNodes.Command.Arguments
import VisitorNodes.Emission
import VisitorNodes.FileTree

/-!
# The turn of one category

Each request has its turn: its grammar is read, its module is emitted, and the text is shown or
written. What a turn does is decided by the settings, the request and what reading the grammar gave
(`Settings.plan`); nothing is written before the whole text is there.
-/

namespace VisitorNodes.Command

/-- What is left to do once a grammar was read. -/
inductive Turn where
  /-- Nothing but a report: what failed, and what that goes back to. -/
  | fail (causes : List String)
  | display (text : String)
  /-- Makes the directory and writes the text to the file at `path`. -/
  | save (directory path text : String)
  deriving Repr, DecidableEq

/-- The texts of a rejection: its own, and that of the malformed line behind it. -/
def rejectionCauses (r : Rejection) : List String :=
  r.message :: (r.cause?.map (·.message)).toList

/-- The file that a category is written to. -/
def Settings.outPath (s : Settings) (category : String) : String :=
  Path.join s.outDir (s.target.fileName category)

/-- The turn of a request, given what reading its grammar gave. -/
def Settings.plan (s : Settings) (r : Request) (grammar : Except String String) : Traced Turn :=
  match grammar with
  | .error fault => .silent (.fail ["failed to read " ++ r.grammar, fault])
  | .ok source =>
    (emitSource s.printer r.category source).andThen fun
      | .error rejection => .silent (.fail (rejectionCauses rejection))
      | .ok text =>
        if s.outDir = "-" then .silent (.display text)
        else .silent (.save s.outDir (s.outPath r.category) text)

/-! ## Reports -/

/-- The report of a turn that failed. -/
def failureReport (causes : List String) : String := "error: " ++ ": ".intercalate causes

/-- The causes of a directory that could not be made. -/
def makeFailure (directory fault : String) : List String :=
  ["failed to create " ++ directory, fault]

/-- The causes of a file that could not be written. -/
def writeFailure (path fault : String) : List String := ["failed to write " ++ path, fault]

/-- The report at the end of a run with failures. -/
def summary (failed total : Nat) : String :=
  toString failed ++ " of " ++ toString total ++ " categories failed"

/-- The report of a run without requests. -/
def noRequests : String := "no categories given, expected one or more `Category=path`"

/-- The report of wrong usage. -/
def usageReport (e : UsageError) : String :=
  e.message ++ "\nRun visitgen --help for more information."

end VisitorNodes.Command
