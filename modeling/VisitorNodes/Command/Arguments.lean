import VisitorNodes.Target
import VisitorNodes.Text.Blank
import VisitorNodes.Text.Cut

/-!
# The command's arguments

The command takes options, each with a value in the next argument, and one request per category to
generate, `Category=path`. Arguments are read from left to right and the first error ends the
reading:

* `--help` and `help` ask for help. Reading goes on, but no further option may follow;
* `--` ends the options. Behind it every argument is a request;
* an option takes the next argument as its value, whatever it looks like. Only imports may be given
  more than once.
-/

namespace VisitorNodes.Command

open Text

/-! ## 1. What the arguments ask for -/

/-- A category to generate, and the path of its grammar. -/
structure Request where
  category : String
  grammar : String
  deriving Repr, DecidableEq

/-- What a run that generates is to do. -/
structure Settings where
  target : Target := .csharp
  namespaceName : String := "Lox"
  /-- The imports that were asked for; without any, those that the target has by default. -/
  usings : List String := []
  outDir : String := "."
  requests : List Request := []
  deriving Repr, DecidableEq

/-- What arguments ask for: help, or a run that generates. -/
inductive Invocation where
  | help
  | generate (settings : Settings)
  deriving Repr, DecidableEq

/-- The imports that modules of a target have if none are asked for. -/
def defaultImports : Target → List String
  | .csharp => ["System", "System.Collections.Generic"]
  | .rust => []

/-- The printer that the settings describe. -/
def Settings.printer (s : Settings) : Printer :=
  s.target.printer s.namespaceName (if s.usings = [] then defaultImports s.target else s.usings)

/-! ## 2. Errors -/

/-- What is wrong with arguments. -/
inductive UsageError where
  /-- An option stands behind the request for help. -/
  | optionAfterHelp
  | unrecognized (argument : String)
  | missingValue (option : String)
  | duplicateValue (option value : String)
  | unknownTarget (option : String) (target : UnknownTarget)
  | malformedRequest (argument : String)
  deriving Repr, DecidableEq

namespace UsageError

/-- The report of a value that an option does not take. -/
def optionReport (option value reason : String) : String :=
  "Error parsing option '" ++ option ++ "' with value '" ++ value ++ "': " ++ reason ++ "\n"

/-- The report of an error, most of them with the end of their line. -/
def message : UsageError → String
  | .optionAfterHelp => "Trailing arguments are not allowed after `help`."
  | .unrecognized argument => "Unrecognized argument: " ++ argument ++ "\n"
  | .missingValue option => "No value provided for option '" ++ option ++ "'.\n"
  | .duplicateValue option value => optionReport option value "duplicate values provided"
  | .unknownTarget option target => optionReport option target.name target.message
  | .malformedRequest argument =>
    "Error parsing positional argument 'categories' with value '" ++ argument
      ++ "': expected `Category=path`, got " ++ quoted argument ++ "\n"

end UsageError

/-! ## 3. Reading the arguments -/

/-- The options. -/
inductive Flag where
  | target
  | namespaceName
  | using
  | outDir
  deriving Repr, DecidableEq

/-- The option that an argument names. -/
def Flag.ofArgument? (argument : String) : Option Flag :=
  [("-t", Flag.target), ("--target", .target),
   ("-n", .namespaceName), ("--namespace", .namespaceName),
   ("-u", .using), ("--using", .using),
   ("-o", .outDir), ("--out-dir", .outDir)].lookup argument

/-- The request that an argument describes. Both sides of its first `=` are trimmed. -/
def Request.parse (argument : String) : Except UsageError Request :=
  match cut '=' argument.toList with
  | none => .error (.malformedRequest argument)
  | some (category, grammar) => .ok ⟨.ofList (trim category), .ofList (trim grammar)⟩

/-- What was read of the arguments so far. -/
structure Draft where
  target : Option Target := none
  namespaceName : Option String := none
  usings : List String := []
  outDir : Option String := none
  requests : List Request := []
  help : Bool := false
  optionsEnded : Bool := false
  deriving Repr, DecidableEq

namespace Draft

/-- The draft with the value of an option. That it has one already is noticed first. -/
def set (d : Draft) (flag : Flag) (option value : String) : Except UsageError Draft :=
  match flag with
  | .target =>
    if d.target.isSome then .error (.duplicateValue option value)
    else
      match Target.parse value with
      | .error unknown => .error (.unknownTarget option unknown)
      | .ok target => .ok { d with target := some target }
  | .namespaceName =>
    if d.namespaceName.isSome then .error (.duplicateValue option value)
    else .ok { d with namespaceName := some value }
  | .using => .ok { d with usings := d.usings ++ [value] }
  | .outDir =>
    if d.outDir.isSome then .error (.duplicateValue option value)
    else .ok { d with outDir := some value }

/-- The draft with all further arguments. -/
def readArguments (d : Draft) : List String → Except UsageError Draft
  | [] => .ok d
  | argument :: rest =>
    if !d.optionsEnded && (argument = "--help" || argument = "help") then
      readArguments { d with help := true } rest
    else if !d.optionsEnded && argument.toList.head? = some '-' then
      if argument = "--" then readArguments { d with optionsEnded := true } rest
      else if d.help then .error .optionAfterHelp
      else
        match Flag.ofArgument? argument with
        | none => .error (.unrecognized argument)
        | some flag =>
          match rest with
          | [] => .error (.missingValue argument)
          | value :: rest =>
            match d.set flag argument value with
            | .error e => .error e
            | .ok d => readArguments d rest
    else
      match Request.parse argument with
      | .error e => .error e
      | .ok request => readArguments { d with requests := d.requests ++ [request] } rest

/-- The settings of a draft: what was not given has its default. -/
def settings (d : Draft) : Settings where
  target := d.target.getD .csharp
  namespaceName := d.namespaceName.getD "Lox"
  usings := d.usings
  outDir := d.outDir.getD "."
  requests := d.requests

end Draft

/-- What the arguments ask for. -/
def Invocation.parse (arguments : List String) : Except UsageError Invocation :=
  (Draft.readArguments {} arguments).map fun d =>
    if d.help then .help else .generate d.settings

/-! ## 4. Help -/

/-- The text that help shows. -/
def helpText : String :=
  "Usage: visitgen [-t <target>] [-n <namespace>] [-u <using...>] [-o <out-dir>] [--] "
    ++ "[<categories...>]

Generate visitor-pattern node types from grammar files.

Positional Arguments:
  categories        categories to generate, as `Category=path/to/grammar`

Options:
  -t, --target      output language, `cs` or `rust` (default: cs)
  -n, --namespace   namespace of generated C# code (default: Lox)
  -u, --using       import added to every module as `using` (C#) or `use`
                    (Rust), may be repeated
  -o, --out-dir     output directory, or `-` to write to stdout (default: .)
  --help, help      display usage information
"

end VisitorNodes.Command
