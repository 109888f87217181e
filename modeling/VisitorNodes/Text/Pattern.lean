import VisitorNodes.Text.Letter
import VisitorNodes.Text.Pattern.Bracket

/-!
# Patterns

Which texts are patterns (`isPattern`). A pattern has branches between `|`. A branch is a sequence
of atoms, dots, bounds of lines, brackets and groups, each followed by any number of `?`, `*` and
`+`. Counts in braces are not read.

A group is `(...)`, with a name `(?<name>...)` or `(?P<name>...)`, or with options `(?options:...)`.
Names must differ. The options `(?options)` hold up to the end of the group that they stand in, and
nothing may repeat them. Options behind a dash are turned off.

Height is how deep a pattern is nested; a pattern must not be higher than `heightLimit`.
-/

namespace VisitorNodes.Text.Pattern

/-! ## 1. Openings of groups -/

/-- What an opening parenthesis begins. -/
inductive Opening where
  /-- Nothing but new options for what follows. -/
  | options (o : Options)
  | group (o : Options)
  | namedGroup (name : List Char)
  deriving Repr, DecidableEq

/-- The letters of the options, and the dash. -/
def optionMarks : List Char := ['i', 'm', 's', 'U', 'u', 'R', 'x', '-']

/-- Whether marks set options: none is unknown or repeated, and a dash has an option behind it. -/
def areOptionMarks (marks : List Char) : Bool :=
  marks.all (· ∈ optionMarks) && decide marks.Nodup && marks.getLast? != some '-'

/-- The options after marks, where `on` says what the next one is set to. -/
def Options.set (o : Options) (on : Bool) : List Char → Options
  | [] => o
  | '-' :: marks => o.set false marks
  | 'i' :: marks => { o with foldCase := on }.set on marks
  | 'u' :: marks => { o with unicode := on }.set on marks
  | 'x' :: marks => { o with spaced := on }.set on marks
  | _ :: marks => o.set on marks

/-- Whether a text is the name of a group. -/
def isGroupName : List Char → Bool
  | [] => false
  | c :: cs =>
    (isLetter c || c == '_') && cs.all fun c => isAlphanumeric c || c ∈ ['_', '.', '[', ']']

/-- The name of a group and the text behind its bracket, read from behind the opening bracket. -/
def groupName? (text : List Char) : Option (Opening × List Char) :=
  match text.dropWhile (· != '>') with
  | [] => none
  | _ :: rest =>
    let name := text.takeWhile (· != '>')
    if isGroupName name then some (.namedGroup name, rest) else none

/-- What an opening parenthesis begins and the text behind that, read from behind it. -/
def opening? (o : Options) (text : List Char) : Option (Opening × List Char) :=
  match o.skip text with
  | '?' :: 'P' :: '<' :: rest => groupName? rest
  | '?' :: '<' :: rest => groupName? rest
  | '?' :: rest =>
    let isMark (c : Char) : Bool := c != ':' && c != ')'
    let marks := rest.takeWhile isMark
    if areOptionMarks marks then
      match rest.dropWhile isMark with
      | ':' :: rest => some (.group (o.set true marks), rest)
      | ')' :: rest => if marks = [] then none else some (.options (o.set true marks), rest)
      | _ => none
    else none
  | rest => some (.group o, rest)

/-! ## 2. Sequences -/

/-- A part of a branch: its height, and whether it can be repeated. -/
structure Part where
  height : Nat
  isRepeatable : Bool
  deriving Repr, DecidableEq

/-- What was read of a group, or of the pattern itself: the options, the heights of the branches
before the current one, and the parts of that, the last one first. -/
structure Level where
  options : Options
  branches : List Nat
  parts : List Part
  deriving Repr, DecidableEq

namespace Level

/-- A level of which nothing was read. -/
def start (o : Options) : Level := ⟨o, [], []⟩

/-- The height of the current branch. -/
def branchHeight (l : Level) : Nat := jointHeight (l.parts.map (·.height))

/-- The height of all branches. -/
def height (l : Level) : Nat := jointHeight (l.branchHeight :: l.branches)

/-- The level with one more part of a height. -/
def push (l : Level) (height : Nat) : Level := { l with parts := ⟨height, true⟩ :: l.parts }

/-- The level with a new branch. -/
def branch (l : Level) : Level := { l with branches := l.branchHeight :: l.branches, parts := [] }

/-- The level with options for what follows. They are a part that cannot be repeated. -/
def setOptions (l : Level) (o : Options) : Level :=
  { l with options := o, parts := ⟨0, false⟩ :: l.parts }

/-- The level with its last part repeated. -/
def repeatLast? (l : Level) : Option Level :=
  match l.parts with
  | ⟨height, true⟩ :: parts => some { l with parts := ⟨height + 1, true⟩ :: parts }
  | _ => none

end Level

/-! ## 3. Patterns -/

/-- The height of a pattern, where `level` is what was read of it, `outer` of the groups around that
and `names` are the names of its groups so far. No more than `fuel` steps are taken, and each but
the last reads a character at least. -/
def scan : Nat → List (List Char) → Level → List Level → List Char → Option Nat
  | 0, _, _, _, _ => none
  | fuel + 1, names, level, outer, text =>
    let o := level.options
    match o.skip text with
    | [] => if outer = [] then some level.height else none
    | '(' :: rest =>
      match opening? o rest with
      | none => none
      | some (.options o, rest) => scan fuel names (level.setOptions o) outer rest
      | some (.group o, rest) => scan fuel names (.start o) (level :: outer) rest
      | some (.namedGroup name, rest) =>
        if name ∈ names then none else scan fuel (name :: names) (.start o) (level :: outer) rest
    | ')' :: rest =>
      match outer with
      | [] => none
      | parent :: outer => scan fuel names (parent.push (level.height + 1)) outer rest
    | '|' :: rest => scan fuel names level.branch outer rest
    | '[' :: rest =>
      match bracket? o rest with
      | none => none
      | some (height, rest) => scan fuel names (level.push height) outer rest
    | '{' :: _ => none
    | '\\' :: rest =>
      match escapeAtom? o rest with
      | none => none
      | some (atom, rest) =>
        if atom.isAllowed o then scan fuel names (level.push 0) outer rest else none
    | c :: rest =>
      if c ∈ ['?', '*', '+'] then
        match level.repeatLast? with
        | none => none
        | some level =>
          scan fuel names level outer (if rest.head? = some '?' then rest.tail else rest)
      else if c = '.' then if o.unicode then scan fuel names (level.push 0) outer rest else none
      else if c = '^' || c = '$' || (Atom.literal c false).isAllowed o then
        scan fuel names (level.push 0) outer rest
      else none

/-- The most that a pattern may be nested. -/
def heightLimit : Nat := 250

end Pattern

/-- **Whether a text is a pattern.** -/
def isPattern (text : List Char) : Bool :=
  (Pattern.scan (text.length + 1) [] (.start .initial) [] text).any (· ≤ Pattern.heightLimit)

example : isPattern "a|(?<n>[^\\]z--[:alpha:]]+?)\\.$".toList ∧ isPattern "(?-u)\\w\\b".toList ∧
    isPattern "(?x) a # (".toList ∧ isPattern [] := by decide +kernel

example : ¬isPattern "(?i)x".toList ∧ ¬isPattern "\\w".toList ∧ ¬isPattern "(?-u).".toList ∧
    ¬isPattern "[z-a]".toList ∧ ¬isPattern "|*".toList ∧ ¬isPattern "a)".toList := by decide +kernel

end VisitorNodes.Text
