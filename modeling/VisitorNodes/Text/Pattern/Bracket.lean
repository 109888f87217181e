import VisitorNodes.Text.Pattern.Atom

/-!
# Patterns: brackets

A bracket `[...]` is a set of characters: single ones, ranges, named ASCII sets such as `[:alpha:]`,
inner brackets, and the operations `&&`, `--` and `~~` on what stands before and behind them. `^` at
the start negates it. Dashes at the start stand for themselves, and so does a closing bracket that
comes first, so no bracket is empty.
-/

namespace VisitorNodes.Text.Pattern

/-! ## 1. Items -/

/-- The names of the ASCII sets. -/
def asciiSets : List String :=
  ["alnum", "alpha", "ascii", "blank", "cntrl", "digit", "graph", "lower", "print", "punct",
   "space", "upper", "word", "xdigit"]

/-- Whether a named ASCII set is negated and the text behind it, read from behind its bracket. -/
def asciiSet? : List Char → Option (Bool × List Char)
  | ':' :: text =>
    let negated := text.head? = some '^'
    let text := if negated then text.tail else text
    match text.dropWhile (· != ':') with
    | ':' :: ']' :: rest =>
      if String.ofList (text.takeWhile (· != ':')) ∈ asciiSets then some (negated, rest) else none
    | _ => none
  | _ => none

/-- Whether a named ASCII set may stand in a bracket. -/
def allowsAsciiSet (o : Options) (negated : Bool) : Bool :=
  if o.unicode then !o.foldCase else !negated

/-- The atom that a text begins with, and the text behind it. -/
def bracketAtom? (o : Options) : List Char → Option (Atom × List Char)
  | [] => none
  | '\\' :: cs => escapeAtom? o cs
  | c :: cs => some (.literal c false, cs)

/-- The character that decides whether a dash makes a range, where `text` stands behind the dash:
the next one, the blanks and at most one `#` before it left out if the options say so. -/
def afterDash (o : Options) (text : List Char) : Option Char :=
  if o.spaced then
    match trimStart text with
    | '#' :: cs => (trimStart cs).head?
    | cs => cs.head?
  else text.head?

/-- Whether an atom may end a range in a bracket that begins with a character. -/
def Atom.isRangeEnd (o : Options) (low : Char) : Atom → Bool
  | .literal high isByte => low ≤ high && (Atom.literal high isByte).isAllowedInBracket o
  | _ => false

/-- The text behind the single character or the range that a text begins with. -/
def skipRange? (o : Options) (text : List Char) : Option (List Char) :=
  match bracketAtom? o text with
  | none => none
  | some (first, rest) =>
    if !first.isAllowedInBracket o then none
    else
      match o.skip rest with
      | '-' :: behind =>
        if afterDash o behind = some ']' || afterDash o behind = some '-' then
          some ('-' :: behind)
        else
          match first, bracketAtom? o (o.skip behind) with
          | .literal low _, some (high, rest) =>
            if high.isRangeEnd o low then some rest else none
          | _, _ => none
      | rest => some rest

/-! ## 2. Sets -/

/-- What was read of a bracket: the heights of its items since the last operation, the height of
what stands before that, and whether there were only dashes so far. -/
structure Bracket where
  items : List Nat
  left? : Option Nat
  atStart : Bool
  deriving Repr, DecidableEq

namespace Bracket

/-- A bracket of which nothing was read. -/
def start : Bracket := ⟨[], none, true⟩

/-- The height of what was read. -/
def height (b : Bracket) : Nat :=
  match b.left? with
  | none => jointHeight b.items
  | some left => max left (jointHeight b.items) + 1

/-- The bracket with one more item. -/
def push (b : Bracket) (height : Nat) : Bracket := { b with items := height :: b.items }

end Bracket

/-- The text behind the opening bracket of a set and its `^`. Negated sets need `unicode`. -/
def openBracket? (o : Options) (text : List Char) : Option (List Char) :=
  match o.skip text with
  | '^' :: rest => if o.unicode then some rest else none
  | rest => some rest

/-- The height of a bracket and the text behind it, where `b` is what was read of it and `outer` of
the brackets around it. No more than `fuel` steps are taken, and each reads a character at least. -/
def scanBracket (o : Options) : Nat → Bracket → List Bracket → List Char →
    Option (Nat × List Char)
  | 0, _, _, _ => none
  | fuel + 1, b, outer, text =>
    match o.skip text with
    | [] => none
    | c :: rest =>
      if b.atStart && (c == '-' || c == ']' && b.items.isEmpty) then
        if (Atom.literal c false).isAllowedInBracket o then
          scanBracket o fuel { b.push 0 with atStart := c == '-' } outer rest
        else none
      else
        let b := { b with atStart := false }
        match c, rest with
        | ']', _ =>
          match outer with
          | [] => some (b.height + 1, rest)
          | parent :: outer => scanBracket o fuel (parent.push (b.height + 1)) outer rest
        | '[', _ =>
          match asciiSet? rest with
          | some (negated, rest) =>
            if allowsAsciiSet o negated then scanBracket o fuel (b.push 0) outer rest else none
          | none =>
            match openBracket? o rest with
            | none => none
            | some rest => scanBracket o fuel .start (b :: outer) rest
        | '&', '&' :: rest => scanBracket o fuel ⟨[], some b.height, false⟩ outer rest
        | '-', '-' :: rest => scanBracket o fuel ⟨[], some b.height, false⟩ outer rest
        | '~', '~' :: rest => scanBracket o fuel ⟨[], some b.height, false⟩ outer rest
        | _, _ =>
          match skipRange? o (c :: rest) with
          | none => none
          | some rest => scanBracket o fuel (b.push 0) outer rest

/-- The height of a bracket and the text behind it, read from behind its opening bracket. -/
def bracket? (o : Options) (text : List Char) : Option (Nat × List Char) :=
  match openBracket? o text with
  | none => none
  | some rest => scanBracket o (rest.length + 1) .start [] rest

end VisitorNodes.Text.Pattern
