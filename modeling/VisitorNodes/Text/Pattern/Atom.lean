import VisitorNodes.Text.Blank

/-!
# Patterns: options and single characters

Patterns are regular expressions over code points for a matcher that has no tables of characters. So
under the option `unicode`, which is on at the start, there are no classes such as `\w`, no bounds
of words and no letters without case: each of them would need a table. Without the option they mean
ASCII characters only, but then everything that could match a single byte of a longer character is
refused.

An atom is a single character of a pattern or an escape. What an atom may be depends on the options
and on whether it stands in a bracket.
-/

namespace VisitorNodes.Text.Pattern

/-! ## 1. Options -/

/-- The options under which a part of a pattern is read, as far as they decide what is allowed. -/
structure Options where
  /-- Letters stand for both cases. -/
  foldCase : Bool
  /-- What matches is code points, not bytes. -/
  unicode : Bool
  /-- Blanks, and comments from `#` to the end of the line, are left out. -/
  spaced : Bool
  deriving Repr, DecidableEq

/-- The options at the start of a pattern. -/
def Options.initial : Options := ⟨false, true, false⟩

/-- The text without the blanks and comments at its start. -/
def skipSpace (inComment : Bool) : List Char → List Char
  | [] => []
  | c :: cs =>
    if inComment then skipSpace (c != '\n') cs
    else if isBlank c then skipSpace false cs
    else if c = '#' then skipSpace true cs
    else c :: cs

/-- The text from where a pattern goes on. -/
def Options.skip (o : Options) (text : List Char) : List Char :=
  if o.spaced then skipSpace false text else text

/-! ## 2. Atoms -/

/-- A single character of a pattern or an escape. -/
inductive Atom where
  /-- A character. It may be given as a byte. -/
  | literal (c : Char) (isByte : Bool)
  /-- The digits, the blanks or the characters of words, or all others. -/
  | named (negated : Bool)
  /-- A bound of a word. -/
  | wordBound
  /-- The start or the end of the text. -/
  | textBound
  deriving Repr, DecidableEq

/-- Whether an atom may stand outside brackets. -/
def Atom.isAllowed (o : Options) : Atom → Bool
  | .literal c isByte => if o.unicode then !o.foldCase else !isByte || c.toNat < 0x80
  | .named negated => !o.unicode && !negated
  | .wordBound => !o.unicode
  | .textBound => true

/-- Whether an atom may stand in a bracket. -/
def Atom.isAllowedInBracket (o : Options) : Atom → Bool
  | .literal c _ => if o.unicode then !o.foldCase else c.toNat < 0x80
  | .named negated => !o.unicode && !negated
  | .wordBound => false
  | .textBound => false

/-! ## 3. Escapes -/

/-- The value of a hexadecimal digit. -/
def hexDigit? (c : Char) : Option Nat :=
  if c.isDigit then some (c.toNat - '0'.toNat)
  else if 'a' ≤ c && c ≤ 'f' then some (c.toNat - 'a'.toNat + 10)
  else if 'A' ≤ c && c ≤ 'F' then some (c.toNat - 'A'.toNat + 10)
  else none

/-- The number that so many hexadecimal digits write behind those of a value, and the text behind
them. -/
def hexNumber? (o : Options) : Nat → Nat → List Char → Option (Nat × List Char)
  | 0, value, text => some (value, o.skip text)
  | count + 1, value, text =>
    match o.skip text with
    | [] => none
    | c :: cs =>
      match hexDigit? c with
      | none => none
      | some digit => hexNumber? o count (16 * value + digit) cs

/-- The character whose code point so many hexadecimal digits write. Two digits give a byte. -/
def codeAtom? (o : Options) (count : Nat) (text : List Char) : Option (Atom × List Char) :=
  match hexNumber? o count 0 text with
  | none => none
  | some (value, rest) =>
    if value.isValidChar then some (.literal (Char.ofNat value) (count = 2), rest) else none

/-- The characters that a letter behind a backslash stands for. -/
def controlEscapes : List (Char × Char) :=
  [('a', '\x07'), ('f', '\x0C'), ('t', '\t'), ('n', '\n'), ('r', '\r'), ('v', '\x0B')]

/-- Whether a backslash makes a character stand for itself. -/
def isEscapable (c : Char) : Bool :=
  c.toNat < 0x80 && !c.isAlphanum && c != '<' && c != '>'

/-- The atom that a backslash and the text behind it begin with, and the text behind the atom. -/
def escapeAtom? (o : Options) : List Char → Option (Atom × List Char)
  | [] => none
  | 'x' :: cs => codeAtom? o 2 cs
  | 'u' :: cs => codeAtom? o 4 cs
  | 'U' :: cs => codeAtom? o 8 cs
  | c :: cs =>
    if c ∈ ['d', 's', 'w'] then some (.named false, cs)
    else if c ∈ ['D', 'S', 'W'] then some (.named true, cs)
    else if c ∈ ['b', 'B', '<', '>'] then some (.wordBound, cs)
    else if c ∈ ['A', 'z'] then some (.textBound, cs)
    else if isEscapable c then some (.literal c false, cs)
    else (controlEscapes.lookup c).map fun control => (.literal control false, cs)

/-! ## 4. Heights -/

/-- The height of what has parts of these heights: that of its only part, or one more than that of
the highest of several. -/
def jointHeight : List Nat → Nat
  | [] => 0
  | [height] => height
  | heights => heights.foldl max 0 + 1

end VisitorNodes.Text.Pattern
