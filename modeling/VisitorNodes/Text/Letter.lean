import VisitorNodes.Text.Letter.ClassTable
import VisitorNodes.Text.Letter.CaseTable

/-!
# Letters: classes and case mappings

The classes and the full, locale-free case mappings of the Unicode standard. Below U+0080 they are
decided by rule, so that statements about ASCII text never look at a table; from there on the tables
decide.

A mapping may give several characters (`ß` becomes `SS`), so it gives a list.
-/

namespace VisitorNodes.Text

/-! ## 1. Classes -/

/-- A letter or a number. -/
def isAlphanumeric (c : Char) : Bool :=
  if c.toNat < 0x80 then c.isAlphanum else alphanumericStretches.any (·.holds c.toNat)

/-- A letter. -/
def isLetter (c : Char) : Bool :=
  if c.toNat < 0x80 then c.isAlpha
  else isAlphanumeric c && !numeralStretches.any (·.holds c.toNat)

/-- An upper-case character. -/
def isUpper (c : Char) : Bool :=
  if c.toNat < 0x80 then c.isUpper else uppercaseStretches.any (·.holds c.toNat)

/-- A lower-case character. -/
def isLower (c : Char) : Bool :=
  if c.toNat < 0x80 then c.isLower else lowercaseStretches.any (·.holds c.toNat)

/-! ## 2. Mappings -/

/-- The mapping that expansions and shifts describe; a character that neither names stays. -/
def mapCase (expansions : List (Nat × List Nat)) (shifts : List Shift) (c : Char) : List Char :=
  match expansions.lookup c.toNat with
  | some ns => ns.map Char.ofNat
  | none =>
    match Shift.find? shifts c.toNat with
    | some n => [Char.ofNat n]
    | none => [c]

/-- The full upper-case mapping of a character. -/
def upperCase (c : Char) : List Char :=
  if c.toNat < 0x80 then [c.toUpper] else mapCase upperExpansions upperShifts c

/-- The full lower-case mapping of a character. -/
def lowerCase (c : Char) : List Char :=
  if c.toNat < 0x80 then [c.toLower] else mapCase lowerExpansions lowerShifts c

/-- A text with its first character upper-cased and the rest untouched. -/
def capitalize : List Char → List Char
  | [] => []
  | c :: cs => upperCase c ++ cs

/-- A text in lower case. A capital sigma that ends the text becomes the final form. -/
def lowerText : List Char → List Char
  | [] => []
  | [c] => if c = '\u03A3' then ['\u03C2'] else lowerCase c
  | c :: d :: cs => lowerCase c ++ lowerText (d :: cs)

/-- A text with its first character in upper case and the rest in lower case. -/
def capitalText : List Char → List Char
  | [] => []
  | c :: cs => upperCase c ++ lowerText cs

end VisitorNodes.Text
