/-!
# Blank characters and trimming

A grammar line may be padded anywhere its parts meet. This file fixes what counts as padding:
the twenty-five characters of the Unicode property `White_Space` (`isBlank`), and the text that
remains when the padding at both ends is dropped (`trim`).

The information separators (U+001C to U+001F), the zero-width space and the byte order mark are
not blank.
-/

namespace VisitorNodes.Text

/-! ## 1. The class -/

/-- The characters with the Unicode property `White_Space`. -/
def isBlank (c : Char) : Bool :=
  let n := c.toNat
  (9 ≤ n && n ≤ 13) || n == 0x20 || n == 0x85 || n == 0xA0 || n == 0x1680
    || (0x2000 ≤ n && n ≤ 0x200A) || n == 0x2028 || n == 0x2029 || n == 0x202F
    || n == 0x205F || n == 0x3000

/-! ## 2. Trimming -/

/-- The text from its first character that is not blank. -/
def trimStart (cs : List Char) : List Char := cs.dropWhile isBlank

/-- The text up to its last character that is not blank. -/
def trimEnd (cs : List Char) : List Char := (cs.reverse.dropWhile isBlank).reverse

/-- The text without the blanks at its two ends. -/
def trim (cs : List Char) : List Char := trimEnd (trimStart cs)

@[simp] theorem trim_nil : trim [] = [] := rfl

end VisitorNodes.Text
