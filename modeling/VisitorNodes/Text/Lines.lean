/-!
# Lines, and a buffer that grows by lines

Two readings of "line" meet here:

* a text is READ as lines by `lines`: a line feed ends a line, one carriage return directly before
  that line feed belongs to the ending, and a text that ends with a line feed has no further line.
  A carriage return anywhere else is an ordinary character;
* a text is WRITTEN by `pushLine`: every line is closed by a line feed, the last one too.

`pushIndented` reads a text as lines and writes them again, moved to the right. Empty lines stay
empty.
-/

namespace VisitorNodes.Text

/-! ## 1. Reading lines -/

/-- A piece that stood before a line feed, without the carriage return that belongs to the
ending. -/
def dropReturn (piece : List Char) : List Char :=
  if piece.getLast? = some '\r' then piece.dropLast else piece

/-- The lines among the pieces between line feeds: every piece but the last stood before a line
feed; the last is a line only if it holds something. -/
def closeLines : List (List Char) → List (List Char)
  | [] => []
  | [rest] => if rest = [] then [] else [rest]
  | piece :: next :: pieces => dropReturn piece :: closeLines (next :: pieces)

/-- The lines of a text, as characters. -/
def linesOf (cs : List Char) : List (List Char) := closeLines (cs.splitOn '\n')

/-- The lines of a text. -/
def lines (text : String) : List String := (linesOf text.toList).map String.ofList

example : lines "a\r\n\nb\rc\r" = ["a", "", "b\rc\r"] := by decide +kernel

example : lines "a\n" = ["a"] ∧ lines "a\n\n" = ["a", ""] ∧ lines "" = [] := by decide +kernel

/-! ## 2. Writing lines -/

/-- The buffer with one more line. -/
def pushLine (out line : String) : String := out ++ line ++ "\n"

/-- The buffer with more lines. -/
def pushLines (out : String) (ls : List String) : String := ls.foldl pushLine out

@[simp] theorem pushLines_nil (out : String) : pushLines out [] = out := rfl

@[simp] theorem pushLines_cons (out l : String) (ls : List String) :
    pushLines out (l :: ls) = pushLines (pushLine out l) ls := rfl

theorem pushLines_append (out : String) (ks ls : List String) :
    pushLines out (ks ++ ls) = pushLines (pushLines out ks) ls := List.foldl_append

/-- **A buffer keeps what it holds**: lines pushed to it stand behind it, as they stand alone. -/
theorem pushLines_eq_append (out : String) (ls : List String) :
    pushLines out ls = out ++ pushLines "" ls := by
  induction ls generalizing out with
  | nil => simp
  | cons l ls ih =>
    rw [pushLines_cons, pushLines_cons, ih (pushLine out l), ih (pushLine "" l)]
    simp [pushLine, String.append_assoc]

/-! ## 3. Indentation -/

/-- The white space before a line at `level`: four spaces a step. -/
def indentation (level : Nat) : String := String.ofList (List.replicate (4 * level) ' ')

/-- A line moved to `level`. An empty line stays empty. -/
def indentLine (level : Nat) (line : String) : String :=
  if line = "" then "" else indentation level ++ line

/-- The buffer with the lines of `text`, each moved to `level`. -/
def pushIndented (out text : String) (level : Nat) : String :=
  pushLines out ((lines text).map (indentLine level))

/-- Indenting also only adds to the buffer. -/
theorem pushIndented_eq_append (out text : String) (level : Nat) :
    pushIndented out text level = out ++ pushIndented "" text level :=
  pushLines_eq_append out _

/-! ## 4. What a buffer gained -/

/-- The text behind the first `before.length` characters of `after`. -/
def gained (before after : String) : String := String.ofList (after.toList.drop before.length)

@[simp] theorem gained_append (before added : String) :
    gained before (before ++ added) = added := by
  simp [gained, ← String.length_toList]

end VisitorNodes.Text
