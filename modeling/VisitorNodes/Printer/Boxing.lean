import VisitorNodes.Text.Blank
import VisitorNodes.Text.Letter

/-!
# Boxing the mentions of a category

A node type that holds its own category by value would have no finite size. So in the text of a
type every mention of the category, that is every whole word equal to its name, is put into a box
unless a pointer stands directly before it:

* `Stmt` becomes `Box<Stmt>` and `Option<Stmt>` becomes `Option<Box<Stmt>>`;
* `Vec<Stmt>` and `&Stmt` stay.

A type is read as `Piece`s, words and single other characters, and written piece by piece. Whether a
pointer stands before a mention is asked of the text already written, blanks at its end aside.
-/

namespace VisitorNodes.Boxing

open Text

/-! ## 1. Pieces of a type -/

/-- The characters of words: letters, numbers and the underscore. -/
def isWordChar (c : Char) : Bool := isAlphanumeric c || c == '_'

/-- A word, or one character that belongs to no word. -/
inductive Piece where
  | word (w : List Char)
  | mark (c : Char)
  deriving Repr, DecidableEq

/-- The text of a piece. -/
def Piece.text : Piece → List Char
  | .word w => w
  | .mark c => [c]

/-- Pieces with one more word character in front: it joins a word that comes first. -/
def consWord (c : Char) : List Piece → List Piece
  | .word w :: pieces => .word (c :: w) :: pieces
  | pieces => .word [c] :: pieces

/-- The pieces of a text. Words are as long as possible. -/
def pieces : List Char → List Piece
  | [] => []
  | c :: cs => if isWordChar c then consWord c (pieces cs) else .mark c :: pieces cs

theorem flatMap_text_consWord (c : Char) (ps : List Piece) :
    (consWord c ps).flatMap Piece.text = c :: ps.flatMap Piece.text := by
  cases ps with
  | nil => rfl
  | cons p ps => cases p <;> rfl

/-- **The pieces of a text make up the text.** -/
theorem flatMap_text_pieces (cs : List Char) : (pieces cs).flatMap Piece.text = cs := by
  induction cs with
  | nil => rfl
  | cons c cs ih =>
    unfold pieces
    split
    · rw [flatMap_text_consWord, ih]
    · simp [Piece.text, ih]

/-! ## 2. Boxing -/

/-- What a text ends with when the next word is already behind a pointer. -/
def pointers : List String := ["Box<", "Vec<", "VecDeque<", "Rc<", "Arc<", "&"]

/-- Whether a word is behind a pointer, where `behind` is the text before it, its last character
first. -/
def endsInPointer (behind : List Char) : Bool :=
  pointers.any fun p => p.toList.reverse.isPrefixOf (behind.dropWhile isBlank)

/-- Whether a word behind the text `before` is behind a pointer. -/
def isGuarded (before : List Char) : Bool := endsInPointer before.reverse

/-- A word in a box. -/
def inBox (word : List Char) : List Char := "Box<".toList ++ word ++ ">".toList

/-- How a piece is written, where `behind` is the text before it, its last character first. -/
def writePiece (category behind : List Char) : Piece → List Char
  | .word w => if w = category && !endsInPointer behind then inBox w else w
  | .mark c => [c]

/-- How pieces are written, mentions of the category boxed, where `behind` is the text before them,
its last character first. -/
def writePieces (category behind : List Char) : List Piece → List Char
  | [] => []
  | p :: ps =>
    let written := writePiece category behind p
    written ++ writePieces category (written.reverse ++ behind) ps

/-- The text of a type with the mentions of a category boxed. -/
def box (type category : String) : String :=
  String.ofList (writePieces category.toList [] (pieces type.toList))

example : box "Option<Stmt>" "Stmt" = "Option<Box<Stmt>>" := by decide +kernel

example : box "(Stmt, StmtList, & Stmt)" "Stmt" = "(Box<Stmt>, StmtList, & Stmt)" := by
  decide +kernel

end VisitorNodes.Boxing
