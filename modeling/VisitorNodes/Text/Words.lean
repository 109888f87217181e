import VisitorNodes.Text.Letter

/-!
# The words of a name

A compound name (`TypeExpr`, `HTTPServer`, `type_expr`) is read as words, which are then written in
another convention. Everything that is not a letter or a number separates words and is dropped.
Between separators a word ends

* after a lower-case character that an upper-case one follows: `typeExpr` is `type`, `Expr`;
* before the last upper-case character of a run that a lower-case one follows: `HTTPServer` is
  `HTTP`, `Server`.

A character without case (a digit) belongs to the case of the characters before it.
-/

namespace VisitorNodes.Text

/-! ## 1. Reading words -/

/-- The case of the characters of a word read so far. -/
inductive Case where
  | none
  | lower
  | upper
  deriving Repr, DecidableEq

/-- The case after one more character. -/
def Case.after (case : Case) (c : Char) : Case :=
  if isLower c then .lower else if isUpper c then .upper else case

/-- The words of a run of letters and numbers, where `word` is what was read of the current one. -/
def runWords (case : Case) (word : List Char) : List Char → List (List Char)
  | [] => []
  | [c] => [word ++ [c]]
  | c :: next :: rest =>
    if case.after c = .lower && isUpper next then
      (word ++ [c]) :: runWords .none [] (next :: rest)
    else if case = .upper && isUpper c && isLower next then
      word :: runWords .none [c] (next :: rest)
    else
      runWords (case.after c) (word ++ [c]) (next :: rest)

/-- The words of a name. -/
def words (cs : List Char) : List (List Char) :=
  (cs.splitOnP fun c => !isAlphanumeric c).flatMap (runWords .none [])

/-! ## 2. Writing words -/

/-- The words in lower case, joined by underscores: `TypeExpr` becomes `type_expr`. -/
def snakeCase (cs : List Char) : List Char := ['_'].intercalate ((words cs).map lowerText)

/-- The first word in lower case and the others capitalized: `type_expr` becomes `typeExpr`. -/
def lowerCamelCase (cs : List Char) : List Char :=
  match words cs with
  | [] => []
  | first :: others => lowerText first ++ others.flatMap capitalText

example : snakeCase "HTTPServerX2y".toList = "http_server_x2y".toList := by decide +kernel

example : lowerCamelCase "__Type-expr".toList = "typeExpr".toList := by decide +kernel

end VisitorNodes.Text
