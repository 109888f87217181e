import VisitorNodes.Printer.Boxing
import VisitorNodes.Proofs.Text.Trim
/-!
# The words of a boxed type

A whole word of a text is a run of word characters with none beside it (`IsWholeWord`). The pieces
of a text are cut exactly there (`pieces_wholeWord`, `wholeWord_of_pieces`), so what boxing does to
pieces is what it does to words: the boxed text has the pieces of the type, and those of a box
around each mention that no pointer guards (`pieces_box`). It follows that a boxed text has no words
but those of its type and the inserted `Box`, and that every mention of the category in it is
guarded (`wholeWord_box`).
-/

namespace VisitorNodes.Boxing

open Text

/-! ## 1. Whole words -/

/-- Between `before` and `after`, `w` is a whole word: it holds something, only word characters, and
none stands beside it. -/
structure IsWholeWord (before w after : List Char) : Prop where
  ne : w ≠ []
  chars : ∀ c ∈ w, isWordChar c = true
  left : ∀ c, before.getLast? = some c → isWordChar c = false
  right : ∀ c, after.head? = some c → isWordChar c = false

/-- A text of word characters alone is a whole word. -/
theorem isWholeWord_alone {w : List Char} (hne : w ≠ []) (h : w.all isWordChar = true) :
    IsWholeWord [] w [] :=
  ⟨hne, List.all_eq_true.mp h, fun _ hc => (nomatch hc), fun _ hc => (nomatch hc)⟩

theorem isWholeWord_iff {before w after : List Char} : IsWholeWord before w after ↔
    w ≠ [] ∧ w.all isWordChar = true ∧ before.getLast?.all (!isWordChar ·) = true ∧
      after.head?.all (!isWordChar ·) = true := by
  simp only [List.all_eq_true, Option.all_eq_true, Bool.not_eq_true']
  exact ⟨fun h => ⟨h.ne, h.chars, h.left, h.right⟩, fun h => ⟨h.1, h.2.1, h.2.2.1, h.2.2.2⟩⟩

instance (before w after : List Char) : Decidable (IsWholeWord before w after) :=
  decidable_of_iff _ isWholeWord_iff.symm

/-- A text is a whole word of another. -/
def IsWordOf (w cs : List Char) : Prop :=
  ∃ before after, cs = before ++ w ++ after ∧ IsWholeWord before w after

/-- The text before a word ends in a pointer, blanks aside. -/
def BehindPointer (before : List Char) : Prop := ∃ p ∈ pointers, p.toList <:+ trimEnd before

theorem isGuarded_iff {before : List Char} : isGuarded before = true ↔ BehindPointer before := by
  unfold isGuarded endsInPointer BehindPointer
  rw [List.any_eq_true]
  refine exists_congr fun p => and_congr_right fun _ => ?_
  rw [List.isPrefixOf_iff_prefix, ← List.reverse_suffix, List.reverse_reverse]
  rfl

instance : DecidablePred BehindPointer := fun before =>
  decidable_of_iff (isGuarded before = true) isGuarded_iff

/-! ## 2. Pieces -/

/-- Pieces as a text has them: words hold word characters, marks are none, and no word follows
another. -/
def Separated : List Piece → Prop
  | [] => True
  | .word w :: ps => (w ≠ [] ∧ ∀ c ∈ w, isWordChar c = true) ∧
      (∀ w', ps.head? ≠ some (.word w')) ∧ Separated ps
  | .mark c :: ps => isWordChar c = false ∧ Separated ps

theorem separated_consWord {c : Char} (hc : isWordChar c = true) {ps : List Piece}
    (h : Separated ps) : Separated (consWord c ps) := by
  cases ps with
  | nil => exact ⟨⟨List.cons_ne_nil _ _, by simpa using hc⟩, fun _ e => (nomatch e), trivial⟩
  | cons p ps =>
    cases p with
    | word w =>
      obtain ⟨⟨_, hw⟩, hnext, hps⟩ := h
      exact ⟨⟨List.cons_ne_nil _ _, List.forall_mem_cons.mpr ⟨hc, hw⟩⟩, hnext, hps⟩
    | mark d =>
      exact ⟨⟨List.cons_ne_nil _ _, by simpa using hc⟩, fun _ e => (nomatch e), h⟩

theorem separated_pieces (cs : List Char) : Separated (pieces cs) := by
  induction cs with
  | nil => trivial
  | cons c cs ih =>
    unfold pieces
    split
    case isTrue hc => exact separated_consWord hc ih
    case isFalse hc => exact ⟨Bool.eq_false_iff.mpr hc, ih⟩

theorem pieces_eq_nil_iff {cs : List Char} : pieces cs = [] ↔ cs = [] := by
  constructor
  · intro h
    rw [← flatMap_text_pieces cs, h]
    rfl
  · intro h
    rw [h]
    rfl

/-- Text that does not begin with a word character does not begin with a word. -/
theorem consWord_pieces {c : Char} {cs : List Char}
    (h : ∀ d, cs.head? = some d → isWordChar d = false) :
    consWord c (pieces cs) = .word [c] :: pieces cs := by
  cases cs with
  | nil => rfl
  | cons d ds =>
    have hd : ¬ isWordChar d = true := Bool.eq_false_iff.mp (h d rfl)
    rw [pieces, if_neg hd]
    rfl

theorem consWord_append (c : Char) {ps : List Piece} (h : ps ≠ []) (qs : List Piece) :
    consWord c (ps ++ qs) = consWord c ps ++ qs := by
  cases ps with
  | nil => exact absurd rfl h
  | cons p ps => cases p <;> rfl

/-- Texts that meet beside a mark are cut apart there. -/
theorem pieces_append {cs ds : List Char}
    (h : (∀ c, cs.getLast? = some c → isWordChar c = false) ∨
      ∀ d, ds.head? = some d → isWordChar d = false) :
    pieces (cs ++ ds) = pieces cs ++ pieces ds := by
  induction cs with
  | nil => rfl
  | cons c cs ih =>
    rw [List.cons_append]
    by_cases hc : isWordChar c = true
    · rw [pieces, if_pos hc, pieces, if_pos hc]
      cases cs with
      | nil =>
        have hds := h.resolve_left fun hl => by rw [hl c rfl] at hc; cases hc
        rw [List.nil_append, consWord_pieces hds]
        rfl
      | cons c' cs =>
        have hne : pieces (c' :: cs) ≠ [] := mt pieces_eq_nil_iff.mp (List.cons_ne_nil _ _)
        rw [List.getLast?_cons_cons] at h
        rw [ih h, consWord_append c hne]
    · rw [pieces, if_neg hc, pieces, if_neg hc]
      cases cs with
      | nil => rfl
      | cons c' cs =>
        rw [List.getLast?_cons_cons] at h
        rw [ih h]
        rfl

/-- A text of word characters is one word. -/
theorem pieces_of_wordChars {w : List Char} (hne : w ≠ []) (h : ∀ c ∈ w, isWordChar c = true) :
    pieces w = [.word w] := by
  induction w with
  | nil => exact absurd rfl hne
  | cons c cs ih =>
    rw [List.forall_mem_cons] at h
    rw [pieces, if_pos h.1]
    cases cs with
    | nil => rfl
    | cons d ds =>
      rw [ih (List.cons_ne_nil _ _) h.2]
      rfl

/-- **A text is cut around its whole words.** -/
theorem pieces_wholeWord {before w after : List Char} (h : IsWholeWord before w after) :
    pieces (before ++ w ++ after) = pieces before ++ .word w :: pieces after := by
  rw [List.append_assoc, pieces_append (.inl h.left), pieces_append (.inr h.right),
    pieces_of_wordChars h.ne h.chars]
  rfl

/-- The first character of separated pieces is no word character unless a word comes first. -/
theorem head?_flatMap_text {ps : List Piece} (h : Separated ps)
    (hp : ∀ w, ps.head? ≠ some (.word w)) {c : Char}
    (hc : (ps.flatMap Piece.text).head? = some c) : isWordChar c = false := by
  cases ps with
  | nil => cases hc
  | cons p ps =>
    cases p with
    | word w => exact absurd rfl (hp w)
    | mark d =>
      cases hc
      exact h.1

theorem Separated.of_append {ps qs : List Piece} (h : Separated (ps ++ qs)) : Separated qs := by
  induction ps with
  | nil => exact h
  | cons p ps ih =>
    cases p with
    | word w => exact ih h.2.2
    | mark c => exact ih h.2

/-- Words among separated pieces are whole words of their text. -/
theorem wholeWord_of_separated {ps qs : List Piece} {w : List Char}
    (h : Separated (ps ++ .word w :: qs)) :
    IsWholeWord (ps.flatMap Piece.text) w (qs.flatMap Piece.text) := by
  obtain ⟨⟨hne, hw⟩, hnext, hqs⟩ := h.of_append
  refine ⟨hne, hw, fun c hc => ?_, fun c hc => head?_flatMap_text hqs hnext hc⟩
  rcases List.eq_nil_or_concat' ps with rfl | ⟨init, p, rfl⟩
  · cases hc
  · rw [List.append_assoc] at h
    cases p with
    | word u => exact absurd rfl (h.of_append.2.1 w)
    | mark d =>
      rw [List.flatMap_append, List.flatMap_singleton, Piece.text, List.getLast?_concat] at hc
      cases hc
      exact h.of_append.1

/-- **The word pieces of a text are its whole words.** -/
theorem word_mem_pieces_iff {w cs : List Char} : .word w ∈ pieces cs ↔ IsWordOf w cs := by
  constructor
  · intro h
    obtain ⟨ps, qs, e⟩ := List.append_of_mem h
    refine ⟨ps.flatMap Piece.text, qs.flatMap Piece.text, ?_, ?_⟩
    · rw [← flatMap_text_pieces cs, e, List.flatMap_append, List.flatMap_cons, List.append_assoc]
      rfl
    · exact wholeWord_of_separated (e ▸ separated_pieces cs)
  · intro given
    obtain ⟨before, after, rfl, h⟩ := given
    rw [pieces_wholeWord h]
    exact List.mem_append_right _ List.mem_cons_self

instance (w cs : List Char) : Decidable (IsWordOf w cs) :=
  decidable_of_iff (.word w ∈ pieces cs) word_mem_pieces_iff

/-! ## 3. Boxing, piece by piece -/

/-- The pieces that a piece becomes, where `behind` is the text before it, its last character
first. -/
def boxPiece (category behind : List Char) : Piece → List Piece
  | .word w =>
    if w = category && !endsInPointer behind then
      [.word "Box".toList, .mark '<', .word w, .mark '>']
    else [.word w]
  | .mark c => [.mark c]

/-- The pieces that pieces become. -/
def boxPieces (category behind : List Char) : List Piece → List Piece
  | [] => []
  | p :: ps =>
    boxPiece category behind p
      ++ boxPieces category ((writePiece category behind p).reverse ++ behind) ps

theorem pieces_inBox {w : List Char} (hne : w ≠ []) (h : ∀ c ∈ w, isWordChar c = true) :
    pieces (inBox w) = [.word "Box".toList, .mark '<', .word w, .mark '>'] := by
  have hopen : "Box<".toList = "Box".toList ++ ['<'] := by decide
  have hclose : ">".toList = ['>'] := by decide
  have hbox : pieces ("Box".toList ++ ['<']) = [.word "Box".toList, .mark '<'] := by decide
  have hangle : pieces ['>'] = [.mark '>'] := by decide
  have hlast : ∀ c, ("Box".toList ++ ['<']).getLast? = some c → isWordChar c = false := by
    intro c hc
    rw [List.getLast?_concat] at hc
    cases hc
    decide
  have hfirst : ∀ c, ['>'].head? = some c → isWordChar c = false := by
    intro c hc
    cases hc
    decide
  unfold inBox
  rw [hopen, hclose, pieces_append (.inr hfirst), pieces_append (.inl hlast), hbox, hangle,
    pieces_of_wordChars hne h]
  rfl

theorem pieces_writePiece {p : Piece} {ps : List Piece} (h : Separated (p :: ps))
    (category behind : List Char) :
    pieces (writePiece category behind p) = boxPiece category behind p := by
  cases p with
  | word w =>
    obtain ⟨⟨hne, hw⟩, _, _⟩ := h
    unfold writePiece boxPiece
    dsimp only
    split
    · exact pieces_inBox hne hw
    · exact pieces_of_wordChars hne hw
  | mark c =>
    show pieces [c] = [.mark c]
    rw [pieces, if_neg (Bool.eq_false_iff.mp h.1)]
    rfl

/-- Written pieces begin with a word character only if a word comes first. -/
theorem head?_writePieces {ps : List Piece} (h : Separated ps)
    (hp : ∀ w, ps.head? ≠ some (.word w)) (category behind : List Char) {c : Char}
    (hc : (writePieces category behind ps).head? = some c) : isWordChar c = false := by
  cases ps with
  | nil => cases hc
  | cons p ps =>
    cases p with
    | word w => exact absurd rfl (hp w)
    | mark d =>
      cases hc
      exact h.1

/-- The pieces of the written text. -/
theorem pieces_writePieces {ps : List Piece} (h : Separated ps) (category behind : List Char) :
    pieces (writePieces category behind ps) = boxPieces category behind ps := by
  induction ps generalizing behind with
  | nil => rfl
  | cons p ps ih =>
    unfold writePieces boxPieces
    cases p with
    | word w =>
      have hrest := head?_writePieces h.2.2 h.2.1 category
      rw [pieces_append (.inr fun c hc => hrest _ hc), pieces_writePiece h, ih h.2.2]
    | mark c =>
      have hmark : ∀ d, (writePiece category behind (.mark c)).getLast? = some d →
          isWordChar d = false := by
        intro d hd
        cases hd
        exact h.1
      rw [pieces_append (.inl hmark), pieces_writePiece h, ih h.2]

/-- **The pieces of a boxed type.** -/
theorem pieces_box (type category : String) :
    pieces (box type category).toList = boxPieces category.toList [] (pieces type.toList) := by
  unfold box
  rw [String.toList_ofList]
  exact pieces_writePieces (separated_pieces _) _ _

/-! ## 4. The words of a boxed type -/

theorem flatMap_text_boxPiece (category behind : List Char) (p : Piece) :
    (boxPiece category behind p).flatMap Piece.text = writePiece category behind p := by
  cases p with
  | word w =>
    unfold writePiece boxPiece
    dsimp only
    split
    · rfl
    · exact List.append_nil w
  | mark c => rfl

/-- A text that ends with the opening of a box ends in a pointer. -/
theorem endsInPointer_box (behind : List Char) :
    endsInPointer (("Box".toList ++ ['<']).reverse ++ behind) = true := by
  unfold endsInPointer
  rw [List.any_eq_true]
  exact ⟨"Box<", List.mem_cons_self, rfl⟩

/-- A word among the pieces that one piece becomes. -/
theorem word_of_boxPiece {category behind w : List Char} {p : Piece} {xs ys : List Piece}
    (e : boxPiece category behind p = xs ++ .word w :: ys) :
    w = "Box".toList ∨ p = .word w ∧
      (w = category → endsInPointer ((xs.flatMap Piece.text).reverse ++ behind) = true) := by
  cases p with
  | mark c =>
    cases xs with
    | nil => cases e
    | cons x xs => cases xs <;> cases (List.cons.inj e).2
  | word u =>
    unfold boxPiece at e
    dsimp only at e
    split at e
    case isTrue =>
      -- the word is the inserted one, or the third piece, behind the opening of the box
      rcases xs with _ | ⟨x, _ | ⟨y, _ | ⟨z, xs⟩⟩⟩
      · cases e
        exact .inl rfl
      · cases e
      · cases e
        exact .inr ⟨rfl, fun _ => endsInPointer_box behind⟩
      · have hclose := (List.cons.inj (List.cons.inj (List.cons.inj e).2).2).2
        cases xs with
        | nil => cases hclose
        | cons t xs => cases xs <;> cases (List.cons.inj hclose).2
    case isFalse hu =>
      cases xs with
      | cons x xs => cases xs <;> cases (List.cons.inj e).2
      | nil =>
        cases e
        refine .inr ⟨rfl, fun hw => ?_⟩
        rw [Bool.and_eq_true, not_and, decide_eq_true_iff] at hu
        simpa using hu hw

/-- Where a word stands among boxed pieces, it is an inserted `Box` or a word of the type, and a
mention of the category is guarded by what was written before it. -/
theorem word_of_boxPieces {category behind w : List Char} {ps xs ys : List Piece}
    (e : boxPieces category behind ps = xs ++ .word w :: ys) :
    w = "Box".toList ∨ .word w ∈ ps ∧
      (w = category → endsInPointer ((xs.flatMap Piece.text).reverse ++ behind) = true) := by
  induction ps generalizing behind xs with
  | nil => cases xs <;> cases e
  | cons p ps ih =>
    unfold boxPieces at e
    rcases List.append_eq_append_iff.mp e with ⟨xs', rfl, hrest⟩ | ⟨ys', hp, hrest⟩
    · -- the word stands behind the pieces of `p`
      obtain hbox | ⟨hmem, hguard⟩ := ih hrest
      · exact .inl hbox
      · refine .inr ⟨List.mem_cons_of_mem _ hmem, fun hw => ?_⟩
        rw [List.flatMap_append, flatMap_text_boxPiece, List.reverse_append, List.append_assoc]
        exact hguard hw
    · cases ys' with
      | nil =>
        rw [List.append_nil] at hp
        have hrest' : boxPieces category ((writePiece category behind p).reverse ++ behind) ps
            = [] ++ .word w :: ys := hrest.symm
        obtain hbox | ⟨hmem, hguard⟩ := ih hrest'
        · exact .inl hbox
        · refine .inr ⟨List.mem_cons_of_mem _ hmem, fun hw => ?_⟩
          rw [← hp, flatMap_text_boxPiece]
          exact hguard hw
      | cons y ys' =>
        obtain ⟨rfl, _⟩ := List.cons.inj hrest
        exact (word_of_boxPiece hp).imp_right fun ⟨hword, hguard⟩ =>
          ⟨List.mem_cons.mpr (.inl hword.symm), hguard⟩

/-- **A whole word of a boxed type is an inserted `Box` or a whole word of the type, and a mention of
the category is guarded.** -/
theorem wholeWord_box {type category : String} {before w after : List Char}
    (e : (box type category).toList = before ++ w ++ after) (h : IsWholeWord before w after) :
    w = "Box".toList ∨
      IsWordOf w type.toList ∧ (w = category.toList → BehindPointer before) := by
  have hpieces := pieces_box type category
  rw [e, pieces_wholeWord h] at hpieces
  refine (word_of_boxPieces hpieces.symm).imp_right fun ⟨hmem, hguard⟩ =>
    ⟨word_mem_pieces_iff.mp hmem, fun hw => isGuarded_iff.mp ?_⟩
  have hg := hguard hw
  rwa [flatMap_text_pieces, List.append_nil] at hg

end VisitorNodes.Boxing
