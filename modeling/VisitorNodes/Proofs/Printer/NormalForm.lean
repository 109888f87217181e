import VisitorNodes.Proofs.Printer.Mentions
/-!
# Boxing reaches its normal form at once

A type is in normal form when a pointer guards every mention of the category in it (`AllGuarded`).
These are exactly the types that boxing leaves as they are (`box_eq_self_iff`): as long as nothing
is boxed, what was written is the type itself, and a box makes the text longer for good
(`length_le_writePieces`). Boxing leads there in one pass (`allGuarded_box`), so a second pass has
nothing left to do (`box_normalForm`).

Only the category `Box` has no normal form: the box itself is a mention of it.
-/

namespace VisitorNodes.Boxing

open Text

/-! ## 1. Guarded types -/

/-- Every mention of the category in a type is guarded by a pointer. -/
def AllGuarded (category type : List Char) : Prop :=
  ∀ before after, type = before ++ category ++ after → IsWholeWord before category after →
    BehindPointer before

/-- The same of pieces, where `behind` is the text before them, its last character first. -/
def AllGuardedPieces (category behind : List Char) (ps : List Piece) : Prop :=
  ∀ before after, ps = before ++ .word category :: after →
    endsInPointer ((before.flatMap Piece.text).reverse ++ behind) = true

/-- **The mentions in a type are those among its pieces.** -/
theorem allGuarded_iff_pieces {category type : List Char} :
    AllGuarded category type ↔ AllGuardedPieces category [] (pieces type) := by
  constructor
  · intro h before after hpieces
    have hword := wholeWord_of_separated (hpieces ▸ separated_pieces type)
    have hfound : type = before.flatMap Piece.text ++ category ++ after.flatMap Piece.text := by
      rw [← flatMap_text_pieces type, hpieces, List.flatMap_append, List.flatMap_cons,
        List.append_assoc]
      rfl
    rw [List.append_nil]
    exact isGuarded_iff.mpr (h _ _ hfound hword)
  · intro h before after hfound hword
    have hguard := h (pieces before) (pieces after) (by rw [hfound, pieces_wholeWord hword])
    rw [flatMap_text_pieces, List.append_nil] at hguard
    exact isGuarded_iff.mp hguard

/-! ## 2. What boxing leaves as it is -/

section Pieces

variable {category behind : List Char}

/-- A piece is written as it is, or it is a mention that no pointer guards and goes into a box. -/
theorem writePiece_cases (category behind : List Char) (p : Piece) :
    (writePiece category behind p = p.text ∧ (p = .word category → endsInPointer behind = true)) ∨
      (p = .word category ∧ endsInPointer behind = false ∧
        writePiece category behind p = inBox category) := by
  cases p with
  | mark c => exact .inl ⟨rfl, fun e => (nomatch e)⟩
  | word w =>
    by_cases hw : w = category ∧ endsInPointer behind = false
    · obtain ⟨rfl, hbare⟩ := hw
      refine .inr ⟨rfl, hbare, if_pos ?_⟩
      rw [hbare, decide_eq_true rfl]
      rfl
    · refine .inl ⟨if_neg ?_, fun e => ?_⟩
      · rwa [Bool.and_eq_true, decide_eq_true_eq, Bool.not_eq_true']
      · rw [← Bool.not_eq_false]
        exact fun hbare => hw ⟨Piece.word.inj e, hbare⟩

theorem length_inBox (w : List Char) : (inBox w).length = w.length + 5 := by
  have hopen : "Box<".toList.length = 4 := by decide
  have hclose : ">".toList.length = 1 := by decide
  unfold inBox
  rw [List.length_append, List.length_append]
  omega

/-- Nothing gets shorter. -/
theorem length_le_writePieces (category behind : List Char) (ps : List Piece) :
    (ps.flatMap Piece.text).length ≤ (writePieces category behind ps).length := by
  induction ps generalizing behind with
  | nil => exact Nat.le_refl 0
  | cons p ps ih =>
    have hrest := ih ((writePiece category behind p).reverse ++ behind)
    rw [List.flatMap_cons, writePieces, List.length_append, List.length_append]
    rcases writePiece_cases category behind p with ⟨hp, -⟩ | ⟨rfl, -, hp⟩
    · rw [hp] at hrest ⊢
      omega
    · rw [hp] at hrest ⊢
      rw [length_inBox, Piece.text]
      omega

theorem allGuardedPieces_cons {p : Piece} {ps : List Piece} :
    AllGuardedPieces category behind (p :: ps) ↔
      (p = .word category → endsInPointer behind = true) ∧
        AllGuardedPieces category (p.text.reverse ++ behind) ps := by
  constructor
  · intro h
    refine ⟨fun e => h [] ps (congrArg (· :: ps) e), fun before after e => ?_⟩
    have hguard := h (p :: before) after (congrArg (p :: ·) e)
    rwa [List.flatMap_cons, List.reverse_append, List.append_assoc] at hguard
  · intro given before after e
    obtain ⟨hp, hps⟩ := given
    cases before with
    | nil =>
      obtain ⟨hword, -⟩ := List.cons.inj e
      exact hp hword
    | cons q before =>
      obtain ⟨rfl, hrest⟩ := List.cons.inj e
      rw [List.flatMap_cons, List.reverse_append, List.append_assoc]
      exact hps before after hrest

/-- **Pieces are written as they are exactly when every mention among them is guarded.** The
induction is on the pieces: up to the first mention that is not guarded, what was written before a
piece is the text before it. -/
theorem writePieces_eq_self_iff {ps : List Piece} :
    writePieces category behind ps = ps.flatMap Piece.text ↔
      AllGuardedPieces category behind ps := by
  induction ps generalizing behind with
  | nil => exact iff_of_true rfl fun before _ e => by cases before <;> cases e
  | cons p ps ih =>
    rw [allGuardedPieces_cons, writePieces, List.flatMap_cons]
    rcases writePiece_cases category behind p with ⟨hp, hguard⟩ | ⟨hword, hbare, hp⟩
    · rw [hp, List.append_right_inj, ih]
      exact (and_iff_right hguard).symm
    · refine iff_of_false (fun e => ?_) (fun given => ?_)
      · -- the box is longer than the mention, and nothing behind it makes up for that
        have hlength := congrArg List.length e
        have hrest := length_le_writePieces category
          ((writePiece category behind p).reverse ++ behind) ps
        rw [hp, hword, List.length_append, List.length_append, length_inBox, Piece.text] at hlength
        rw [hp] at hrest
        omega
      · rw [given.1 hword] at hbare
        cases hbare

end Pieces

/-- **Boxing leaves a type as it is exactly when every mention in it is guarded.** -/
theorem box_eq_self_iff {type category : String} :
    box type category = type ↔ AllGuarded category.toList type.toList := by
  rw [allGuarded_iff_pieces, ← writePieces_eq_self_iff, flatMap_text_pieces, ← String.toList_inj,
    box, String.toList_ofList]

instance (type category : String) : Decidable (AllGuarded category.toList type.toList) :=
  decidable_of_iff (box type category = type) box_eq_self_iff

/-! ## 3. One pass -/

/-- **In a boxed type every mention is guarded.** -/
theorem allGuarded_box {type category : String} (h : category ≠ "Box") :
    AllGuarded category.toList (box type category).toList := by
  intro before after hfound hword
  rcases wholeWord_box hfound hword with hbox | ⟨-, hguard⟩
  · exact absurd (String.toList_inj.mp hbox) h
  · exact hguard rfl

/-- **Boxing reaches its normal form in one pass.** It leaves a type as it is exactly when a pointer
guards every mention of the category in it. In a boxed type every mention is guarded, and boxing it
again changes nothing, unless the category is named like the box. -/
theorem box_normalForm (type category : String) :
    (box type category = type ↔ AllGuarded category.toList type.toList) ∧
      (category ≠ "Box" → AllGuarded category.toList (box type category).toList ∧
        box (box type category) category = box type category) := by
  refine ⟨box_eq_self_iff, fun h => ?_⟩
  have hguarded : AllGuarded category.toList (box type category).toList := allGuarded_box h
  exact ⟨hguarded, box_eq_self_iff.mpr hguarded⟩

/-- A mention beside one that is guarded already, and one behind a reference and blanks. -/
theorem box_normalForm_mixed :
    "Stmt" ≠ "Box" ∧
      ¬ AllGuarded "Stmt".toList "Pair<Stmt, Vec<Stmt>, & Stmt>".toList ∧
      box "Pair<Stmt, Vec<Stmt>, & Stmt>" "Stmt" = "Pair<Box<Stmt>, Vec<Stmt>, & Stmt>" ∧
      AllGuarded "Stmt".toList "Pair<Box<Stmt>, Vec<Stmt>, & Stmt>".toList ∧
      box "Pair<Box<Stmt>, Vec<Stmt>, & Stmt>" "Stmt" = "Pair<Box<Stmt>, Vec<Stmt>, & Stmt>" := by
  have hname : "Stmt" ≠ "Box" := by decide
  have hbox : box "Pair<Stmt, Vec<Stmt>, & Stmt>" "Stmt"
      = "Pair<Box<Stmt>, Vec<Stmt>, & Stmt>" := by decide +kernel
  obtain ⟨hself, hnormal⟩ := box_normalForm "Pair<Stmt, Vec<Stmt>, & Stmt>" "Stmt"
  obtain ⟨hguarded, htwice⟩ := hnormal hname
  rw [hbox] at hself hguarded htwice
  exact ⟨hname, mt hself.mpr (by decide), hbox, hguarded, htwice⟩

/-- The category that is named like the box is boxed anew by every pass. -/
example : box "Box" "Box" = "Box<Box>" ∧ box "Box<Box>" "Box" = "Box<Box><Box<Box>>" := by
  decide +kernel

end VisitorNodes.Boxing
