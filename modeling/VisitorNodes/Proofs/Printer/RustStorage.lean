import VisitorNodes.Proofs.Printer.NormalForm
import VisitorNodes.Proofs.Printer.RustInjective
/-!
# How a field is stored in Rust

Whether a field is boxed is decided twice over: by comparing its type with the category (`isBase`),
for the initializer and the accessor, and by boxing the mentions in it (`Boxing.box`), for the
structure. The two decisions agree if the category is one word (`Storage.agrees_ofField`): a box is
made exactly where a box is stored and the bare type shown.

A category with a mark in it is a mention of no type, so a field of that type would be stored bare
and set with a box.
-/

namespace VisitorNodes

open Grammar Text

namespace Boxing

/-! ## 1. Types that are the category, and others -/

/-- A category that is one word is boxed as a whole. -/
theorem box_self {category : String} (hne : category ≠ "")
    (h : ∀ c ∈ category.toList, isWordChar c = true) :
    box category category = "Box<" ++ category ++ ">" := by
  have hpieces : pieces category.toList = [.word category.toList] :=
    pieces_of_wordChars (mt String.toList_eq_nil_iff.mp hne) h
  have hbare : endsInPointer [] = false := by decide
  have hwritten : writePieces category.toList [] [.word category.toList]
      = inBox category.toList := by
    rw [writePieces, writePieces, writePiece, hbare, decide_eq_true rfl, List.append_nil]
    rfl
  rw [← String.toList_inj, box, String.toList_ofList, hpieces, hwritten]
  unfold inBox
  simp only [String.toList_append]

/-- Pieces are written as they are, or with a bracket among them. -/
theorem writePieces_eq_or_mem (category behind : List Char) (ps : List Piece) :
    writePieces category behind ps = ps.flatMap Piece.text ∨
      '<' ∈ writePieces category behind ps := by
  induction ps generalizing behind with
  | nil => exact .inl rfl
  | cons p ps ih =>
    rw [writePieces, List.flatMap_cons]
    rcases writePiece_cases category behind p with ⟨hp, -⟩ | ⟨-, -, hp⟩
    · rw [hp]
      exact (ih _).imp (congrArg (p.text ++ ·)) (List.mem_append_right _)
    · have hbox : '<' ∈ inBox category :=
        List.mem_append_left _ (List.mem_append_left _ (by decide))
      rw [hp]
      exact .inr (List.mem_append_left _ hbox)

/-- **No other type becomes the category when it is boxed.** -/
theorem box_ne_category {type category : String} (h : ∀ c ∈ category.toList, isWordChar c = true)
    (ht : type ≠ category) : box type category ≠ category := by
  have hwritten : (box type category).toList = type.toList ∨ '<' ∈ (box type category).toList := by
    have hpieces := writePieces_eq_or_mem category.toList [] (pieces type.toList)
    rwa [flatMap_text_pieces, ← String.toList_ofList (l := writePieces _ _ _)] at hpieces
  intro e
  rw [e] at hwritten
  rcases hwritten with hsame | hbracket
  · exact ht (String.toList_inj.mp hsame).symm
  · exact absurd (h '<' hbracket) (by decide)

end Boxing

namespace Rust

/-! ## 2. Storage -/

/-- How a field is stored, in what type it is shown outside, where the initializer takes it and its
accessor returns it, and the value that the initializer stores. -/
structure Storage where
  stored : String
  shown : String
  value : String
  deriving Repr, DecidableEq

/-- A field of the category itself is put into a box, and shown without it. Any other field is
stored as it is shown and taken. -/
def Storage.ofField (category : String) (f : Grammar.Field) : Storage :=
  if f.type = category then
    ⟨"Box<" ++ category ++ ">", category, "Box::new(" ++ identifier f.name ++ ")"⟩
  else ⟨Boxing.box f.type category, Boxing.box f.type category, identifier f.name⟩

/-- **A box is made exactly where one is stored and its content shown**, and the bare category is
shown only for fields of it. -/
structure Storage.Agrees (category : String) (f : Grammar.Field) (s : Storage) : Prop where
  bare : s.shown = category ↔ f.type = category
  made : (∃ param, s.value = "Box::new(" ++ param ++ ")") ↔ s.stored = "Box<" ++ s.shown ++ ">"
  differs : s.stored = "Box<" ++ s.shown ++ ">" ↔ s.stored ≠ s.shown

theorem ne_box (type : String) : type ≠ "Box<" ++ type ++ ">" := by
  intro e
  have hlength := congrArg String.length e
  have hopen : "Box<".length = 4 := by decide
  have hclose : ">".length = 1 := by decide
  rw [String.length_append, String.length_append] at hlength
  omega

theorem Storage.agrees_ofField {category : String} {f : Grammar.Field} (h : f.WellFormed)
    (hc : ∀ c ∈ category.toList, Boxing.isWordChar c = true) :
    Storage.Agrees category f (.ofField category f) := by
  unfold Storage.ofField
  split
  · rename_i hbase
    exact ⟨iff_of_true rfl hbase, iff_of_true ⟨_, rfl⟩ rfl,
      iff_of_true rfl (ne_box category).symm⟩
  · rename_i hother
    refine ⟨iff_of_false (Boxing.box_ne_category hc hother) hother, iff_of_false ?_ (ne_box _),
      iff_of_false (ne_box _) (fun hne => hne rfl)⟩
    intro given
    obtain ⟨param, hvalue⟩ := given
    exact boxNew_ne_identifier h param hvalue.symm

section Member

variable {m : Module} {f : Grammar.Field}

theorem storedType_ofField (hne : m.base ≠ "")
    (hc : ∀ c ∈ m.base.toList, Boxing.isWordChar c = true) :
    storedType m (.ofField f) = (Storage.ofField m.base f).stored := by
  unfold storedType Storage.ofField
  split
  · rename_i hbase
    exact (congrArg (Boxing.box · m.base) hbase).trans (Boxing.box_self hne hc)
  · rfl

theorem publicType_ofField (m : Module) (f : Grammar.Field) :
    publicType m (.ofField f) = (Storage.ofField m.base f).shown := by
  unfold publicType Storage.ofField
  by_cases hbase : f.type = m.base
  · rw [if_pos (isBase_ofField.mpr hbase), if_pos hbase]
    exact hbase
  · rw [if_neg (mt isBase_ofField.mp hbase), if_neg hbase]
    rfl

theorem initLine_ofField (m : Module) (f : Grammar.Field) :
    initLine m (.ofField f) = "            " ++ (Naming.capitalize f.name ++ ": "
      ++ (Storage.ofField m.base f).value) ++ "," := by
  unfold initLine Storage.ofField
  dsimp only
  by_cases hbase : f.type = m.base
  · rw [if_pos (isBase_ofField.mpr hbase), if_pos hbase]
    simp only [String.append_assoc]
    rfl
  · rw [if_neg (mt isBase_ofField.mp hbase), if_neg hbase]
    simp only [String.append_assoc]
    rfl

/-- A category that is no word is stored bare, and set with a box. -/
example :
    let m : Module := ⟨"A-B", ⟨"IA-BVisitor", []⟩, []⟩
    storedType m (.ofField ⟨"A-B", "x"⟩) = "A-B" ∧
      initLine m (.ofField ⟨"A-B", "x"⟩) = "            X: Box::new(x)," := by decide +kernel

end Member

end Rust

end VisitorNodes
