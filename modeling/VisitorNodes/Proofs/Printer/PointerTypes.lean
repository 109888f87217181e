import VisitorNodes.Proofs.Printer.NormalForm
import VisitorNodes.Proofs.Printer.Replacement
/-!
# Which types guard a mention

A mention is guarded by what the text before it ends with, and that is compared character by
character. So the argument of every type whose name ENDS in the name of a pointer type passes for
guarded, not only that of the pointer types themselves (`OpenedBy.guarded_iff`): `ArrayVec<Stmt>`
stays as it is, and holds its statement by value (`boxed_mention_lookalike`).

In a boxed type a mention is behind a reference, or in the argument of such a type, which is the
inserted box or a type that the field itself names. If the field names no type that only ends like a
pointer type, the guards are pointer types (`boxed_mention_guard`).
-/

namespace VisitorNodes.Boxing

open Text

/-! ## 1. The type whose argument begins -/

/-- A word and its opening bracket stand at the end of a text, blanks aside: the argument of the
type with this name begins there. -/
def OpenedBy (w before : List Char) : Prop :=
  ∃ front, trimEnd before = front ++ w ++ ['<'] ∧ IsWholeWord front w ['<']

/-- A reference, or a pointer type by its whole name, stands directly before. -/
def BehindPointerType (before : List Char) : Prop :=
  ['&'] <:+ trimEnd before ∨ ∃ name ∈ pointerNames, OpenedBy name.toList before

theorem endsInMark_dropWhile (cs : List Char) : EndsInMark (cs.dropWhile isWordChar) := by
  intro c hc
  have hd := List.head?_dropWhile_not isWordChar cs
  rw [hc] at hd
  simpa using hd

/-- A word is as long as possible. -/
theorem takeWhile_word {w behind : List Char} (hw : ∀ c ∈ w, isWordChar c = true)
    (h : EndsInMark behind) : (w ++ behind).takeWhile isWordChar = w := by
  rw [List.takeWhile_append_of_pos hw]
  cases behind with
  | nil => exact List.append_nil w
  | cons c cs => rw [List.takeWhile_cons_of_neg (by simp [h c rfl]), List.append_nil]

/-- The name is the longest word before the bracket. -/
theorem openedBy_iff {w before : List Char} :
    OpenedBy w before ↔ w ≠ [] ∧ ∃ rest, before.reverse.dropWhile isBlank = '<' :: rest ∧
      rest.takeWhile isWordChar = w.reverse := by
  constructor
  · intro given
    obtain ⟨front, hend, hword⟩ := given
    refine ⟨hword.ne, w.reverse ++ front.reverse, ?_, takeWhile_word ?_ ?_⟩
    · have hreverse := congrArg List.reverse hend
      rw [trimEnd, List.reverse_reverse, List.reverse_append, List.reverse_append] at hreverse
      exact hreverse
    · exact fun c hc => hword.chars c (List.mem_reverse.mp hc)
    · intro c hc
      rw [List.head?_reverse] at hc
      exact hword.left c hc
  · intro given
    obtain ⟨hne, rest, hrest, hw⟩ := given
    refine ⟨(rest.dropWhile isWordChar).reverse, ?_, hne, fun c hc => ?_, fun c hc => ?_,
      fun c hc => ?_⟩
    · have hsplit : rest = w.reverse ++ rest.dropWhile isWordChar := by
        rw [← hw, List.takeWhile_append_dropWhile]
      have hreverse := congrArg List.reverse hsplit
      rw [List.reverse_append, List.reverse_reverse] at hreverse
      rw [trimEnd, hrest, List.reverse_cons, hreverse]
    · rw [← List.mem_reverse, ← hw] at hc
      exact List.mem_takeWhile_imp hc
    · rw [List.getLast?_reverse] at hc
      exact endsInMark_dropWhile rest c hc
    · cases hc
      decide

/-- Only one type has its argument begin at a place. -/
theorem OpenedBy.unique {v w before : List Char} (hv : OpenedBy v before)
    (hw : OpenedBy w before) : v = w := by
  obtain ⟨-, rest, hrest, hv⟩ := openedBy_iff.mp hv
  obtain ⟨-, rest', hrest', hw⟩ := openedBy_iff.mp hw
  rw [hrest] at hrest'
  cases hrest'
  exact List.reverse_injective (hv.symm.trans hw)

/-! ## 2. Guards -/

/-- **What guards a mention**: a reference, or any type whose name ends in the name of a pointer
type. -/
theorem behindPointer_iff {before : List Char} :
    BehindPointer before ↔ ['&'] <:+ trimEnd before ∨
      ∃ w, OpenedBy w before ∧ ∃ name ∈ pointerNames, name.toList <:+ w := by
  have hreference : ['&'] <:+ trimEnd before ↔ ['&'] <+: before.reverse.dropWhile isBlank := by
    rw [trimEnd, ← List.reverse_prefix, List.reverse_reverse]
    rfl
  rw [← isGuarded_iff, isGuarded, endsInPointer_iff, or_comm, hreference]
  refine or_congr_right ⟨fun given => ?_, fun given => ?_⟩
  · obtain ⟨name, hname, hends⟩ := given
    obtain ⟨more, hmore⟩ := hends
    obtain ⟨hne, hchars⟩ := isWordChar_of_mem_name hname
    generalize hrest : name.toList.reverse ++ more = rest at hmore
    -- the name is a part of the word that ends there
    have hword : name.toList.reverse <+: rest.takeWhile isWordChar := by
      rw [← prefix_append_iff hchars (endsInMark_dropWhile rest), List.takeWhile_append_dropWhile]
      exact ⟨more, hrest⟩
    refine ⟨(rest.takeWhile isWordChar).reverse, openedBy_iff.mpr ⟨?_, rest, ?_, ?_⟩, name,
      hname, ?_⟩
    · intro hnil
      rw [List.reverse_eq_nil_iff.mp hnil] at hword
      exact hne (List.prefix_nil.mp hword)
    · rw [← hmore, ← hrest]
      rfl
    · rw [List.reverse_reverse]
    · rw [← List.reverse_prefix, List.reverse_reverse]
      exact hword
  · obtain ⟨w, hopened, name, hname, hends⟩ := given
    obtain ⟨-, rest, hrest, hw⟩ := openedBy_iff.mp hopened
    refine ⟨name, hname, ?_⟩
    rw [hrest, List.cons_prefix_cons]
    refine ⟨rfl, (List.reverse_prefix.mpr hends).trans ?_⟩
    rw [← hw]
    exact List.takeWhile_prefix isWordChar

/-- In the argument of a type, a mention is guarded exactly if the type's name ends in the name of a
pointer type. -/
theorem OpenedBy.guarded_iff {w before : List Char} (h : OpenedBy w before) :
    BehindPointer before ↔ ∃ name ∈ pointerNames, name.toList <:+ w := by
  rw [behindPointer_iff]
  constructor
  · rintro (⟨rest, hrest⟩ | ⟨v, hv, hends⟩)
    · obtain ⟨front, hend, -⟩ := h
      have hlast := congrArg List.getLast? (hrest.trans hend)
      rw [List.getLast?_concat, List.getLast?_concat] at hlast
      cases hlast
    · rwa [← hv.unique h]
  · exact fun hends => .inr ⟨w, h, hends⟩

/-! ## 3. Boxed types -/

/-- A type in whose argument a mention stands is named by the field, or it is the inserted box. -/
theorem OpenedBy.of_box {type category : String} {w before after : List Char}
    (h : OpenedBy w before)
    (hfound : (box type category).toList = before ++ category.toList ++ after) :
    w = "Box".toList ∨ IsWordOf w type.toList := by
  obtain ⟨front, hend, hword⟩ := h
  obtain ⟨blanks, -, hbefore⟩ := exists_trimEnd before
  have hfound' : (box type category).toList
      = front ++ w ++ ('<' :: (blanks ++ category.toList ++ after)) := by
    rw [hfound, hbefore, hend]
    simp only [List.append_assoc, List.cons_append, List.nil_append]
  have hword' : IsWholeWord front w ('<' :: (blanks ++ category.toList ++ after)) :=
    ⟨hword.ne, hword.chars, hword.left, fun c hc => hword.right c hc⟩
  exact (wholeWord_box hfound' hword').imp_right And.left

/-- **What guards the mentions in a boxed type.** A reference, or a type that is the inserted box or
named by the field, and whose name ends in the name of a pointer type. These are pointer types if
every type that the field names and that ends in the name of one is one. The category must not be
named like the box. -/
theorem boxed_mention_guard {type category : String} (h : category ≠ "Box")
    {before after : List Char}
    (hfound : (box type category).toList = before ++ category.toList ++ after)
    (hword : IsWholeWord before category.toList after) :
    (['&'] <:+ trimEnd before ∨ ∃ w, OpenedBy w before ∧
      (∃ name ∈ pointerNames, name.toList <:+ w) ∧
      (w = "Box".toList ∨ IsWordOf w type.toList)) ∧
    ((∀ w, IsWordOf w type.toList → (∃ name ∈ pointerNames, name.toList <:+ w) →
        ∃ name ∈ pointerNames, w = name.toList) →
      BehindPointerType before) := by
  have hguard := behindPointer_iff.mp (allGuarded_box h before after hfound hword)
  refine ⟨?_, fun hnames => ?_⟩
  · rcases hguard with hreference | ⟨w, hopened, hends⟩
    · exact .inl hreference
    · exact .inr ⟨w, hopened, hends, hopened.of_box hfound⟩
  · rcases hguard with hreference | ⟨w, hopened, hends⟩
    · exact .inl hreference
    · rcases hopened.of_box hfound with rfl | hmem
      · exact .inr ⟨"Box", List.mem_cons_self, hopened⟩
      · obtain ⟨name, hname, rfl⟩ := hnames w hmem hends
        exact .inr ⟨name, hname, hopened⟩

/-- The box that is inserted into an option, beside a list that is a pointer type by itself. -/
theorem boxed_mention_guard_option :
    "Stmt" ≠ "Box" ∧
      (box "(Option<Stmt>,Vec<Stmt>)" "Stmt").toList
        = "(Option<Box<".toList ++ "Stmt".toList ++ ">>,Vec<Stmt>)".toList ∧
      IsWholeWord "(Option<Box<".toList "Stmt".toList ">>,Vec<Stmt>)".toList ∧
      (∀ w, IsWordOf w "(Option<Stmt>,Vec<Stmt>)".toList →
        (∃ name ∈ pointerNames, name.toList <:+ w) → ∃ name ∈ pointerNames, w = name.toList) ∧
      BehindPointerType "(Option<Box<".toList := by
  have hname : "Stmt" ≠ "Box" := by decide
  have hfound : (box "(Option<Stmt>,Vec<Stmt>)" "Stmt").toList
      = "(Option<Box<".toList ++ "Stmt".toList ++ ">>,Vec<Stmt>)".toList := by decide +kernel
  have hword : IsWholeWord "(Option<Box<".toList "Stmt".toList ">>,Vec<Stmt>)".toList := by decide
  have hnames : ∀ w, IsWordOf w "(Option<Stmt>,Vec<Stmt>)".toList →
      (∃ name ∈ pointerNames, name.toList <:+ w) → ∃ name ∈ pointerNames, w = name.toList := by
    have hall : ∀ p ∈ pieces "(Option<Stmt>,Vec<Stmt>)".toList,
        (∃ name ∈ pointerNames, name.toList <:+ p.text) →
          ∃ name ∈ pointerNames, p.text = name.toList := by
      decide +kernel
    exact fun w hw => hall (.word w) (word_mem_pieces_iff.mpr hw)
  exact ⟨hname, hfound, hword, hnames, (boxed_mention_guard hname hfound hword).2 hnames⟩

/-- The argument of a type that only ends like a pointer type is not boxed. -/
theorem boxed_mention_lookalike :
    "Stmt" ∉ pointerNames ∧ box "ArrayVec<Stmt>" "Stmt" = "ArrayVec<Stmt>" ∧
      ¬ ∀ before after, (box "ArrayVec<Stmt>" "Stmt").toList = before ++ "Stmt".toList ++ after →
        IsWholeWord before "Stmt".toList after → BehindPointerType before := by
  have hsame : box "ArrayVec<Stmt>" "Stmt" = "ArrayVec<Stmt>" := by decide +kernel
  have hopened : OpenedBy "ArrayVec".toList "ArrayVec<".toList := ⟨[], by decide, by decide⟩
  have hnone : ∀ name ∈ pointerNames, name.toList ≠ "ArrayVec".toList := by decide
  refine ⟨by decide, hsame, fun h => ?_⟩
  have hfound : (box "ArrayVec<Stmt>" "Stmt").toList
      = "ArrayVec<".toList ++ "Stmt".toList ++ ">".toList := by rw [hsame]; decide
  rcases h _ _ hfound (by decide) with hreference | ⟨name, hname, hopened'⟩
  · exact absurd hreference (by decide)
  · exact hnone name hname (hopened'.unique hopened)

end VisitorNodes.Boxing
