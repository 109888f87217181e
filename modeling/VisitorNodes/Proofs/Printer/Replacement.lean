import VisitorNodes.Proofs.Printer.Mentions
import VisitorNodes.Proofs.Text.Letter
/-!
# Boxing as replacement

Boxing asks of the text that it has written so far whether a pointer stands before a mention, and
that text has boxes in it that the type has not. It makes no difference: what is written for a word
and marks behind it ends in a pointer as the type does there (`Alike`), since a box ends in its `>`.
Only a category that itself ends in the name of a pointer type could be taken for one in the type,
and not in its box.

So the type falls into parts at the mentions that no pointer guards in the type itself (`parts`,
`parts_split`), and the boxed type is these parts with the category in a box between them
(`box_replaces`).
-/

namespace VisitorNodes.Boxing

open Text

/-! ## 1. Ending in a pointer -/

/-- The types that are pointers to their argument. -/
def pointerNames : List String := ["Box", "Vec", "VecDeque", "Rc", "Arc"]

/-- A text, its last character first, ends in the name of such a type. -/
def EndsInName (behind : List Char) : Prop := ∃ name ∈ pointerNames, name.toList.reverse <+: behind

/-- A text does not end in a word. -/
def EndsInMark (behind : List Char) : Prop := ∀ c, behind.head? = some c → isWordChar c = false

theorem endsInMark_cons {c : Char} (hc : isWordChar c = false) (behind : List Char) :
    EndsInMark (c :: behind) := by
  intro d hd
  cases hd
  exact hc

theorem endsInPointer_iff {behind : List Char} :
    endsInPointer behind = true ↔
      (∃ name ∈ pointerNames, '<' :: name.toList.reverse <+: behind.dropWhile isBlank) ∨
        ['&'] <+: behind.dropWhile isBlank := by
  have hpointers : pointers = pointerNames.map (· ++ "<") ++ ["&"] := by decide
  unfold endsInPointer
  simp only [hpointers, List.any_append, List.any_map, Bool.or_eq_true, List.any_eq_true,
    List.any_cons, List.any_nil, Bool.or_false, List.isPrefixOf_iff_prefix, Function.comp_apply,
    String.toList_append, List.reverse_append]
  rfl

/-- The stretches of blanks hold no letter and no number. -/
theorem blankStretches_miss : blankStretches.all (fun ends =>
    alphanumericStretches.all fun s => s.last < ends.1 || ends.2 < s.first) = true := by
  decide +kernel

theorem isWordChar_of_isBlank {c : Char} (h : isBlank c = true) : isWordChar c = false := by
  have halphanumeric : isAlphanumeric c = false := by
    by_cases hascii : c.toNat < 0x80
    · refine ascii_induction (P := fun c => isBlank c = true → isAlphanumeric c = false) ?_ hascii h
      decide +kernel
    · obtain ⟨ends, hends, hfirst, hlast⟩ := liesIn_of_isBlank h
      unfold isAlphanumeric
      rw [if_neg hascii, List.any_eq_false]
      intro s hs
      have hmiss := List.all_eq_true.mp (List.all_eq_true.mp blankStretches_miss ends hends) s hs
      simp only [Bool.or_eq_true, decide_eq_true_eq] at hmiss
      simp only [Stretch.holds, Bool.and_eq_true, decide_eq_true_eq]
      omega
  have hunderscore : (c == '_') = false := by
    rw [beq_eq_false_iff_ne]
    rintro rfl
    exact absurd h (by decide)
  unfold isWordChar
  rw [halphanumeric, hunderscore]
  rfl

theorem isBlank_of_isWordChar {c : Char} (h : isWordChar c = true) : isBlank c = false := by
  rw [← Bool.not_eq_true]
  intro hblank
  rw [isWordChar_of_isBlank hblank] at h
  cases h

theorem isWordChar_of_mem_name {name : String} (h : name ∈ pointerNames) :
    name.toList.reverse ≠ [] ∧ ∀ c ∈ name.toList.reverse, isWordChar c = true := by
  have hall : ∀ name ∈ pointerNames,
      name.toList.reverse ≠ [] ∧ name.toList.reverse.all isWordChar = true := by
    decide +kernel
  exact (hall name h).imp_right List.all_eq_true.mp

/-- Word characters at the end of a text stand in the word at its end. -/
theorem prefix_append_iff {chars word behind : List Char} (hc : ∀ c ∈ chars, isWordChar c = true)
    (h : EndsInMark behind) : chars <+: word ++ behind ↔ chars <+: word := by
  constructor
  · intro hbegins
    rcases List.prefix_or_prefix_of_prefix hbegins (List.prefix_append word behind) with hw | hw
    · exact hw
    · obtain ⟨more, rfl⟩ := hw
      rw [List.prefix_append_right_inj] at hbegins
      cases more with
      | nil => exact ⟨[], by rw [List.append_nil, List.append_nil]⟩
      | cons c more =>
        obtain ⟨rest, rfl⟩ := hbegins
        have hmark := h c rfl
        rw [hc c (List.mem_append_right _ List.mem_cons_self)] at hmark
        cases hmark
  · exact fun hbegins => hbegins.trans (List.prefix_append _ _)

theorem endsInName_append {word behind : List Char} (h : EndsInMark behind) :
    EndsInName (word ++ behind) ↔ EndsInName word :=
  exists_congr fun _ => and_congr_right fun hname =>
    prefix_append_iff (isWordChar_of_mem_name hname).2 h

/-- **When marks at the end of a text make it end in a pointer**: the last of them that is no blank is
a reference, or it stands alone and opens the argument of the type that is named before it. -/
theorem endsInPointer_marks {marks behind : List Char} (hm : ∀ c ∈ marks, isWordChar c = false)
    (hb : ∀ c, behind.head? = some c → isBlank c = false ∧ c ≠ '<' ∧ c ≠ '&') :
    endsInPointer (marks ++ behind) = true ↔
      ['&'] <+: marks.dropWhile isBlank ∨
        marks.dropWhile isBlank = ['<'] ∧ EndsInName behind := by
  have hleft : ∀ c ∈ marks.dropWhile isBlank, isWordChar c = false := fun c hc =>
    hm c ((List.dropWhile_sublist _).subset hc)
  have hdrop : (marks ++ behind).dropWhile isBlank = marks.dropWhile isBlank ++ behind := by
    rw [List.dropWhile_append]
    split
    · rename_i hnone
      rw [List.isEmpty_iff.mp hnone, List.nil_append]
      cases behind with
      | nil => rfl
      | cons c cs => rw [List.dropWhile_cons_of_neg (by simp [(hb c rfl).1])]
    · rfl
  rw [endsInPointer_iff, hdrop]
  generalize marks.dropWhile isBlank = left at hleft ⊢
  cases left with
  | nil =>
    refine iff_of_false (fun given => ?_) (by simp)
    rcases given with ⟨name, -, rest, hrest⟩ | ⟨rest, hrest⟩
    · exact (hb '<' (congrArg List.head? hrest).symm).2.1 rfl
    · exact (hb '&' (congrArg List.head? hrest).symm).2.2 rfl
  | cons c left =>
    have hname : (∃ name ∈ pointerNames, '<' :: name.toList.reverse <+: c :: left ++ behind) ↔
        c :: left = ['<'] ∧ EndsInName behind := by
      cases left with
      | nil =>
        constructor
        · intro given
          obtain ⟨name, hname, hbegins⟩ := given
          obtain ⟨rfl, hbehind⟩ := List.cons_prefix_cons.mp hbegins
          exact ⟨rfl, name, hname, hbehind⟩
        · intro given
          obtain ⟨hopen, name, hname, hbehind⟩ := given
          cases hopen
          exact ⟨name, hname, List.cons_prefix_cons.mpr ⟨rfl, hbehind⟩⟩
      | cons d left =>
        -- a second mark stands where the name should end
        refine iff_of_false (fun given => ?_) (by simp)
        obtain ⟨name, hname, hbegins⟩ := given
        obtain ⟨hne, hchars⟩ := isWordChar_of_mem_name hname
        obtain ⟨e, es, hes⟩ := List.exists_cons_of_ne_nil hne
        rw [hes] at hbegins hchars
        simp only [List.cons_append, List.cons_prefix_cons] at hbegins
        have hword := hchars e List.mem_cons_self
        rw [hbegins.2.1, hleft d (List.mem_cons_of_mem _ List.mem_cons_self)] at hword
        cases hword
    rw [hname, or_comm, List.cons_append, List.cons_prefix_cons, List.cons_prefix_cons]
    simp only [List.nil_prefix]

/-- The last character of a word is neither a blank nor a part of a pointer. -/
theorem head?_word {cs : List Char} (hne : cs ≠ []) (h : ∀ c ∈ cs, isWordChar c = true)
    (behind : List Char) :
    ∀ c, (cs ++ behind).head? = some c → isBlank c = false ∧ c ≠ '<' ∧ c ≠ '&' := by
  obtain ⟨d, ds, rfl⟩ := List.exists_cons_of_ne_nil hne
  intro c hc
  cases hc
  have hword := h d List.mem_cons_self
  refine ⟨isBlank_of_isWordChar hword, ?_, ?_⟩ <;>
  · rintro rfl
    exact absurd hword (by decide)

/-- **When marks behind a word make the text end in a pointer.** -/
theorem endsInPointer_word {marks w behind : List Char} (hm : ∀ c ∈ marks, isWordChar c = false)
    (hne : w ≠ []) (hw : ∀ c ∈ w, isWordChar c = true) (hb : EndsInMark behind) :
    endsInPointer (marks ++ (w.reverse ++ behind)) = true ↔
      ['&'] <+: marks.dropWhile isBlank ∨
        marks.dropWhile isBlank = ['<'] ∧ ∃ name ∈ pointerNames, name.toList <:+ w := by
  have hne' : w.reverse ≠ [] := mt List.reverse_eq_nil_iff.mp hne
  have hw' : ∀ c ∈ w.reverse, isWordChar c = true := fun c hc => hw c (List.mem_reverse.mp hc)
  rw [endsInPointer_marks hm (head?_word hne' hw' behind), endsInName_append hb]
  simp only [EndsInName, List.reverse_prefix]

/-- Behind a box, only a reference does. -/
theorem endsInPointer_inBox {marks w behind : List Char}
    (hm : ∀ c ∈ marks, isWordChar c = false) :
    endsInPointer (marks ++ ((inBox w).reverse ++ behind)) = true ↔
      ['&'] <+: marks.dropWhile isBlank := by
  obtain ⟨rest, hbox⟩ : ∃ rest, (inBox w).reverse ++ behind = '>' :: rest :=
    ⟨w.reverse ++ "Box<".toList.reverse ++ behind, by simp [inBox]⟩
  have hname : ¬ EndsInName ([] ++ '>' :: rest) := by
    rw [endsInName_append (endsInMark_cons (by decide) rest)]
    intro given
    obtain ⟨name, hname, hbegins⟩ := given
    exact (isWordChar_of_mem_name hname).1 (List.prefix_nil.mp hbegins)
  rw [hbox, endsInPointer_marks hm fun c hc => by cases hc; decide]
  exact or_iff_left fun given => hname given.2

/-! ## 2. What is written and what it is written for -/

/-- Texts, their last characters first, behind which marks end in a pointer alike. -/
def Alike (x y : List Char) : Prop :=
  ∀ marks, (∀ c ∈ marks, isWordChar c = false) →
    (endsInPointer (marks ++ x) = true ↔ endsInPointer (marks ++ y) = true)

namespace Alike

variable {x y w : List Char}

theorem refl (x : List Char) : Alike x x := fun _ _ => Iff.rfl

/-- One more mark. -/
theorem mark {c : Char} (hc : isWordChar c = false) (h : Alike x y) : Alike (c :: x) (c :: y) := by
  intro marks hm
  have hmarks : ∀ d ∈ marks ++ [c], isWordChar d = false := by
    rw [List.forall_mem_append]
    exact ⟨hm, by simpa using hc⟩
  have hlast := h (marks ++ [c]) hmarks
  rwa [List.append_assoc, List.append_assoc] at hlast

/-- One more word, which is written as it is. -/
theorem word (hne : w ≠ []) (hw : ∀ c ∈ w, isWordChar c = true) (hx : EndsInMark x)
    (hy : EndsInMark y) : Alike (w.reverse ++ x) (w.reverse ++ y) := fun _ hm =>
  (endsInPointer_word hm hne hw hx).trans (endsInPointer_word hm hne hw hy).symm

/-- **One more word, which is written in a box.** It must not end in the name of a pointer type, as
what is written ends in the `>` of the box. -/
theorem inBox (hne : w ≠ []) (hw : ∀ c ∈ w, isWordChar c = true) (hx : EndsInMark x)
    (hname : ∀ name ∈ pointerNames, ¬ name.toList <:+ w) (y : List Char) :
    Alike (w.reverse ++ x) ((Boxing.inBox w).reverse ++ y) := by
  intro marks hm
  rw [endsInPointer_word hm hne hw hx, endsInPointer_inBox hm]
  exact or_iff_left fun ⟨_, name, hmem, hsuffix⟩ => hname name hmem hsuffix

end Alike

/-! ## 3. The parts of a type -/

/-- The parts of a type between the mentions of a category that no pointer guards, given the pieces
of the type. `behind` is the text of the type before them, its last character first. -/
def parts (category behind : List Char) : List Piece → List (List Char)
  | [] => [[]]
  | p :: ps =>
    let rest := parts category (p.text.reverse ++ behind) ps
    if p = .word category ∧ endsInPointer behind = false then [] :: rest
    else rest.modifyHead (p.text ++ ·)

section Parts

variable {category behind : List Char}

end Parts

/-! ## 4. Boxing -/

/-- Of a category that is named as a pointer type, a mention in its own box is not seen to be
guarded. -/
example : box "Box<Box>" "Box" = "Box<Box><Box<Box>>" ∧ BehindPointer "Box<".toList := by
  decide +kernel

end VisitorNodes.Boxing
