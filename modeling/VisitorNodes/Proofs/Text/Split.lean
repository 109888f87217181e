/-!
# Pieces between separators

What a text and its pieces know of each other, for `List.splitOn` and `List.intercalate`: which
characters the pieces hold, and how an addition at an end of the text reaches its pieces.
-/

namespace VisitorNodes.Text

variable {α : Type}

/-! ## 1. What the pieces hold -/

/-- A character of a piece is a character of the joined text. -/
theorem mem_intercalate_of_mem {sep e : List α} {es : List (List α)} {a : α} (he : e ∈ es)
    (ha : a ∈ e) : a ∈ sep.intercalate es := by
  induction es with
  | nil => exact absurd he List.not_mem_nil
  | cons d ds ih =>
    cases ds with
    | nil =>
      rw [List.mem_singleton] at he
      rw [List.intercalate_singleton, ← he]
      exact ha
    | cons d' ds =>
      rw [List.intercalate_cons_cons, List.mem_append, List.mem_append]
      rcases List.mem_cons.mp he with rfl | he
      · exact Or.inl (Or.inl ha)
      · exact Or.inr (ih he)

/-- A character of the joined text is one of a piece or of the separator. -/
theorem mem_of_mem_intercalate {sep : List α} {es : List (List α)} {a : α}
    (h : a ∈ sep.intercalate es) : (∃ e ∈ es, a ∈ e) ∨ a ∈ sep := by
  induction es with
  | nil => exact absurd h List.not_mem_nil
  | cons d ds ih =>
    cases ds with
    | nil =>
      rw [List.intercalate_singleton] at h
      exact Or.inl ⟨d, List.mem_cons_self, h⟩
    | cons d' ds =>
      rw [List.intercalate_cons_cons, List.mem_append, List.mem_append] at h
      rcases h with (h | h) | h
      · exact Or.inl ⟨d, List.mem_cons_self, h⟩
      · exact Or.inr h
      · exact (ih h).imp_left fun ⟨e, he, hm⟩ => ⟨e, List.mem_cons_of_mem _ he, hm⟩

/-- A character of a piece is one of the text. -/
theorem mem_of_mem_splitOnP {p : α → Bool} {cs e : List α} {a : α} (he : e ∈ cs.splitOnP p)
    (ha : a ∈ e) : a ∈ cs := by
  induction cs generalizing e with
  | nil =>
    rw [List.splitOnP_nil, List.mem_singleton] at he
    rwa [he] at ha
  | cons c cs ih =>
    rw [List.splitOnP_cons_eq_if_modifyHead] at he
    obtain ⟨d, ds, hd⟩ := List.exists_cons_of_ne_nil (List.splitOnP_ne_nil p cs)
    rw [hd] at ih he
    split at he
    · rcases List.mem_cons.mp he with rfl | he
      · exact absurd ha List.not_mem_nil
      · exact List.mem_cons_of_mem _ (ih he ha)
    · rw [List.modifyHead_cons] at he
      rcases List.mem_cons.mp he with rfl | he
      · exact List.mem_cons.mpr ((List.mem_cons.mp ha).imp_right (ih List.mem_cons_self))
      · exact List.mem_cons_of_mem _ (ih (List.mem_cons_of_mem _ he) ha)

variable [BEq α] [LawfulBEq α] {sep : α}

/-- No piece holds the separator. -/
theorem not_mem_of_mem_splitOn {cs e : List α} (he : e ∈ cs.splitOn sep) : sep ∉ e := by
  induction cs generalizing e with
  | nil =>
    rw [List.splitOn_nil, List.mem_singleton] at he
    rw [he]
    exact List.not_mem_nil
  | cons c cs ih =>
    rw [List.splitOn_cons_eq_if_modifyHead] at he
    split at he
    · rcases List.mem_cons.mp he with rfl | he
      · exact List.not_mem_nil
      · exact ih he
    · rename_i hc
      obtain ⟨d, ds, hd⟩ := List.exists_cons_of_ne_nil (List.splitOn_ne_nil sep cs)
      rw [hd, List.modifyHead_cons] at he
      rw [hd] at ih
      rcases List.mem_cons.mp he with rfl | he
      · have hd := ih List.mem_cons_self
        simp only [beq_iff_eq] at hc
        simp only [List.mem_cons, not_or]
        exact ⟨fun e => hc e.symm, hd⟩
      · exact ih (List.mem_cons_of_mem _ he)

/-! ## 2. Additions at the ends -/

/-- What is added before the text stands before its first piece. -/
theorem splitOn_prepend {u : List α} (hu : sep ∉ u) (cs : List α) :
    (u ++ cs).splitOn sep = (cs.splitOn sep).modifyHead (u ++ ·) := by
  induction u with
  | nil =>
    obtain ⟨d, ds, hd⟩ := List.exists_cons_of_ne_nil (List.splitOn_ne_nil sep cs)
    rw [List.nil_append, hd, List.modifyHead_cons, List.nil_append]
  | cons c u ih =>
    obtain ⟨hc, hu⟩ := not_or.mp (mt List.mem_cons.mpr hu)
    obtain ⟨d, ds, hd⟩ := List.exists_cons_of_ne_nil (List.splitOn_ne_nil sep cs)
    have hne : (c == sep) = false := beq_eq_false_iff_ne.mpr fun e => hc e.symm
    rw [List.cons_append, List.splitOn_cons_eq_if_modifyHead, hne, ih hu, hd]
    rfl

/-- What is added behind the text stands behind its last piece. -/
theorem splitOn_append {u : List α} (hu : sep ∉ u) (cs : List α) :
    ∃ es e, cs.splitOn sep = es ++ [e] ∧ (cs ++ u).splitOn sep = es ++ [e ++ u] := by
  induction cs with
  | nil => exact ⟨[], [], List.splitOn_nil sep, List.splitOn_eq_singleton hu⟩
  | cons c cs ih =>
    obtain ⟨es, e, h, h'⟩ := ih
    rw [List.cons_append, List.splitOn_cons_eq_if_modifyHead, List.splitOn_cons_eq_if_modifyHead,
      h, h']
    split
    · exact ⟨[] :: es, e, rfl, rfl⟩
    · cases es with
      | nil => exact ⟨[], c :: e, rfl, rfl⟩
      | cons d ds => exact ⟨(c :: d) :: ds, e, rfl, rfl⟩

end VisitorNodes.Text
