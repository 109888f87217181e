/-!
# Cutting a text at a separator

`cut` takes a text apart at the FIRST occurrence of a separator and forgets that one occurrence:
the part before it has no separator, the part after it may have more. A text without the
separator has no cut. The fact that fixes it is `cut_eq_some_iff`.
-/

namespace VisitorNodes.Text

/-- The text before and the text after the first `sep`, if there is one. -/
def cut (sep : Char) (cs : List Char) : Option (List Char × List Char) :=
  match cs.dropWhile (· != sep) with
  | [] => none
  | _ :: after => some (cs.takeWhile (· != sep), after)

@[simp] theorem cut_nil (sep : Char) : cut sep [] = none := rfl

@[simp] theorem cut_cons (sep c : Char) (cs : List Char) :
    cut sep (c :: cs) =
      if c = sep then some ([], cs) else (cut sep cs).map fun p => (c :: p.1, p.2) := by
  by_cases h : c = sep
  · simp [cut, h]
  · simp only [cut, List.dropWhile_cons, List.takeWhile_cons, bne_iff_ne, ne_eq, h,
      not_false_eq_true, if_true, if_false]
    cases cs.dropWhile (· != sep) <;> rfl

/-- **A cut gives back the text, and its first part has no separator.** -/
theorem cut_eq_some_iff {sep : Char} {cs before after : List Char} :
    cut sep cs = some (before, after) ↔ cs = before ++ sep :: after ∧ sep ∉ before := by
  induction cs generalizing before with
  | nil => simp
  | cons c cs ih =>
    by_cases h : c = sep
    · subst h
      cases before with
      | nil => simp [eq_comm]
      | cons b bs =>
        simp only [cut_cons, if_true, Option.some.injEq, Prod.mk.injEq, List.cons_append,
          List.cons.injEq, List.mem_cons, not_or]
        constructor
        · rintro ⟨h, _⟩; cases h
        · rintro ⟨⟨rfl, _⟩, h, _⟩; exact absurd rfl h
    · cases before with
      | nil => simp [h]
      | cons b bs =>
        simp only [cut_cons, h, if_false, Option.map_eq_some_iff, Prod.mk.injEq, List.cons.injEq,
          Prod.exists, List.cons_append, List.mem_cons, not_or]
        constructor
        · rintro ⟨x, y, hxy, ⟨rfl, rfl⟩, rfl⟩
          obtain ⟨e, hn⟩ := ih.1 hxy
          exact ⟨⟨rfl, e⟩, fun e => h e.symm, hn⟩
        · rintro ⟨⟨rfl, e⟩, _, hn⟩
          exact ⟨bs, after, ih.2 ⟨e, hn⟩, ⟨rfl, rfl⟩, rfl⟩

/-- A text has no cut exactly when it does not hold the separator. -/
theorem cut_eq_none_iff {sep : Char} {cs : List Char} : cut sep cs = none ↔ sep ∉ cs := by
  induction cs with
  | nil => simp
  | cons c cs ih =>
    by_cases h : c = sep
    · simp [h]
    · simp [h, ih, Ne.symm h]

end VisitorNodes.Text
