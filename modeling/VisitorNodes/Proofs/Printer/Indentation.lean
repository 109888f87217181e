import VisitorNodes.Proofs.Printer.CSharpText
/-!
# Indentation

Indenting reads a text as lines and writes them again. If no carriage return is in the text, what is
written is read back as the same lines, each of them moved (`lines_pushIndented`): none is lost or
doubled, be it empty or made of white space. So two indentations add up to one
(`pushIndented_pushIndented`).

The body of a C# namespace is written, read as lines and moved in this way. Its names hold no blank
if they come from a grammar, so every line of it is kept (`indented_gained`).
-/

namespace VisitorNodes.Text

/-! ## 1. Lines that are moved -/

theorem indentation_add (a b : Nat) : indentation b ++ indentation a = indentation (a + b) := by
  unfold indentation
  rw [← String.ofList_append, List.replicate_append_replicate, Nat.mul_add, Nat.add_comm]

/-- **Levels add up.** A line of white space only is not empty, so it is moved both times. -/
theorem indentLine_indentLine (a b : Nat) (line : String) :
    indentLine b (indentLine a line) = indentLine (a + b) line := by
  unfold indentLine
  by_cases h : line = ""
  · simp only [if_pos h]
    rfl
  · have hmoved : indentation a ++ line ≠ "" := by
      intro e
      exact h (String.append_eq_empty_iff.mp e).2
    rw [if_neg h, if_neg h, if_neg hmoved, ← String.append_assoc, indentation_add]

/-! ## 2. Texts that are moved -/

/-- A line holds characters of one piece between line feeds. -/
theorem exists_of_mem_closeLines {pieces : List (List Char)} {line : List Char}
    (h : line ∈ closeLines pieces) : ∃ piece ∈ pieces, line ⊆ piece := by
  induction pieces with
  | nil => exact absurd h List.not_mem_nil
  | cons piece pieces ih =>
    cases pieces with
    | nil =>
      rw [closeLines] at h
      split at h
      · exact absurd h List.not_mem_nil
      · rw [List.mem_singleton.mp h]
        exact ⟨piece, List.mem_cons_self, List.Subset.refl _⟩
    | cons next rest =>
      rcases List.mem_cons.mp h with rfl | h
      · refine ⟨piece, List.mem_cons_self, ?_⟩
        unfold dropReturn
        split
        · exact List.dropLast_subset _
        · exact List.Subset.refl _
      · obtain ⟨piece', hmem, hsub⟩ := ih h
        exact ⟨piece', List.mem_cons_of_mem _ hmem, hsub⟩

/-- The lines of a text without carriage returns are unbroken. -/
theorem unbroken_of_mem_lines {text line : String} (h : '\r' ∉ text.toList)
    (hmem : line ∈ lines text) : Unbroken line := by
  obtain ⟨cs, hcs, rfl⟩ := List.mem_map.mp hmem
  obtain ⟨piece, hpiece, hsub⟩ := exists_of_mem_closeLines hcs
  intro c hc
  rw [String.toList_ofList] at hc
  refine ⟨?_, ?_⟩
  · rintro rfl
    exact not_mem_of_mem_splitOn hpiece (hsub hc)
  · rintro rfl
    exact h (mem_of_mem_splitOnP hpiece (hsub hc))

section Unbroken

variable {text : String} (h : ∀ line ∈ lines text, Unbroken line)

include h

/-- **What was indented is read back line by line.** -/
theorem lines_pushIndented (level : Nat) :
    lines (pushIndented "" text level) = (lines text).map (indentLine level) :=
  lines_pushLines_unbroken <| List.forall_mem_map.mpr fun line hmem =>
    unbroken_indentLine (h line hmem)

/-- **Indenting twice is indenting once**, by both levels together. -/
theorem pushIndented_pushIndented (a b : Nat) :
    pushIndented "" (pushIndented "" text a) b = pushIndented "" text (a + b) := by
  have hlines : (lines (pushIndented "" text a)).map (indentLine b)
      = (lines text).map (indentLine (a + b)) := by
    rw [lines_pushIndented h, List.map_map]
    exact List.map_congr_left fun line _ => indentLine_indentLine a b line
  exact congrArg (pushLines "") hlines

end Unbroken

theorem gained_pushIndented (out text : String) (level : Nat) :
    gained out (pushIndented out text level) = pushIndented "" text level := by
  rw [pushIndented_eq_append, gained_append]

/-! ## 3. What a buffer gains -/

/-- `added` has the lines of `text`, one for one: an empty line is empty again, and any other line
stands behind four spaces a level. -/
structure Indented (level : Nat) (text added : String) : Prop where
  length_eq : (lines added).length = (lines text).length
  line_eq : ∀ (k : Nat) (line : String), (lines text)[k]? = some line → (lines added)[k]? =
    some (if line = "" then "" else String.ofList (List.replicate (4 * level) ' ') ++ line)

theorem indented_pushIndented {text : String} (h : ∀ line ∈ lines text, Unbroken line)
    (out : String) (level : Nat) :
    Indented level text (gained out (pushIndented out text level)) := by
  rw [gained_pushIndented]
  constructor
  case length_eq => rw [lines_pushIndented h, List.length_map]
  case line_eq =>
    intro k line hline
    rw [lines_pushIndented h, List.getElem?_map, hline]
    rfl

/-- **Indentation keeps the lines of a text, and adds up.** What a buffer gains has the lines of the
text, each moved to the level; and what it gains by indenting that again is what it gains by the two
levels at once. So the body of a C# namespace, for a category that is read from a grammar, is read
back as the lines that it was written by, and in the printed text each of them stands moved. -/
theorem indented_gained :
    (∀ (out text : String) (a : Nat), '\r' ∉ text.toList →
      pushIndented out text a = out ++ gained out (pushIndented out text a) ∧
      Indented a text (gained out (pushIndented out text a))) ∧
    (∀ (out out' text : String) (a b : Nat), '\r' ∉ text.toList →
      gained out' (pushIndented out' (gained out (pushIndented out text a)) b)
        = gained out' (pushIndented out' text (a + b))) ∧
    ∀ (style : CSharp) (category : String) (grammar : List String) (c : Category) (out : String),
      (Category.read category grammar).result = .ok c →
      let header := pushLines out style.headerLines
      let body := pushLines "" (CSharp.bodyLines c.toModule)
      let block := gained header (pushIndented header body 1)
      style.print c.toModule out = pushLine (header ++ block) "\x7d" ∧
      lines body = CSharp.bodyLines c.toModule ∧ Indented 1 body block := by
  refine ⟨fun out text a h => ?_, fun out out' text a b h => ?_,
    fun style category grammar c out h => ?_⟩
  · refine ⟨?_, indented_pushIndented (fun _ => unbroken_of_mem_lines h) out a⟩
    rw [gained_pushIndented, ← pushIndented_eq_append]
  · simp only [gained_pushIndented]
    exact pushIndented_pushIndented (fun _ => unbroken_of_mem_lines h) a b
  · intro header body block
    have hbody := CSharp.unbroken_bodyLines (Category.solidNames_toModule
      (Category.wellFormed_of_read h))
    have hlines : lines body = CSharp.bodyLines c.toModule := lines_pushLines_unbroken hbody
    refine ⟨?_, hlines, indented_pushIndented (hlines ▸ hbody) header 1⟩
    -- printing appends the block to the header, so the header is what the buffer had before
    have hblock : header ++ block = pushIndented header body 1 := by
      rw [pushIndented_eq_append]
      exact congrArg (header ++ ·) (gained_pushIndented header body 1)
    rw [hblock]
    rfl

/-- An empty line, one of white space and a last line without an end, moved by one step and then by
two; and the body of a category with a field whose name is a keyword. -/
theorem indented_gained_blankLines :
    '\r' ∉ "a\n\n  \n b".toList ∧
      gained "x" (pushIndented "x" "a\n\n  \n b" 1) = "    a\n\n      \n     b\n" ∧
      Indented 1 "a\n\n  \n b" "    a\n\n      \n     b\n" ∧
      gained "" (pushIndented "" "    a\n\n      \n     b\n" 2)
        = gained "" (pushIndented "" "a\n\n  \n b" 3) ∧
      ∃ c, (Category.read "Expr" ["Cast : Expr operator"]).result = .ok c ∧
        lines (pushLines "" (CSharp.bodyLines c.toModule)) = CSharp.bodyLines c.toModule := by
  have hreturn : '\r' ∉ "a\n\n  \n b".toList := by decide
  have hadded : gained "x" (pushIndented "x" "a\n\n  \n b" 1) = "    a\n\n      \n     b\n" := by
    decide +kernel
  obtain ⟨hkept, hsum, hbody⟩ := indented_gained
  obtain ⟨-, hindented⟩ := hkept "x" "a\n\n  \n b" 1 hreturn
  have htwice := hsum "x" "" "a\n\n  \n b" 1 2 hreturn
  rw [hadded] at hindented htwice
  have hread : ∃ c, (Category.read "Expr" ["Cast : Expr operator"]).result = .ok c := ⟨_, rfl⟩
  obtain ⟨c, hread⟩ := hread
  obtain ⟨-, hlines, -⟩ := hbody ⟨"Ast", []⟩ _ _ c "" hread
  exact ⟨hreturn, hadded, hindented, htwice, c, hread, hlines⟩

end VisitorNodes.Text
