import VisitorNodes.Text.Lines
import VisitorNodes.Proofs.Text.Split
import VisitorNodes.Proofs.Text.Trim
/-!
# Lines, written and read back

A text that was written line by line (`pushLines`) is read back as its lines, provided that no line
holds a line feed; a carriage return at the end of a line is taken for part of the ending
(`chomp`). Lines without either (`Unbroken`) come back as they are, and so the text determines
them.

A line is told by how it begins (`starts`). Two facts carry that through a printed text: a
beginning is decided within the fixed text at the front of a line, and a word at the front of a
line cannot be extended into a longer beginning, because it holds no space (`starts_word`).
-/

namespace VisitorNodes.Text

/-! ## 1. Unbroken lines -/

/-- A line that no reading of lines breaks or shortens. -/
def Unbroken (line : String) : Prop := ∀ c ∈ line.toList, c ≠ '\n' ∧ c ≠ '\r'

instance : DecidablePred Unbroken := fun line =>
  List.decidableBAll (fun c => c ≠ '\n' ∧ c ≠ '\r') line.toList

@[simp] theorem unbroken_append {a b : String} : Unbroken (a ++ b) ↔ Unbroken a ∧ Unbroken b := by
  unfold Unbroken
  rw [String.toList_append]
  exact List.forall_mem_append

/-- Line feeds and carriage returns are blanks. -/
theorem unbroken_of_solid {s : String} (h : Solid s.toList) : Unbroken s := by
  intro c hc
  refine ⟨fun e => ?_, fun e => ?_⟩
  · exact h.not_mem (c := '\n') rfl (e ▸ hc)
  · exact h.not_mem (c := '\r') rfl (e ▸ hc)

/-- Joined texts hold only characters of them and of what joins them. -/
theorem forall_mem_intercalate {P : Char → Prop} {sep : String} {parts : List String}
    (hs : ∀ c ∈ sep.toList, P c) (h : ∀ part ∈ parts, ∀ c ∈ part.toList, P c) :
    ∀ c ∈ (sep.intercalate parts).toList, P c := by
  intro c hc
  rw [String.toList_intercalate] at hc
  rcases mem_of_mem_intercalate hc with ⟨e, he, hm⟩ | hm
  · obtain ⟨part, hp, rfl⟩ := List.mem_map.mp he
    exact h part hp c hm
  · exact hs c hm

theorem unbroken_intercalate {sep : String} {parts : List String} (hs : Unbroken sep)
    (h : ∀ part ∈ parts, Unbroken part) : Unbroken (sep.intercalate parts) :=
  forall_mem_intercalate hs h

/-! ## 2. Reading back -/

/-- A line without the carriage return at its end, which belongs to the ending. -/
def chomp (line : String) : String := String.ofList (dropReturn line.toList)

theorem chomp_of_unbroken {line : String} (h : Unbroken line) : chomp line = line := by
  unfold chomp dropReturn
  have hlast : ¬ line.toList.getLast? = some '\r' := by
    intro e
    exact (h '\r' (List.mem_of_getLast? e)).2 rfl
  rw [if_neg hlast, String.ofList_toList]

/-- Without its ending a line begins as before. -/
theorem chomp_begins (line : String) : (chomp line).toList <+: line.toList := by
  unfold chomp dropReturn
  rw [String.toList_ofList]
  split
  · exact List.dropLast_prefix _
  · exact List.prefix_refl _

theorem chomp_append {front : String} (h : '\r' ∉ front.toList) (rest : String) :
    chomp (front ++ rest) = front ++ chomp rest := by
  rw [← String.toList_inj]
  unfold chomp dropReturn
  rw [String.toList_ofList, String.toList_append, String.toList_append, String.toList_ofList]
  rcases List.eq_nil_or_concat' rest.toList with hrest | ⟨cs, c, hrest⟩
  · have hlast : ¬ front.toList.getLast? = some '\r' := fun e => h (List.mem_of_getLast? e)
    rw [hrest, List.append_nil, if_neg hlast]
    exact (List.append_nil _).symm
  · rw [hrest, ← List.append_assoc, List.getLast?_concat, List.getLast?_concat]
    split
    · rw [List.dropLast_concat, List.dropLast_concat]
    · exact List.append_assoc _ _ _

/-- Only carriage returns belong to an ending. -/
theorem count_chomp {c : Char} (hc : c ≠ '\r') (line : String) :
    (chomp line).toList.count c = line.toList.count c := by
  unfold chomp dropReturn
  rw [String.toList_ofList]
  split
  · rename_i hlast
    obtain ⟨cs, hline⟩ := List.getLast?_eq_some_iff.mp hlast
    rw [hline, List.dropLast_concat, List.count_append, List.count_singleton, if_neg]
    · rfl
    · exact fun e => hc (beq_iff_eq.mp e).symm
  · rfl

/-- Every line but the last is ended by a line feed. -/
theorem linesOf_append {piece : List Char} (h : '\n' ∉ piece) (rest : List Char) :
    linesOf (piece ++ '\n' :: rest) = dropReturn piece :: linesOf rest := by
  unfold linesOf
  rw [List.splitOn_append_cons_self_of_not_mem h]
  obtain ⟨next, pieces, hp⟩ := List.exists_cons_of_ne_nil (List.splitOn_ne_nil '\n' rest)
  rw [hp]
  rfl

/-- The characters of a text written line by line. -/
theorem toList_pushLines (ls : List String) :
    (pushLines "" ls).toList = ls.flatMap fun l => l.toList ++ ['\n'] := by
  induction ls with
  | nil => rfl
  | cons l ls ih =>
    rw [pushLines_cons, pushLines_eq_append, String.toList_append, ih, List.flatMap_cons]
    congr 1
    unfold pushLine
    rw [String.toList_append, String.toList_append]
    rfl

/-- **Lines come back from the text that they were written to**, up to their endings. -/
theorem lines_pushLines {ls : List String} (h : ∀ l ∈ ls, '\n' ∉ l.toList) :
    lines (pushLines "" ls) = ls.map chomp := by
  unfold lines
  rw [toList_pushLines]
  induction ls with
  | nil => rfl
  | cons l ls ih =>
    have hl : '\n' ∉ l.toList := h l List.mem_cons_self
    rw [List.flatMap_cons, List.append_assoc, List.singleton_append, linesOf_append hl,
      List.map_cons, ih fun k hk => h k (List.mem_cons_of_mem _ hk), List.map_cons]
    rfl

/-- Between its line feeds a text that was written line by line holds the pieces of these lines, and
nothing behind the last one. -/
theorem splitOn_pushLines (ls : List String) :
    (pushLines "" ls).toList.splitOn '\n' = ls.flatMap (·.toList.splitOn '\n') ++ [[]] := by
  rw [toList_pushLines]
  induction ls with
  | nil => rfl
  | cons l ls ih =>
    rw [List.flatMap_cons, List.append_assoc, List.singleton_append,
      List.splitOn_append_cons_self, ih, List.flatMap_cons, List.append_assoc]

/-- If nothing stands behind the last line feed, every piece before it is a line. -/
theorem closeLines_concat_nil (pieces : List (List Char)) :
    closeLines (pieces ++ [[]]) = pieces.map dropReturn := by
  induction pieces with
  | nil => rfl
  | cons piece pieces ih =>
    cases pieces with
    | nil => rfl
    | cons next rest =>
      rw [List.map_cons, ← ih]
      rfl

/-- Unbroken lines come back as they are. -/
theorem lines_pushLines_unbroken {ls : List String} (h : ∀ l ∈ ls, Unbroken l) :
    lines (pushLines "" ls) = ls := by
  have hn : ∀ l ∈ ls, '\n' ∉ l.toList := fun l hl hc => (h l hl '\n' hc).1 rfl
  have hc : ls.map chomp = ls.map id := List.map_congr_left fun l hl => chomp_of_unbroken (h l hl)
  rw [lines_pushLines hn, hc, List.map_id]

/-! ## 3. Indentation -/

theorem indentation_one : indentation 1 = "    " := by decide

/-- One step of indentation forgets nothing. -/
theorem indentLine_one_injective {k l : String} (h : indentLine 1 k = indentLine 1 l) : k = l := by
  have hne : ∀ s : String, "    " ++ s ≠ "" := by
    intro s e
    have hlen := congrArg String.length e
    rw [String.length_append] at hlen
    exact absurd hlen (by simp)
  unfold indentLine at h
  rw [indentation_one] at h
  split at h
  · rename_i hk
    split at h
    · rename_i hl
      rw [hk, hl]
    · exact absurd h.symm (hne l)
  · split at h
    · exact absurd h (hne k)
    · exact (String.append_right_inj "    ").mp h

theorem indentLine_one {line : String} (h : line ≠ "") : indentLine 1 line = "    " ++ line := by
  unfold indentLine
  rw [if_neg h, indentation_one]

theorem unbroken_indentation (level : Nat) : Unbroken (indentation level) := by
  intro c hc
  unfold indentation at hc
  rw [String.toList_ofList] at hc
  rw [(List.mem_replicate.mp hc).2]
  decide

theorem unbroken_indentLine {level : Nat} {line : String} (h : Unbroken line) :
    Unbroken (indentLine level line) := by
  unfold indentLine
  split
  · decide
  · exact unbroken_append.mpr ⟨unbroken_indentation level, h⟩

/-! ## 4. How a line begins -/

/-- Whether `line` begins with `start`. -/
def starts (start line : String) : Bool := start.toList.isPrefixOf line.toList

theorem starts_iff {start line : String} :
    starts start line = true ↔ start.toList <+: line.toList := List.isPrefixOf_iff_prefix

theorem starts_append_self (start rest : String) : starts start (start ++ rest) = true := by
  rw [starts_iff, String.toList_append]
  exact List.prefix_append _ _

/-- A line is not among lines that do not begin like it. -/
theorem not_mem_of_starts {line : String} {ls : List String} (h : ∀ l ∈ ls, starts line l = false) :
    line ∉ ls := by
  intro hm
  have hself : starts line line = true := starts_iff.mpr (List.prefix_refl _)
  rw [h line hm] at hself
  exact Bool.false_ne_true hself

theorem ne_empty_of_starts {start line : String} (hs : start ≠ "") (h : starts start line = true) :
    line ≠ "" := by
  intro e
  rw [e, starts_iff] at h
  exact hs (String.toList_eq_nil_iff.mp (List.prefix_nil.mp h))

/-- Neither text begins the other. -/
def Apart (a b : String) : Prop := starts a b = false ∧ starts b a = false

instance (a b : String) : Decidable (Apart a b) := inferInstanceAs (Decidable (_ ∧ _))

/-- A fixed text at the front of a line rules out every beginning apart from it. -/
theorem Apart.starts_append {start front : String} (h : Apart start front) (rest : String) :
    starts start (front ++ rest) = false := by
  obtain ⟨hs, hf⟩ := h
  rw [← Bool.not_eq_true, starts_iff] at hs hf ⊢
  intro hp
  rw [String.toList_append] at hp
  rcases List.prefix_or_prefix_of_prefix hp (List.prefix_append _ _) with h | h
  · exact hs h
  · exact hf h

/-- A line that begins with none of the texts. -/
def Avoids (begins : List String) (line : String) : Prop :=
  ∀ start ∈ begins, starts start line = false

instance (begins : List String) : DecidablePred (Avoids begins) := fun line =>
  List.decidableBAll (fun start => starts start line = false) begins

theorem Avoids.mono {begins fewer : List String} {line : String} (h : Avoids begins line)
    (hf : fewer ⊆ begins) : Avoids fewer line := fun start hs => h start (hf hs)

theorem avoids_append {begins : List String} {front : String}
    (h : ∀ start ∈ begins, Apart start front) (rest : String) : Avoids begins (front ++ rest) :=
  fun start hs => (h start hs).starts_append rest

/-- Without its ending, a line has no beginning that it has not with it. -/
theorem Avoids.chomp {begins : List String} {line : String} (h : Avoids begins line) :
    Avoids begins (chomp line) := by
  intro start hs
  have hline := h start hs
  rw [← Bool.not_eq_true, starts_iff] at hline ⊢
  exact fun hp => hline (hp.trans (chomp_begins line))

/-- A beginning moves with the line that is indented. -/
theorem starts_indentLine {start : String} (hs : start ≠ "") (line : String) :
    starts ("    " ++ start) (indentLine 1 line) = starts start line := by
  unfold indentLine
  rw [indentation_one, Bool.eq_iff_iff, starts_iff, starts_iff, String.toList_append]
  split
  · rename_i hl
    have hne : start.toList ≠ [] := fun e => hs (String.toList_eq_nil_iff.mp e)
    rw [hl]
    exact ⟨fun h => absurd (List.prefix_nil.mp h) (by simp),
      fun h => absurd (List.prefix_nil.mp h) hne⟩
  · rw [String.toList_append, List.prefix_append_right_inj]

/-- The first separator takes a list apart in one way only. -/
theorem append_cons_inj {α : Type} {sep : α} {a a' b b' : List α} (ha : sep ∉ a) (ha' : sep ∉ a')
    (h : a ++ sep :: b = a' ++ sep :: b') : a = a' ∧ b = b' := by
  induction a generalizing a' with
  | nil =>
    cases a' with
    | nil => exact ⟨rfl, (List.cons.inj h).2⟩
    | cons x xs => exact absurd ((List.cons.inj h).1 ▸ List.mem_cons_self) ha'
  | cons x xs ih =>
    cases a' with
    | nil => exact absurd ((List.cons.inj h).1 ▸ List.mem_cons_self) ha
    | cons y ys =>
      obtain ⟨rfl, hrest⟩ := List.cons.inj h
      obtain ⟨rfl, hb⟩ := ih (fun hm => ha (List.mem_cons_of_mem _ hm))
        (fun hm => ha' (List.mem_cons_of_mem _ hm)) hrest
      exact ⟨rfl, hb⟩

/-- A word in front of a space is determined by the line. -/
theorem word_append_inj {word word' rest rest' : String} (h : Solid word.toList)
    (h' : Solid word'.toList) (e : word ++ " " ++ rest = word' ++ " " ++ rest') :
    word = word' ∧ rest = rest' := by
  have hspace : " ".toList = [' '] := by decide
  have hchars := congrArg String.toList e
  simp only [String.toList_append, hspace, List.append_assoc, List.singleton_append] at hchars
  obtain ⟨hw, hr⟩ := append_cons_inj (h.not_mem rfl) (h'.not_mem rfl) hchars
  exact ⟨String.toList_inj.mp hw, String.toList_inj.mp hr⟩

/-- A common front takes no part in a beginning. -/
theorem starts_append_append (front start rest : String) :
    starts (front ++ start) (front ++ rest) = starts start rest := by
  rw [Bool.eq_iff_iff, starts_iff, starts_iff, String.toList_append, String.toList_append,
    List.prefix_append_right_inj]

/-- A text without spaces has no beginning with a space. -/
theorem starts_eq_false_of_solid {start line : String} (hs : ' ' ∈ start.toList)
    (hl : Solid line.toList) : starts start line = false := by
  rw [← Bool.not_eq_true, starts_iff]
  intro hp
  exact hl.not_mem (c := ' ') rfl (hp.subset hs)

/-- **A word and a space at the front of a line begin it only as a whole.** -/
theorem starts_word {word front start rest : String} (hw : ' ' ∉ word.toList)
    (hf : ' ' ∉ front.toList) :
    starts (word ++ " " ++ start) (front ++ " " ++ rest) = true
      ↔ word = front ∧ starts start rest = true := by
  have hspace : " ".toList = [' '] := by decide
  rw [starts_iff, starts_iff]
  simp only [String.toList_append, hspace, List.append_assoc, List.singleton_append]
  constructor
  · intro given
    obtain ⟨more, h⟩ := given
    rw [List.append_assoc, List.cons_append] at h
    obtain ⟨hword, hrest⟩ := append_cons_inj hw hf h
    exact ⟨String.toList_inj.mp hword, more, hrest⟩
  · intro given
    obtain ⟨hword, hrest⟩ := given
    rw [hword, List.prefix_append_right_inj, List.cons_prefix_cons]
    exact ⟨rfl, hrest⟩

end VisitorNodes.Text
