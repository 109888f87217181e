import VisitorNodes.Text.Words
import VisitorNodes.Proofs.Text.Split
import VisitorNodes.Proofs.Text.Trim
/-!
# Case mappings make no blanks and no marks

The names of generated code are grammar words in another case. A mapping may replace one character
by several, but it makes no blank out of another character, and no ASCII character that is printed
and no letter, such as a slash or a brace (`mem_upperCase`, `mem_lowerCase`). So a solid text stays
solid when it is capitalized (`Solid.capitalize`) or written in lower camel case
(`Solid.lowerCamelCase`), and a mark in such a text stood in it before (`mem_of_mem_capitalize`,
`mem_of_mem_lowerCamelCase`).

Beyond ASCII this is read off the tables, once for all of them. A table maps a stretch of characters
to a stretch again, whose two ends tell what is not in it (`Shift.not_liesIn`).
-/

namespace VisitorNodes.Text

/-! ## 1. The tables -/

/-- A character lies in one of the stretches, each given by its ends. -/
def LiesIn (stretches : List (Nat × Nat)) (c : Char) : Prop :=
  ∃ ends ∈ stretches, ends.1 ≤ c.toNat ∧ c.toNat ≤ ends.2

instance (stretches : List (Nat × Nat)) : DecidablePred (LiesIn stretches) := fun _ =>
  inferInstanceAs (Decidable (∃ ends ∈ stretches, _))

/-- No target of the shift lies in one of the stretches, nor does the null character. -/
def Shift.misses (stretches : List (Nat × Nat)) (s : Shift) : Bool :=
  stretches.all fun ends =>
    0 < ends.1 && (s.target + (s.last - s.first) < ends.1 || ends.2 < s.target)

theorem Shift.not_liesIn {stretches : List (Nat × Nat)} {s : Shift}
    (h : s.misses stretches = true) {k : Nat} (hk : k ∈ List.range (s.last - s.first + 1)) :
    ¬ LiesIn stretches (Char.ofNat (s.target + k)) := by
  intro given
  obtain ⟨ends, hmem, hfirst, hlast⟩ := given
  -- a code point that stands for no character gives the null character
  have hcode : (Char.ofNat (s.target + k)).toNat = s.target + k ∨
      (Char.ofNat (s.target + k)).toNat = 0 := by
    by_cases hvalid : (s.target + k).isValidChar
    · rw [Char.ofNat, dif_pos hvalid]
      exact .inl rfl
    · rw [Char.ofNat, dif_neg hvalid]
      exact .inr rfl
  have hends := List.all_eq_true.mp h ends hmem
  simp only [Bool.and_eq_true, Bool.or_eq_true, decide_eq_true_eq] at hends
  rw [List.mem_range] at hk
  omega

/-- The stretches of blanks. -/
def blankStretches : List (Nat × Nat) :=
  [(9, 13), (0x20, 0x20), (0x85, 0x85), (0xA0, 0xA0), (0x1680, 0x1680), (0x2000, 0x200A),
   (0x2028, 0x2029), (0x202F, 0x202F), (0x205F, 0x205F), (0x3000, 0x3000)]

theorem liesIn_of_isBlank {c : Char} (h : isBlank c = true) : LiesIn blankStretches c := by
  simp only [isBlank, Bool.or_eq_true, Bool.and_eq_true, decide_eq_true_eq, beq_iff_eq] at h
  simp only [LiesIn, blankStretches, List.mem_cons, List.not_mem_nil, or_false, exists_eq_or_imp,
    exists_eq_left]
  omega

/-- The stretches of ASCII characters that are printed and are no letters. -/
def markStretches : List (Nat × Nat) := [(0x21, 0x40), (0x5B, 0x60), (0x7B, 0x7E)]

/-- An ASCII character that is printed and is no letter. -/
def IsMark (c : Char) : Prop := LiesIn markStretches c

instance : DecidablePred IsMark := inferInstanceAs (DecidablePred (LiesIn markStretches))

/-- A blank or a mark. -/
def IsBarred (c : Char) : Prop := LiesIn (blankStretches ++ markStretches) c

instance : DecidablePred IsBarred :=
  inferInstanceAs (DecidablePred (LiesIn (blankStretches ++ markStretches)))

theorem isBarred_of_isBlank {c : Char} (h : isBlank c = true) : IsBarred c :=
  (liesIn_of_isBlank h).imp fun _ => And.imp_left (List.mem_append_left _)

theorem IsMark.isBarred {c : Char} (h : IsMark c) : IsBarred c :=
  h.imp fun _ => And.imp_left (List.mem_append_right _)

theorem shifts_miss : (upperShifts ++ lowerShifts).all
    (Shift.misses (blankStretches ++ markStretches)) = true := by decide +kernel

/-- Every expansion holds something, and nothing that is barred. -/
theorem expansions_clear : (upperExpansions ++ lowerExpansions).all
    (fun e => e.2 ≠ [] && e.2.all fun n => !IsBarred (Char.ofNat n)) = true := by decide +kernel

/-- What a mapping by tables gives: an expansion, the target of a shift, or the character itself. -/
theorem mapCase_cases {P : List Char → Prop} {expansions : List (Nat × List Nat)}
    {shifts : List Shift} {c : Char} (he : ∀ e ∈ expansions, P (e.2.map Char.ofNat))
    (hs : ∀ s ∈ shifts, ∀ k ∈ List.range (s.last - s.first + 1), P [Char.ofNat (s.target + k)])
    (hc : P [c]) : P (mapCase expansions shifts c) := by
  unfold mapCase
  split
  · rename_i ns hl
    obtain ⟨before, after, rfl, _⟩ := List.lookup_eq_some_iff.mp hl
    exact he (c.toNat, ns) (List.mem_append_right _ List.mem_cons_self)
  · split
    · rename_i n hf
      obtain ⟨s, hfind, rfl⟩ := Option.map_eq_some_iff.mp hf
      have hholds := List.find?_some hfind
      simp only [Stretch.holds, Bool.and_eq_true, decide_eq_true_eq] at hholds
      have hk : c.toNat - s.first ∈ List.range (s.last - s.first + 1) := by
        rw [List.mem_range]
        omega
      exact hs s (List.mem_of_find?_eq_some hfind) _ hk
    · exact hc

/-- **The tables give no blank and no mark** but for the character itself. -/
theorem mem_mapCase {expansions : List (Nat × List Nat)} {shifts : List Shift}
    (he : expansions ⊆ upperExpansions ++ lowerExpansions)
    (hs : shifts ⊆ upperShifts ++ lowerShifts) {c d : Char} (h : d ∈ mapCase expansions shifts c) :
    d = c ∨ ¬ IsBarred d := by
  refine mapCase_cases (P := fun cs => d ∈ cs → d = c ∨ ¬ IsBarred d) (fun e hmem h => .inr ?_)
    (fun s hmem k hk h => .inr ?_) (fun h => .inl (List.mem_singleton.mp h)) h
  · obtain ⟨n, hn, rfl⟩ := List.mem_map.mp h
    have hclear := List.all_eq_true.mp expansions_clear e (he hmem)
    rw [Bool.and_eq_true] at hclear
    simpa using List.all_eq_true.mp hclear.2 n hn
  · rw [List.mem_singleton.mp h]
    exact Shift.not_liesIn (List.all_eq_true.mp shifts_miss s (hs hmem)) hk

/-! ## 2. Characters -/

/-- What holds of the first 128 code points holds of an ASCII character. -/
theorem ascii_induction {P : Char → Prop} (h : ∀ n : Fin 128, P (Char.ofNat n)) {c : Char}
    (hc : c.toNat < 0x80) : P c := by
  have hP := h ⟨c.toNat, hc⟩
  rwa [Char.ofNat_toNat] at hP

/-- In another case an ASCII character is the same, or not barred. -/
theorem ascii_case {c : Char} (hc : c.toNat < 0x80) :
    (c.toUpper = c ∨ ¬ IsBarred c.toUpper) ∧ (c.toLower = c ∨ ¬ IsBarred c.toLower) := by
  have hascii : ∀ n : Fin 128,
      ((Char.ofNat n).toUpper = Char.ofNat n ∨ ¬ IsBarred (Char.ofNat n).toUpper) ∧
        ((Char.ofNat n).toLower = Char.ofNat n ∨ ¬ IsBarred (Char.ofNat n).toLower) := by
    decide +kernel
  exact ascii_induction (P := fun c => (c.toUpper = c ∨ ¬ IsBarred c.toUpper) ∧
    (c.toLower = c ∨ ¬ IsBarred c.toLower)) hascii hc

theorem lowerCase_ascii {c : Char} (hc : c.toNat < 0x80) : lowerCase c = [c.toLower] := if_pos hc

theorem lowerCase_not_ascii {c : Char} (hc : ¬ c.toNat < 0x80) :
    lowerCase c = mapCase lowerExpansions lowerShifts c := if_neg hc

theorem upperCase_ascii {c : Char} (hc : c.toNat < 0x80) : upperCase c = [c.toUpper] := if_pos hc

theorem upperCase_not_ascii {c : Char} (hc : ¬ c.toNat < 0x80) :
    upperCase c = mapCase upperExpansions upperShifts c := if_neg hc

/-- **Upper case makes no blank and no mark** out of another character. -/
theorem mem_upperCase {c d : Char} (h : d ∈ upperCase c) : d = c ∨ ¬ IsBarred d := by
  by_cases hc : c.toNat < 0x80
  · rw [upperCase_ascii hc, List.mem_singleton] at h
    rw [h]
    exact (ascii_case hc).1
  · rw [upperCase_not_ascii hc] at h
    exact mem_mapCase (List.subset_append_left _ _) (List.subset_append_left _ _) h

/-- **Lower case makes no blank and no mark** out of another character. -/
theorem mem_lowerCase {c d : Char} (h : d ∈ lowerCase c) : d = c ∨ ¬ IsBarred d := by
  by_cases hc : c.toNat < 0x80
  · rw [lowerCase_ascii hc, List.mem_singleton] at h
    rw [h]
    exact (ascii_case hc).2
  · rw [lowerCase_not_ascii hc] at h
    exact mem_mapCase (List.subset_append_right _ _) (List.subset_append_right _ _) h

theorem isBlank_eq_false_of {c d : Char} (h : d = c ∨ ¬ IsBarred d) (hc : isBlank c = false) :
    isBlank d = false := by
  rcases h with rfl | h
  · exact hc
  · exact Bool.eq_false_iff.mpr (mt isBarred_of_isBlank h)

theorem solid_upperCase {c : Char} (hc : isBlank c = false) : Solid (upperCase c) :=
  fun _ hd => isBlank_eq_false_of (mem_upperCase hd) hc

theorem solid_lowerCase {c : Char} (hc : isBlank c = false) : Solid (lowerCase c) :=
  fun _ hd => isBlank_eq_false_of (mem_lowerCase hd) hc

/-- Only a mark is that mark in upper case. -/
theorem eq_of_mem_upperCase {c mark : Char} (hm : IsMark mark) (h : mark ∈ upperCase c) :
    mark = c := (mem_upperCase h).resolve_right (not_not_intro hm.isBarred)

/-- Only a mark is that mark in lower case. -/
theorem eq_of_mem_lowerCase {c mark : Char} (hm : IsMark mark) (h : mark ∈ lowerCase c) :
    mark = c := (mem_lowerCase h).resolve_right (not_not_intro hm.isBarred)

theorem upperCase_ne_nil (c : Char) : upperCase c ≠ [] := by
  have hexpansions : ∀ e ∈ upperExpansions, e.2.map Char.ofNat ≠ [] := fun e he hnil => by
    have hclear := List.all_eq_true.mp expansions_clear e (List.mem_append_left _ he)
    rw [Bool.and_eq_true, decide_eq_true_eq] at hclear
    exact hclear.1 (List.map_eq_nil_iff.mp hnil)
  by_cases hc : c.toNat < 0x80
  · rw [upperCase_ascii hc]
    exact List.cons_ne_nil _ _
  · rw [upperCase_not_ascii hc]
    exact mapCase_cases (P := (· ≠ [])) hexpansions (fun _ _ _ _ => List.cons_ne_nil _ _)
      (List.cons_ne_nil _ _)

/-! ## 3. Texts -/

theorem capitalize_ne_nil {cs : List Char} (h : cs ≠ []) : capitalize cs ≠ [] := by
  cases cs with
  | nil => exact absurd rfl h
  | cons c cs => exact List.append_ne_nil_of_left_ne_nil (upperCase_ne_nil c) cs

/-- A mark of a capitalized text is one of the text. -/
theorem mem_of_mem_capitalize {cs : List Char} {mark : Char} (hm : IsMark mark)
    (h : mark ∈ capitalize cs) : mark ∈ cs := by
  cases cs with
  | nil => exact h
  | cons c cs =>
    rcases List.mem_append.mp h with h | h
    · exact List.mem_cons.mpr (.inl (eq_of_mem_upperCase hm h))
    · exact List.mem_cons_of_mem _ h

theorem Solid.capitalize {cs : List Char} (h : Solid cs) : Solid (capitalize cs) := by
  cases cs with
  | nil => exact solid_nil
  | cons c cs =>
    obtain ⟨hc, hcs⟩ := solid_cons.mp h
    exact solid_append.mpr ⟨solid_upperCase hc, hcs⟩

/-- A character of a text in lower case comes from one of the text, or is the final sigma. -/
theorem mem_lowerText {cs : List Char} {d : Char} (h : d ∈ lowerText cs) :
    d = '\u03C2' ∨ ∃ c ∈ cs, d ∈ lowerCase c := by
  induction cs with
  | nil => exact absurd h List.not_mem_nil
  | cons c cs ih =>
    cases cs with
    | nil =>
      unfold Text.lowerText at h
      split at h
      · exact .inl (List.mem_singleton.mp h)
      · exact .inr ⟨c, List.mem_cons_self, h⟩
    | cons c' cs =>
      rcases List.mem_append.mp h with h | h
      · exact .inr ⟨c, List.mem_cons_self, h⟩
      · exact (ih h).imp_right fun ⟨e, he, hd⟩ => ⟨e, List.mem_cons_of_mem _ he, hd⟩

/-- A mark of a text in lower case is one of the text. -/
theorem mem_of_mem_lowerText {cs : List Char} {mark : Char} (hm : IsMark mark)
    (h : mark ∈ lowerText cs) : mark ∈ cs := by
  rcases mem_lowerText h with rfl | ⟨c, hc, h⟩
  · exact absurd hm (by decide)
  · exact (eq_of_mem_lowerCase hm h).symm ▸ hc

theorem mem_of_mem_capitalText {cs : List Char} {mark : Char} (hm : IsMark mark)
    (h : mark ∈ capitalText cs) : mark ∈ cs := by
  cases cs with
  | nil => exact h
  | cons c cs =>
    rcases List.mem_append.mp h with h | h
    · exact List.mem_cons.mpr (.inl (eq_of_mem_upperCase hm h))
    · exact List.mem_cons_of_mem _ (mem_of_mem_lowerText hm h)

theorem Solid.lowerText {cs : List Char} (h : Solid cs) : Solid (lowerText cs) := by
  intro d hd
  rcases mem_lowerText hd with rfl | ⟨c, hc, hd⟩
  · decide
  · exact solid_lowerCase (h c hc) d hd

theorem Solid.capitalText {cs : List Char} (h : Solid cs) : Solid (capitalText cs) := by
  cases cs with
  | nil => exact solid_nil
  | cons c cs =>
    obtain ⟨hc, hcs⟩ := solid_cons.mp h
    exact solid_append.mpr ⟨solid_upperCase hc, hcs.lowerText⟩

/-! ## 4. Words -/

/-- The words of a run hold only what was read. -/
theorem mem_of_mem_runWords {case : Case} {word cs w : List Char} {c : Char}
    (hw : w ∈ runWords case word cs) (hc : c ∈ w) : c ∈ word ∨ c ∈ cs := by
  fun_induction runWords case word cs with
  | case1 => exact absurd hw List.not_mem_nil
  | case2 case word d =>
    rw [List.mem_singleton.mp hw] at hc
    exact List.mem_append.mp hc
  | case3 case word d next rest _ ih =>
    rcases List.mem_cons.mp hw with rfl | hw
    · exact (List.mem_append.mp hc).imp_right fun h => List.mem_cons.mpr
        (.inl (List.mem_singleton.mp h))
    · exact .inr (List.mem_cons_of_mem _ ((ih hw).resolve_left List.not_mem_nil))
  | case4 case word d next rest _ _ ih =>
    rcases List.mem_cons.mp hw with rfl | hw
    · exact .inl hc
    · refine .inr ((ih hw).elim (fun h => ?_) (List.mem_cons_of_mem _))
      rw [List.mem_singleton.mp h]
      exact List.mem_cons_self
  | case5 case word d next rest _ _ ih =>
    rcases ih hw with h | h
    · exact (List.mem_append.mp h).imp_right fun h => List.mem_cons.mpr
        (.inl (List.mem_singleton.mp h))
    · exact .inr (List.mem_cons_of_mem _ h)

/-- The words of a name hold only its characters. -/
theorem mem_of_mem_words {cs w : List Char} {c : Char} (hw : w ∈ words cs) (hc : c ∈ w) :
    c ∈ cs := by
  obtain ⟨piece, hp, hw⟩ := List.mem_flatMap.mp hw
  exact mem_of_mem_splitOnP hp ((mem_of_mem_runWords hw hc).resolve_left List.not_mem_nil)

theorem Solid.of_mem_words {cs : List Char} (h : Solid cs) {w : List Char} (hw : w ∈ words cs) :
    Solid w := fun c hc => h c (mem_of_mem_words hw hc)

/-- A mark of a name in lower camel case is one of the name. -/
theorem mem_of_mem_lowerCamelCase {cs : List Char} {mark : Char} (hm : IsMark mark)
    (h : mark ∈ lowerCamelCase cs) : mark ∈ cs := by
  unfold Text.lowerCamelCase at h
  split at h
  · exact absurd h List.not_mem_nil
  · rename_i first others hw
    rcases List.mem_append.mp h with h | h
    · exact mem_of_mem_words (hw ▸ List.mem_cons_self) (mem_of_mem_lowerText hm h)
    · obtain ⟨w, hwm, h⟩ := List.mem_flatMap.mp h
      exact mem_of_mem_words (hw ▸ List.mem_cons_of_mem _ hwm) (mem_of_mem_capitalText hm h)

theorem Solid.lowerCamelCase {cs : List Char} (h : Solid cs) : Solid (lowerCamelCase cs) := by
  unfold Text.lowerCamelCase
  split
  · exact solid_nil
  · rename_i first others hw
    rw [solid_append]
    refine ⟨(h.of_mem_words (hw ▸ List.mem_cons_self)).lowerText, fun c hc => ?_⟩
    obtain ⟨w, hwm, hc⟩ := List.mem_flatMap.mp hc
    exact (h.of_mem_words (hw ▸ List.mem_cons_of_mem _ hwm)).capitalText c hc

end VisitorNodes.Text
