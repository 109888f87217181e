import VisitorNodes.Category
import VisitorNodes.Proofs.Grammar.LineShape
/-!
# Reading the lines of a category

Lines are read one by one up to the first malformed one. This file says what that gives, for lines
numbered from any number and then for a whole category:

* all lines are well formed: their variants, one a line (`readLinesFrom_eq_ok_iff`);
* some line is malformed: the one with the least index (`FirstMalformed`), its number and its
  defect (`readLinesFrom_eq_error_iff`). What stands behind it is not looked at
  (`readLinesFrom_tail`).

A category that was read has only words that fit into its lines (`wellFormed_of_read`).
-/

namespace VisitorNodes

open Grammar Text

namespace Grammar

/-! ## 1. The first malformed line -/

/-- The line is read as the variant. -/
def Reads (line : String) (v : Variant) : Prop := Variant.parse line = .ok v

/-- Nothing is wrong with the line. -/
def IsSound (line : String) : Prop := ∃ v, Reads line v

/-- The line at index `i` is malformed, and no line before it is. -/
structure FirstMalformed (lines : List String) (i : Nat) (line : String) (d : Defect) : Prop where
  found : lines[i]? = some line
  defect : Variant.parse line = .error d
  least : ∀ j < i, ∀ earlier, lines[j]? = some earlier → IsSound earlier

/-- The first of all lines is malformed, or it is sound and the first malformed one is behind
    it. -/
theorem firstMalformed_cons {line : String} {lines : List String} {i : Nat} {bad : String}
    {d : Defect} :
    FirstMalformed (line :: lines) i bad d ↔
      (i = 0 ∧ line = bad ∧ Variant.parse bad = .error d) ∨
        ∃ k, i = k + 1 ∧ IsSound line ∧ FirstMalformed lines k bad d := by
  constructor
  · intro given
    obtain ⟨hf, hd, hl⟩ := given
    cases i with
    | zero => exact .inl ⟨rfl, Option.some.inj hf, hd⟩
    | succ k =>
      refine .inr ⟨k, rfl, hl 0 (Nat.succ_pos k) line rfl, hf, hd, fun j hj e he => ?_⟩
      exact hl (j + 1) (Nat.succ_lt_succ hj) e he
  · intro given
    obtain ⟨rfl, rfl, hd⟩ | ⟨k, rfl, hs, hf, hd, hl⟩ := given
    · exact ⟨rfl, hd, fun j hj => absurd hj (Nat.not_lt_zero j)⟩
    · refine ⟨hf, hd, fun j hj e he => ?_⟩
      cases j with
      | zero => exact Option.some.inj he ▸ hs
      | succ j => exact hl j (Nat.lt_of_succ_lt_succ hj) e he

/-- Sound lines before the others only move the first malformed one. -/
theorem FirstMalformed.prepend {lines : List String} {i : Nat} {bad : String} {d : Defect}
    (h : FirstMalformed lines i bad d) {sound : List String} (hs : ∀ l ∈ sound, IsSound l) :
    FirstMalformed (sound ++ lines) (i + sound.length) bad d := by
  induction sound with
  | nil => exact h
  | cons l ls ih =>
    refine firstMalformed_cons.mpr (.inr ⟨i + ls.length, rfl, hs l List.mem_cons_self, ?_⟩)
    exact ih fun k hk => hs k (List.mem_cons_of_mem _ hk)

/-! ## 2. Reading lines -/

theorem readLinesFrom_cons_sound {line : String} {v : Variant} (h : Reads line v) (n : Nat)
    (lines : List String) :
    (readLinesFrom n (line :: lines)).result
      = (readLinesFrom (n + 1) lines).result.map (v :: ·) := by
  simp only [readLinesFrom, readLine, show Variant.parse line = .ok v from h, Traced.andThen_result,
    Traced.silent_result]

theorem readLinesFrom_cons_malformed {line : String} {d : Defect}
    (h : Variant.parse line = .error d) (n : Nat) (lines : List String) :
    readLinesFrom n (line :: lines) = .silent (.error ⟨n, line, d⟩) := by
  simp only [readLinesFrom, readLine, h]
  rfl

/-- **All variants are read when every line is sound**, one a line and in the order of the
    lines. -/
theorem readLinesFrom_eq_ok_iff {n : Nat} {lines : List String} {variants : List Variant} :
    (readLinesFrom n lines).result = .ok variants ↔ List.Forall₂ Reads lines variants := by
  induction lines generalizing n variants with
  | nil =>
    rw [List.forall₂_nil_left_iff]
    exact ⟨fun h => by cases h; rfl, fun h => by rw [h]; rfl⟩
  | cons line lines ih =>
    rw [List.forall₂_cons_left_iff]
    cases hp : Variant.parse line with
    | error d =>
      rw [readLinesFrom_cons_malformed hp]
      refine ⟨fun h => (nomatch h), ?_⟩
      intro given
      obtain ⟨v, _, hv, _⟩ := given
      cases hp.symm.trans hv
    | ok v =>
      rw [readLinesFrom_cons_sound hp]
      constructor
      · intro h
        cases hr : (readLinesFrom (n + 1) lines).result with
        | error m => rw [hr] at h; cases h
        | ok vs =>
          rw [hr] at h
          cases h
          exact ⟨v, vs, hp, ih.mp hr, rfl⟩
      · intro given
        obtain ⟨w, ws, hw, hws, rfl⟩ := given
        cases hp.symm.trans hw
        rw [ih.mpr hws]
        rfl

/-- **The reading fails at the first malformed line**, whose number counts on from the number of
    the first line. -/
theorem readLinesFrom_eq_error_iff {n : Nat} {lines : List String} {m : MalformedLine} :
    (readLinesFrom n lines).result = .error m ↔
      ∃ i line d, FirstMalformed lines i line d ∧ m = ⟨n + i, line, d⟩ := by
  induction lines generalizing n with
  | nil =>
    refine ⟨fun h => (nomatch h), ?_⟩
    intro given
    obtain ⟨i, line, d, ⟨hf, _, _⟩, _⟩ := given
    cases hf
  | cons line lines ih =>
    simp only [firstMalformed_cons]
    cases hp : Variant.parse line with
    | error d =>
      rw [readLinesFrom_cons_malformed hp]
      constructor
      · intro h
        cases h
        exact ⟨0, line, d, .inl ⟨rfl, rfl, hp⟩, rfl⟩
      · intro given
        obtain ⟨i, bad, e, ⟨rfl, rfl, he⟩ | ⟨k, _, ⟨v, hv⟩, _⟩, rfl⟩ := given
        · cases hp.symm.trans he
          rfl
        · cases hp.symm.trans hv
    | ok v =>
      rw [readLinesFrom_cons_sound hp]
      constructor
      · intro h
        cases hr : (readLinesFrom (n + 1) lines).result with
        | ok vs => rw [hr] at h; cases h
        | error m' =>
          rw [hr] at h
          cases h
          obtain ⟨k, bad, d, hk, rfl⟩ := ih.mp hr
          have e : n + 1 + k = n + (k + 1) := by omega
          exact ⟨k + 1, bad, d, .inr ⟨k, rfl, ⟨v, hp⟩, hk⟩, by rw [e]⟩
      · intro given
        obtain ⟨i, bad, d, ⟨_, rfl, hd⟩ | ⟨k, rfl, _, hk⟩, rfl⟩ := given
        · cases hp.symm.trans hd
        · have e : n + (k + 1) = n + 1 + k := by omega
          have hr : (readLinesFrom (n + 1) lines).result = .error ⟨n + (k + 1), bad, d⟩ :=
            ih.mpr ⟨k, bad, d, hk, by rw [e]⟩
          rw [hr]
          rfl

/-- What stands behind a malformed line is not looked at. -/
theorem readLinesFrom_tail {bad : String} {d : Defect} (h : Variant.parse bad = .error d) (n : Nat)
    (before after after' : List String) :
    readLinesFrom n (before ++ bad :: after) = readLinesFrom n (before ++ bad :: after') := by
  induction before generalizing n with
  | nil =>
    rw [List.nil_append, List.nil_append, readLinesFrom_cons_malformed h,
      readLinesFrom_cons_malformed h]
  | cons l ls ih =>
    rw [List.cons_append, List.cons_append, readLinesFrom, readLinesFrom]
    simp only [ih]

end Grammar

/-! ## 3. Reading a category -/

namespace Category

/-- The names that no category can have. -/
def Unnamed (name : String) : Prop := name = "" ∨ ∃ c ∈ name.toList, isBlank c = true

theorem isName_iff_isWord {name : String} : isName name = true ↔ IsWord [] name := by
  simp only [isName, Bool.and_eq_true, Bool.not_eq_true', List.isEmpty_eq_false_iff,
    any_isBlank_eq_false]
  exact ⟨fun ⟨h, h'⟩ => ⟨h, h', fun _ hc => absurd hc List.not_mem_nil⟩, fun h => ⟨h.ne, h.solid⟩⟩

theorem isName_eq_false_iff {name : String} : isName name = false ↔ Unnamed name := by
  simp only [isName, Unnamed, Bool.and_eq_false_iff, Bool.not_eq_false', List.isEmpty_iff,
    List.any_eq_true, String.toList_eq_nil_iff]

instance (name : String) : Decidable (Unnamed name) := decidable_of_iff _ isName_eq_false_iff

theorem read_of_unnamed {name : String} (h : Unnamed name) (lines : List String) :
    read name lines = .silent (.error (.invalidName name)) := by
  unfold read
  rw [isName_eq_false_iff.mpr h]
  rfl

/-- The result of reading a category with a name is that of its lines. -/
theorem read_result_of_named {name : String} (h : ¬ Unnamed name) (lines : List String) :
    (read name lines).result = match (readLines lines).result with
      | .error line => .error (.malformed name line)
      | .ok variants => .ok ⟨name, variants⟩ := by
  have hn : isName name = true := by
    rw [← Bool.not_eq_false, isName_eq_false_iff]
    exact h
  unfold read
  rw [if_pos hn, Traced.andThen_result]
  cases (readLines lines).result <;> rfl

/-- **A category is read when it has a name and all its lines are sound.** -/
theorem read_eq_ok_iff {name : String} {lines : List String} {c : Category} :
    (read name lines).result = .ok c ↔
      ¬ Unnamed name ∧ c.name = name ∧ List.Forall₂ Reads lines c.variants := by
  by_cases h : Unnamed name
  · rw [read_of_unnamed h]
    exact ⟨fun hr => (nomatch hr), fun hr => absurd h hr.1⟩
  · rw [read_result_of_named h, ← readLinesFrom_eq_ok_iff (n := 1)]
    unfold readLines
    cases (readLinesFrom 1 lines).result with
    | error m => exact ⟨fun hr => (nomatch hr), fun hr => (nomatch hr.2.2)⟩
    | ok vs =>
      constructor
      · intro hr
        cases hr
        exact ⟨h, rfl, rfl⟩
      · intro given
        obtain ⟨_, rfl, hv⟩ := given
        cases hv
        rfl

/-- A category whose words fit into its lines. -/
structure WellFormed (c : Category) : Prop where
  name : IsWord [] c.name
  variants : ∀ v ∈ c.variants, v.WellFormed

/-- What was read is well formed. -/
theorem wellFormed_of_read {name : String} {lines : List String} {c : Category}
    (h : (read name lines).result = .ok c) : c.WellFormed := by
  obtain ⟨hn, rfl, hv⟩ := read_eq_ok_iff.mp h
  refine ⟨isName_iff_isWord.mp ?_, fun v hvm => ?_⟩
  · rw [← Bool.not_eq_false, isName_eq_false_iff]
    exact hn
  · obtain ⟨k, hk, rfl⟩ := List.mem_iff_getElem.mp hvm
    have hk' : k < lines.length := hv.length_eq ▸ hk
    exact (parse_sound (hv.get hk' hk)).1

end Category

end VisitorNodes
