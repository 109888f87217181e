import VisitorNodes.Proofs.Story
import Mathlib.Data.Finset.Card
/-!
# Names that occur again

A category keeps the names that occur again as they are, and its reading warns about each of them
behind the reports on its lines. Which warnings these are is said here by places
(`Category.duplicates`): the variants in their order, each with its own name if an earlier variant
has that name, and then with the names of its fields that an earlier field OF THE SAME VARIANT has.

The reading finds them by a walk that keeps the names it has seen. The walk over variants and the
one over the fields of a variant are the same walk (`againEach`), so what relates seen names to
earlier places, and what counts the reports, is shown once. `read_duplicates` puts it together.
-/

namespace VisitorNodes

open Grammar

/-! ## 1. Warnings by places -/

/-- What the fields of a variant are warned about: each that an earlier field of the variant has the
name of. -/
def Grammar.Variant.duplicates (category : String) (v : Variant) : List Event :=
  v.fields.zipIdx.flatMap fun (f, k) =>
    if ∃ earlier ∈ v.fields.take k, earlier.name = f.name then
      [.duplicateField category v.name f.name]
    else []

/-- What a category is warned about: each variant that an earlier one has the name of, and behind it
what its fields are warned about. -/
def Category.duplicates (c : Category) : List Event :=
  c.variants.zipIdx.flatMap fun (v, i) =>
    (if ∃ earlier ∈ c.variants.take i, earlier.name = v.name then
      [.duplicateVariant c.name v.name]
    else []) ++ v.duplicates c.name

/-- The event is about the name of a variant. -/
def Event.isDuplicateVariant : Event → Bool
  | .duplicateVariant .. => true
  | _ => false

/-! ## 2. Walks that keep the names they have seen -/

section Walks

variable {α : Type} (name : α → String) (again inner : α → List Event)

/-- The reports of a walk, where `seen` are the names before: `again` of an element whose name was
seen, and then `inner` of every element. -/
def againEach (seen : List String) : List α → List Event
  | [] => []
  | x :: xs =>
    (if name x ∈ seen then again x else []) ++ inner x ++ againEach (name x :: seen) xs

/-- **A walk reports by places**: a name was seen if it is among those from before, or if an earlier
element has it. -/
theorem againEach_eq (seen : List String) (xs : List α) :
    againEach name again inner seen xs = xs.zipIdx.flatMap fun (x, i) =>
      (if name x ∈ seen ∨ ∃ earlier ∈ xs.take i, name earlier = name x then again x else [])
        ++ inner x := by
  induction xs generalizing seen with
  | nil => rfl
  | cons x xs ih =>
    -- from the second place on, the first element is one of the earlier ones
    have hmem : ∀ y i, (name y ∈ name x :: seen ∨ ∃ earlier ∈ xs.take i, name earlier = name y) ↔
        (name y ∈ seen ∨ ∃ earlier ∈ (x :: xs).take (i + 1), name earlier = name y) := by
      intro y i
      rw [List.take_succ_cons, List.exists_mem_cons_iff, List.mem_cons, eq_comm]
      tauto
    rw [againEach, ih, List.zipIdx_cons, List.flatMap_cons, Nat.zero_add, List.zipIdx_succ,
      List.flatMap_map]
    simp only [hmem, List.take_zero, List.not_mem_nil, false_and, exists_false, or_false]

/-- **The names that a walk reports and the distinct ones are all names**, those seen before left
aside. `p` tells the reports on names from what lies inside. -/
theorem countP_againEach {p : Event → Bool} (hagain : ∀ x, (again x).countP p = 1)
    (hinner : ∀ x, (inner x).countP p = 0) (seen : List String) (xs : List α) :
    (againEach name again inner seen xs).countP p + ((xs.map name).toFinset ∪ seen.toFinset).card
      = xs.length + seen.toFinset.card := by
  induction xs generalizing seen with
  | nil => simp [againEach]
  | cons x xs ih =>
    have hstep := ih (name x :: seen)
    have hunion : ((x :: xs).map name).toFinset ∪ seen.toFinset
        = (xs.map name).toFinset ∪ (name x :: seen).toFinset := by
      ext n
      simp only [List.map_cons, List.toFinset_cons, Finset.mem_union, Finset.mem_insert]
      tauto
    rw [againEach, List.countP_append, List.countP_append, hinner, hunion, List.length_cons]
    split
    · rename_i hseen
      rw [List.toFinset_cons, Finset.insert_eq_of_mem (List.mem_toFinset.mpr hseen)] at hstep ⊢
      rw [hagain]
      omega
    · rename_i hnew
      rw [List.toFinset_cons,
        Finset.card_insert_of_notMem fun h => hnew (List.mem_toFinset.mp h)] at hstep
      rw [List.countP_nil, List.toFinset_cons]
      omega

end Walks

/-! ## 3. The warnings of a category -/

namespace Category

theorem fieldWarnings_eq_againEach (category variant : String) (seen : List String)
    (fields : List Field) :
    fieldWarnings category variant seen fields = againEach Field.name
      (fun f => [.duplicateField category variant f.name]) (fun _ => []) seen fields := by
  induction fields generalizing seen with
  | nil => rfl
  | cons f fs ih => rw [fieldWarnings, againEach, ih, List.append_nil]

theorem variantWarnings_eq_againEach (category : String) (seen : List String)
    (variants : List Variant) :
    variantWarnings category seen variants = againEach Variant.name
      (fun v => [.duplicateVariant category v.name])
      (fun v => fieldWarnings category v.name [] v.fields) seen variants := by
  induction variants generalizing seen with
  | nil => rfl
  | cons v vs ih => rw [variantWarnings, againEach, ih]

theorem fieldWarnings_eq (category : String) (v : Variant) :
    fieldWarnings category v.name [] v.fields = v.duplicates category := by
  rw [fieldWarnings_eq_againEach, againEach_eq]
  simp only [List.not_mem_nil, false_or, List.append_nil]
  rfl

/-- **The warnings of a category are those by places.** -/
theorem warnings_eq (c : Category) : c.warnings = c.duplicates := by
  unfold warnings
  rw [variantWarnings_eq_againEach, againEach_eq]
  simp only [List.not_mem_nil, false_or, fieldWarnings_eq]
  rfl

/-- All that a variant's fields are warned about is about them. -/
theorem exists_of_mem_duplicates {category : String} {v : Variant} {e : Event}
    (h : e ∈ v.duplicates category) :
    ∃ f ∈ v.fields, e = .duplicateField category v.name f.name := by
  obtain ⟨place, hplace, he⟩ := List.mem_flatMap.mp h
  dsimp only at he
  split at he
  · exact ⟨place.1, List.fst_mem_of_mem_zipIdx hplace, List.mem_singleton.mp he⟩
  · exact absurd he List.not_mem_nil

/-- The fields that are warned about and the distinct names are all fields. -/
theorem length_duplicates (category : String) (v : Variant) :
    (v.duplicates category).length + (v.fields.map (·.name)).toFinset.card = v.fields.length := by
  have hcount := countP_againEach (p := fun _ => true) Field.name
    (fun f => [.duplicateField category v.name f.name]) (fun _ => []) (fun _ => rfl) (fun _ => rfl)
    [] v.fields
  rw [← fieldWarnings_eq, fieldWarnings_eq_againEach]
  simpa only [List.countP_true, List.toFinset_nil, Finset.union_empty, Finset.card_empty,
    Nat.add_zero] using hcount

/-- The variants that are warned about and the distinct names are all variants. -/
theorem countP_duplicates (c : Category) :
    c.duplicates.countP (·.isDuplicateVariant) + (c.variants.map (·.name)).toFinset.card
      = c.variants.length := by
  have hinner : ∀ v : Variant,
      (fieldWarnings c.name v.name [] v.fields).countP (·.isDuplicateVariant) = 0 := by
    intro v
    rw [fieldWarnings_eq, List.countP_eq_zero]
    intro e he
    obtain ⟨f, -, rfl⟩ := exists_of_mem_duplicates he
    exact Bool.false_ne_true
  have hcount := countP_againEach (p := Event.isDuplicateVariant) Variant.name
    (fun v => [.duplicateVariant c.name v.name]) _ (fun _ => rfl) hinner [] c.variants
  rw [← warnings_eq, warnings, variantWarnings_eq_againEach]
  simpa only [List.toFinset_nil, Finset.union_empty, Finset.card_empty, Nat.add_zero] using hcount

/-- Lines are reported without a warning. -/
theorem filter_warn_report (variants : List Variant) :
    (variants.map (·.report)).filter (·.level = .warn) = [] := by
  rw [List.filter_eq_nil_iff]
  intro e he
  obtain ⟨v, -, rfl⟩ := List.mem_map.mp he
  exact fun h => nomatch of_decide_eq_true h

/-- **A category is warned about the names that occur again, and about nothing else.** When it is
read, every line is the written form of its variant, in their order, and the events are one report a
line and then the warnings by places. So the variants that are warned about and their distinct names
are as many as there are variants, and it is the same with the fields of each variant. -/
theorem read_duplicates {name : String} {lines : List String} {c : Category}
    (h : (read name lines).result = .ok c) :
    (c.name = name ∧
      List.Forall₂ (fun line v => v.WellFormed ∧ ∃ l : Layout, line = v.write l) lines c.variants) ∧
    (read name lines).events = c.variants.map (·.report) ++ c.duplicates ∧
    (read name lines).events.filter (·.level = .warn) = c.duplicates ∧
    c.duplicates.countP (·.isDuplicateVariant) + (c.variants.map (·.name)).toFinset.card
      = c.variants.length ∧
    ∀ v ∈ c.variants, (v.duplicates c.name).length + (v.fields.map (·.name)).toFinset.card
      = v.fields.length := by
  obtain ⟨-, hname, hlines⟩ := read_eq_ok_iff.mp h
  have hevents : (read name lines).events = c.variants.map (·.report) ++ c.duplicates := by
    rw [read_events_of_ok h, readLines_events_of_sound hlines, warnings_eq]
  have hwarn : c.duplicates.filter (·.level = .warn) = c.duplicates := by
    rw [List.filter_eq_self]
    intro e he
    rw [← warnings_eq] at he
    exact decide_eq_true (level_of_mem_warnings he)
  refine ⟨⟨hname, hlines.imp fun line v hv => parse_sound hv⟩, hevents, ?_, countP_duplicates c,
    fun v _ => length_duplicates c.name v⟩
  rw [hevents, List.filter_append, filter_warn_report, hwarn, List.nil_append]

/-- A variant that comes three times, the second time with a field name that comes three times, and
the third time with one that only another variant has. -/
theorem read_duplicates_pair :
    ∃ c, (read "D" ["Pair : A a, B b", "Pair : A x, A x, B x", "Pair : B b"]).result = .ok c ∧
      (read "D" ["Pair : A a, B b", "Pair : A x, A x, B x", "Pair : B b"]).events.filter
          (·.level = .warn)
        = [.duplicateVariant "D" "Pair", .duplicateField "D" "Pair" "x",
          .duplicateField "D" "Pair" "x", .duplicateVariant "D" "Pair"] ∧
      (c.variants.map (·.name)).toFinset.card = 1 := by
  obtain ⟨c, hread, hc⟩ : ∃ c : Category,
      (read "D" ["Pair : A a, B b", "Pair : A x, A x, B x", "Pair : B b"]).result = .ok c ∧
      c = ⟨"D", [⟨"Pair", [⟨"A", "a"⟩, ⟨"B", "b"⟩]⟩,
        ⟨"Pair", [⟨"A", "x"⟩, ⟨"A", "x"⟩, ⟨"B", "x"⟩]⟩, ⟨"Pair", [⟨"B", "b"⟩]⟩]⟩ :=
    ⟨_, rfl, rfl⟩
  obtain ⟨-, -, hwarnings, hcount, -⟩ := read_duplicates hread
  have hduplicates : c.duplicates = [.duplicateVariant "D" "Pair", .duplicateField "D" "Pair" "x",
      .duplicateField "D" "Pair" "x", .duplicateVariant "D" "Pair"] := by
    rw [hc]
    decide +kernel
  refine ⟨c, hread, hwarnings.trans hduplicates, ?_⟩
  have htwo : c.duplicates.countP (·.isDuplicateVariant) = 2 := by
    rw [hduplicates]
    rfl
  have hthree : c.variants.length = 3 := by
    rw [hc]
    rfl
  omega

end Category

end VisitorNodes
