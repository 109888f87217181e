import VisitorNodes.Emission
import VisitorNodes.Proofs.Reading
/-!
# The outcome of an emission

An emission ends in one of three ways, and the name of the category is looked at before any line
(`Outcome`):

* the name is no name: the lines do not matter;
* a line is malformed: the first such line is reported, with its place and its defect;
* otherwise the module of all variants is printed.

`emit_outcome` says that these are all, and what follows for lines that are added: behind the first
malformed line they change nothing, and sound lines before it only move its number.
-/

namespace VisitorNodes

open Grammar

/-- **The ways in which an emission can end.** -/
inductive Outcome (printer : Printer) (category : String) (lines : List String) :
    Except Rejection String → Prop where
  | unnamed (h : Category.Unnamed category) :
      Outcome printer category lines (.error (.invalidName category))
  | malformed {i : Nat} {line : String} {d : Defect} (h : ¬ Category.Unnamed category)
      (hf : FirstMalformed lines i line d) :
      Outcome printer category lines (.error (.malformed category ⟨i + 1, line, d⟩))
  | printed {variants : List Variant} (h : ¬ Category.Unnamed category)
      (hv : List.Forall₂ Reads lines variants) :
      Outcome printer category lines
        (.ok (printer.print (Module.ofVariants category variants) ""))

section Emission

variable {printer : Printer} {category : String} {lines : List String}

/-- The result of an emission is that of the reading, printed. -/
theorem emit_result_of_read_ok {c : Category} (h : (Category.read category lines).result = .ok c) :
    (emit printer category lines).result = .ok (printer.print c.toModule "") := by
  simp only [emit, Traced.andThen_result, h]

theorem emit_result_of_read_error {r : Rejection}
    (h : (Category.read category lines).result = .error r) :
    (emit printer category lines).result = .error r := by
  simp only [emit, Traced.andThen_result, h, Traced.silent_result]

/-- Each of the ways is taken when its conditions hold. -/
theorem Outcome.emit_result {r : Except Rejection String} (h : Outcome printer category lines r) :
    (emit printer category lines).result = r := by
  cases h with
  | unnamed h =>
    refine emit_result_of_read_error ?_
    rw [Category.read_of_unnamed h]
    rfl
  | @malformed i line d h hf =>
    have hl : (readLinesFrom 1 lines).result = .error ⟨i + 1, line, d⟩ :=
      readLinesFrom_eq_error_iff.mpr ⟨i, line, d, hf, by rw [Nat.add_comm]⟩
    refine emit_result_of_read_error ?_
    rw [Category.read_result_of_named h]
    unfold readLines
    rw [hl]
  | @printed variants h hv =>
    exact emit_result_of_read_ok (c := ⟨category, variants⟩)
      (Category.read_eq_ok_iff.mpr ⟨h, rfl, hv⟩)

/-- One of the ways is always taken. -/
theorem outcome_emit (printer : Printer) (category : String) (lines : List String) :
    Outcome printer category lines (emit printer category lines).result := by
  by_cases h : Category.Unnamed category
  · rw [(Outcome.unnamed h).emit_result]
    exact .unnamed h
  · cases hr : (readLinesFrom 1 lines).result with
    | error m =>
      obtain ⟨i, line, d, hf, rfl⟩ := readLinesFrom_eq_error_iff.mp hr
      rw [(Outcome.malformed h hf).emit_result]
      exact .malformed h hf
    | ok variants =>
      have hv := readLinesFrom_eq_ok_iff.mp hr
      rw [(Outcome.printed h hv).emit_result]
      exact .printed h hv

theorem emit_result_iff {r : Except Rejection String} :
    (emit printer category lines).result = r ↔ Outcome printer category lines r :=
  ⟨fun h => h ▸ outcome_emit printer category lines, Outcome.emit_result⟩

/-- The whole emission, events included, ends with the first malformed line. -/
theorem emit_tail {bad : String} {d : Defect} (h : Variant.parse bad = .error d)
    (before after after' : List String) :
    emit printer category (before ++ bad :: after)
      = emit printer category (before ++ bad :: after') := by
  unfold emit Category.read readLines
  rw [readLinesFrom_tail h 1 before after after']

/-- Sound lines before the others only move the number of the malformed one. -/
theorem emit_prepend {sound : List String} (hs : ∀ l ∈ sound, IsSound l) {m : MalformedLine}
    (h : (emit printer category lines).result = .error (.malformed category m)) :
    (emit printer category (sound ++ lines)).result
      = .error (.malformed category { m with number := m.number + sound.length }) := by
  cases emit_result_iff.mp h with
  | @malformed i line d hn hf =>
    have e : i + sound.length + 1 = i + 1 + sound.length := by omega
    rw [(Outcome.malformed hn (hf.prepend hs)).emit_result, e]

end Emission

/-- **An emission is all or nothing, and its errors have an order.** Its result is the one outcome
    whose conditions hold; the name is refused whatever the lines are; a malformed line is reported
    as it stands; lines behind the first malformed one change nothing at all; and sound lines
    before it only add to its number. -/
theorem emit_outcome (printer : Printer) (category : String) :
    (∀ lines r, (emit printer category lines).result = r ↔ Outcome printer category lines r) ∧
    (∀ lines, (emit printer category lines).result = .error (.invalidName category) ↔
      Category.Unnamed category) ∧
    (∀ lines i line d, ¬ Category.Unnamed category → FirstMalformed lines i line d →
      ∃ r, (emit printer category lines).result = .error r ∧
        r = .malformed category ⟨i + 1, line, d⟩ ∧ r.line? = some line) ∧
    (∀ before bad after after' d, Variant.parse bad = .error d →
      emit printer category (before ++ bad :: after)
        = emit printer category (before ++ bad :: after')) ∧
    (∀ sound lines m, (∀ l ∈ sound, IsSound l) →
      (emit printer category lines).result = .error (.malformed category m) →
      (emit printer category (sound ++ lines)).result
        = .error (.malformed category { m with number := m.number + sound.length })) := by
  refine ⟨fun lines r => emit_result_iff, fun lines => ?_, fun lines i line d h hf => ?_,
    fun before bad after after' d h => emit_tail h before after after',
    fun sound lines m hs h => emit_prepend hs h⟩
  · rw [emit_result_iff]
    exact ⟨fun h => by cases h; assumption, .unnamed⟩
  · exact ⟨_, (Outcome.malformed h hf).emit_result, rfl, rfl⟩

/-- Two lines after a sound one, the first of which is malformed. -/
theorem emit_outcome_spacedName :
    (emit (.rust {}) "Stmt" ["Nil :", "Var Decl : Token name", "?"]).result
        = .error (.malformed "Stmt"
            ⟨2, "Var Decl : Token name", .spacedName "Var Decl"⟩) ∧
      emit (.rust {}) "Stmt" ["Nil :", "Var Decl : Token name", "?"]
        = emit (.rust {}) "Stmt" ["Nil :", "Var Decl : Token name"] := by
  obtain ⟨_, _, hmalformed, htail, hprepend⟩ := emit_outcome (.rust {}) "Stmt"
  have hbad : Variant.parse "Var Decl : Token name" = .error (.spacedName "Var Decl") := by rfl
  have hname : ¬ Category.Unnamed "Stmt" := by
    rw [← Category.isName_eq_false_iff]
    decide
  have hfirst : FirstMalformed ["Var Decl : Token name", "?"] 0 "Var Decl : Token name"
      (.spacedName "Var Decl") := firstMalformed_cons.mpr (.inl ⟨rfl, rfl, hbad⟩)
  obtain ⟨r, hr, rfl, _⟩ := hmalformed _ _ _ _ hname hfirst
  have hsound : ∀ l ∈ ["Nil :"], IsSound l := by
    intro l hl
    rw [List.mem_singleton.mp hl]
    exact ⟨⟨"Nil", []⟩, rfl⟩
  exact ⟨hprepend ["Nil :"] _ _ hsound hr, htail ["Nil :"] _ ["?"] [] _ hbad⟩

end VisitorNodes
