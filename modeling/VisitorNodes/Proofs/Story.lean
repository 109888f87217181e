import VisitorNodes.Proofs.NameClash
import VisitorNodes.Proofs.Outcome
/-!
# What an emission reports

The events of an emission tell what happened in it (`Story`): each line that was read, up to the
first malformed one; behind all lines the names that occur again; and at last that the text is
complete. So an emission that was refused has reported nothing but the lines before, and one that
gave a text says so exactly once, at its end (`emit_story`).
-/

namespace VisitorNodes

open Grammar

/-- The report on a line that was read as the variant. -/
def Grammar.Variant.report (v : Variant) : Event := .parsedVariant v.name v.fields.length

/-- **The ways in which an emission can go**, with its result and its events in order. -/
inductive Story (printer : Printer) (category : String) (lines : List String) :
    Except Rejection String → List Event → Prop where
  | unnamed (h : Category.Unnamed category) :
      Story printer category lines (.error (.invalidName category)) []
  | malformed {i : Nat} {line : String} {d : Defect} {variants : List Variant}
      (h : ¬ Category.Unnamed category) (hf : FirstMalformed lines i line d)
      (hv : List.Forall₂ Reads (lines.take i) variants) :
      Story printer category lines (.error (.malformed category ⟨i + 1, line, d⟩))
        (variants.map (·.report))
  | printed {variants : List Variant} {text : String} (h : ¬ Category.Unnamed category)
      (hv : List.Forall₂ Reads lines variants)
      (ht : text = printer.print (Module.ofVariants category variants) "") :
      Story printer category lines (.ok text)
        (variants.map (·.report) ++ Category.warnings ⟨category, variants⟩
          ++ [.emittedModule category lines.length text.utf8ByteSize])

/-! ## 1. Events of the reading -/

namespace Grammar

/-- **Each sound line is reported**, and what comes behind sound lines is reported behind them. -/
theorem readLinesFrom_events_append {sound : List String} {variants : List Variant}
    (h : List.Forall₂ Reads sound variants) (n : Nat) (lines : List String) :
    (readLinesFrom n (sound ++ lines)).events
      = variants.map (·.report) ++ (readLinesFrom (n + sound.length) lines).events := by
  induction h generalizing n with
  | nil => rfl
  | @cons line v sound variants hline _ ih =>
    have hnext : n + 1 + sound.length = n + (line :: sound).length := by
      rw [List.length_cons]
      omega
    have hparse : Variant.parse line = .ok v := hline
    simp only [List.cons_append, readLinesFrom, readLine, hparse, Traced.andThen_events,
      Traced.silent_events, List.append_nil, ih, hnext, List.map_cons, List.nil_append]
    rfl

theorem readLines_events_of_sound {lines : List String} {variants : List Variant}
    (h : List.Forall₂ Reads lines variants) :
    (readLines lines).events = variants.map (·.report) := by
  have hall := readLinesFrom_events_append h 1 []
  rwa [List.append_nil, readLinesFrom, Traced.silent_events, List.append_nil] at hall

/-- Nothing is reported from the first malformed line on. -/
theorem readLines_events_of_malformed {lines : List String} {i : Nat} {line : String} {d : Defect}
    {variants : List Variant} (hf : FirstMalformed lines i line d)
    (h : List.Forall₂ Reads (lines.take i) variants) :
    (readLines lines).events = variants.map (·.report) := by
  obtain ⟨hi, hline⟩ := List.getElem?_eq_some_iff.mp hf.found
  have hsplit : lines.take i ++ line :: lines.drop (i + 1) = lines := by
    rw [← hline, List.getElem_cons_drop, List.take_append_drop]
  rw [← hsplit]
  unfold readLines
  rw [readLinesFrom_events_append h, readLinesFrom_cons_malformed hf.defect, Traced.silent_events,
    List.append_nil]

/-- Sound lines have variants. -/
theorem exists_forall₂_reads {lines : List String} (h : ∀ line ∈ lines, IsSound line) :
    ∃ variants, List.Forall₂ Reads lines variants := by
  induction lines with
  | nil => exact ⟨[], .nil⟩
  | cons line lines ih =>
    obtain ⟨v, hv⟩ := h line List.mem_cons_self
    obtain ⟨variants, hvariants⟩ := ih fun l hl => h l (List.mem_cons_of_mem _ hl)
    exact ⟨v :: variants, .cons hv hvariants⟩

theorem FirstMalformed.exists_before {lines : List String} {i : Nat} {line : String} {d : Defect}
    (h : FirstMalformed lines i line d) :
    ∃ variants, List.Forall₂ Reads (lines.take i) variants := by
  refine exists_forall₂_reads fun earlier hearlier => ?_
  obtain ⟨j, hj⟩ := List.mem_iff_getElem?.mp hearlier
  rw [List.getElem?_take] at hj
  split at hj
  · rename_i hlt
    exact h.least j hlt earlier hj
  · cases hj

end Grammar

/-- A category with a malformed line is rejected with the events of its lines. -/
theorem Category.read_of_malformed {name : String} (h : ¬ Unnamed name) {lines : List String}
    {m : MalformedLine} (hlines : (readLines lines).result = .error m) :
    read name lines = ⟨.error (.malformed name m), (readLines lines).events⟩ := by
  have hn : isName name = true := by
    rw [← Bool.not_eq_false, isName_eq_false_iff]
    exact h
  unfold read Traced.andThen
  rw [if_pos hn, hlines]
  simp only [Traced.silent, List.append_nil]

/-! ## 2. Events of the emission -/

section Emission

variable {printer : Printer} {category : String} {lines : List String}

/-- Each story is that of an emission. -/
theorem Story.emit_eq {r : Except Rejection String} {events : List Event}
    (h : Story printer category lines r events) : emit printer category lines = ⟨r, events⟩ := by
  cases h with
  | unnamed h =>
    unfold emit
    rw [Category.read_of_unnamed h]
    rfl
  | @malformed i line d variants h hf hv =>
    have hresult : (readLines lines).result = .error ⟨i + 1, line, d⟩ :=
      readLinesFrom_eq_error_iff.mpr ⟨i, line, d, hf, by rw [Nat.add_comm]⟩
    unfold emit
    rw [Category.read_of_malformed h hresult, readLines_events_of_malformed hf hv]
    simp only [Traced.andThen, Traced.silent_result, Traced.silent_events, List.append_nil]
  | @printed variants text h hv ht =>
    have hresult : (Category.read category lines).result = .ok ⟨category, variants⟩ :=
      Category.read_eq_ok_iff.mpr ⟨h, rfl, hv⟩
    have hevents := Category.read_events_of_ok hresult
    have hlength : (Module.ofVariants category variants).nodes.length = lines.length := by
      rw [Module.ofVariants, List.length_map, hv.length_eq]
    rw [readLines_events_of_sound hv] at hevents
    rw [ht, ← hlength]
    unfold emit Traced.andThen
    rw [hevents, hresult]
    rfl

/-- Every emission has a story. -/
theorem story_emit (printer : Printer) (category : String) (lines : List String) :
    Story printer category lines (emit printer category lines).result
      (emit printer category lines).events := by
  have houtcome := outcome_emit printer category lines
  suffices hstory : ∀ r, Outcome printer category lines r → ∃ events,
      Story printer category lines r events by
    obtain ⟨events, hstory⟩ := hstory _ houtcome
    rw [hstory.emit_eq]
    exact hstory
  intro r houtcome
  cases houtcome with
  | unnamed h => exact ⟨_, .unnamed h⟩
  | malformed h hf =>
    obtain ⟨variants, hv⟩ := hf.exists_before
    exact ⟨_, .malformed h hf hv⟩
  | printed h hv => exact ⟨_, .printed h hv rfl⟩

theorem emit_eq_iff {r : Except Rejection String} {events : List Event} :
    emit printer category lines = ⟨r, events⟩ ↔ Story printer category lines r events := by
  refine ⟨fun h => ?_, Story.emit_eq⟩
  have hstory := story_emit printer category lines
  rwa [h] at hstory

end Emission

/-! ## 3. What the events tell -/

/-- The event says that the text of a module is complete. -/
def Event.IsEmitted (e : Event) : Prop :=
  ∃ category variants bytes, e = .emittedModule category variants bytes

theorem Grammar.Variant.report_isEmitted (v : Variant) : ¬ v.report.IsEmitted :=
  fun ⟨_, _, _, h⟩ => nomatch h

namespace Story

variable {printer : Printer} {category : String} {lines : List String} {events : List Event}

/-- Without a text, only lines are reported. -/
theorem of_error {r : Rejection} (h : Story printer category lines (.error r) events) :
    ∃ variants : List Variant, events = variants.map (·.report) := by
  cases h with
  | unnamed => exact ⟨[], rfl⟩
  | malformed => exact ⟨_, rfl⟩

/-- With a text, its completion is reported last, behind lines and warnings. -/
theorem of_ok {text : String} (h : Story printer category lines (.ok text) events) :
    ∃ before, events = before ++ [.emittedModule category lines.length text.utf8ByteSize] ∧
      ∀ e ∈ before, ¬ e.IsEmitted ∧ (e.level = .debug ∨ e.level = .warn) := by
  cases h with
  | @printed variants _ _ hv ht =>
    refine ⟨_, rfl, fun e he => ?_⟩
    rcases List.mem_append.mp he with he | he
    · obtain ⟨v, -, rfl⟩ := List.mem_map.mp he
      exact ⟨v.report_isEmitted, .inl rfl⟩
    · have hlevel := Category.level_of_mem_warnings he
      refine ⟨fun given => ?_, .inr hlevel⟩
      obtain ⟨_, _, _, rfl⟩ := given
      cases hlevel

end Story

/-- **The events of an emission are its story.** Its result and its events are those of the one story
whose conditions hold. An event says that the text is complete if and only if there is a text; it is
the last one then and the only one of its kind, and it counts the lines and the bytes of the text.
Every event is for debugging, or it is a warning and there is a text. -/
theorem emit_story (printer : Printer) (category : String) :
    (∀ lines r events, emit printer category lines = ⟨r, events⟩ ↔
      Story printer category lines r events) ∧
    (∀ lines, (∃ e ∈ (emit printer category lines).events, e.IsEmitted) ↔
      ∃ text, (emit printer category lines).result = .ok text) ∧
    (∀ lines text, (emit printer category lines).result = .ok text →
      ∃ before, (emit printer category lines).events
          = before ++ [.emittedModule category lines.length text.utf8ByteSize] ∧
        ∀ e ∈ before, ¬ e.IsEmitted) ∧
    (∀ lines, ∀ e ∈ (emit printer category lines).events, e.level = .debug ∨
      e.level = .warn ∧ ∃ text, (emit printer category lines).result = .ok text) := by
  refine ⟨fun lines r events => emit_eq_iff, fun lines => ?present, fun lines text htext => ?last,
    fun lines => ?levels⟩
  all_goals
    have hstory := story_emit printer category lines
    generalize (emit printer category lines).result = result at *
    generalize (emit printer category lines).events = events at *
  case present =>
    cases result with
    | error r =>
      obtain ⟨variants, rfl⟩ := hstory.of_error
      refine iff_of_false (fun given => ?_) fun ⟨_, h⟩ => nomatch h
      obtain ⟨e, he, hemitted⟩ := given
      obtain ⟨v, -, rfl⟩ := List.mem_map.mp he
      exact v.report_isEmitted hemitted
    | ok text =>
      obtain ⟨before, rfl, -⟩ := hstory.of_ok
      exact iff_of_true ⟨_, List.mem_append_right _ (List.mem_singleton_self _), _, _, _, rfl⟩
        ⟨text, rfl⟩
  case last =>
    subst htext
    obtain ⟨before, hevents, hbefore⟩ := hstory.of_ok
    exact ⟨before, hevents, fun e he => (hbefore e he).1⟩
  case levels =>
    intro e he
    cases result with
    | error r =>
      obtain ⟨variants, rfl⟩ := hstory.of_error
      obtain ⟨v, -, rfl⟩ := List.mem_map.mp he
      exact .inl rfl
    | ok text =>
      obtain ⟨before, rfl, hbefore⟩ := hstory.of_ok
      rcases List.mem_append.mp he with he | he
      · exact (hbefore e he).2.imp_right fun hwarn => ⟨hwarn, text, rfl⟩
      · rw [List.mem_singleton.mp he]
        exact .inl rfl

/-- A variant that comes twice, the second time with two fields of one name. -/
theorem emit_story_duplicates :
    ∃ text before, (emit (.rust {}) "D" ["Pair : A a", "Pair : A x, A x"]).result = .ok text ∧
      (emit (.rust {}) "D" ["Pair : A a", "Pair : A x, A x"]).events
        = before ++ [.emittedModule "D" 2 text.utf8ByteSize] ∧
      before = [.parsedVariant "Pair" 1, .parsedVariant "Pair" 2, .duplicateVariant "D" "Pair",
        .duplicateField "D" "Pair" "x"] := by
  obtain ⟨text, htext⟩ : ∃ text,
      (emit (.rust {}) "D" ["Pair : A a", "Pair : A x, A x"]).result = .ok text :=
    ⟨_, rfl⟩
  obtain ⟨before, hevents, -⟩ := (emit_story (.rust {}) "D").2.2.1 _ text htext
  have hbefore : (emit (.rust {}) "D" ["Pair : A a", "Pair : A x, A x"]).events.dropLast
      = [.parsedVariant "Pair" 1, .parsedVariant "Pair" 2, .duplicateVariant "D" "Pair",
        .duplicateField "D" "Pair" "x"] := by
    decide +kernel
  rw [hevents, List.dropLast_concat] at hbefore
  exact ⟨text, before, htext, hevents, hbefore⟩

end VisitorNodes
