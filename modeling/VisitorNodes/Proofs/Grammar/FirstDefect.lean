import VisitorNodes.Grammar.Source
import VisitorNodes.Proofs.Grammar.LineShape
/-!
# The first defect of a line

Several things may be wrong with a line at once. `Defect.Applies` says of each defect by itself when
a line has it, and `Defect.rank` which of them goes first. Reading reports exactly the one that
applies with the least rank (`readLine_eq_error_iff`): a line is refused if anything applies to it,
and what is wrong further behind never hides what is wrong before.

Entries are judged one by one, and the leftmost that describes no field decides. It is read between
its commas and then trimmed, although the whole list was trimmed before it was taken apart.
-/

namespace VisitorNodes.Grammar

open Text

/-! ## 1. What is wrong with a line -/

/-- A type, one space and a name, with any padding around them. -/
def DescribesField (entry : List Char) : Prop :=
  ∃ f : Field, (IsWord [] f.type ∧ IsWord [] f.name) ∧ ∃ u u' : Padding, entry = f.write u u'

/-- What is wrong with an entry that describes no field, given without its padding. -/
inductive EntryDefect : List Char → Defect → Prop where
  | empty : EntryDefect [] .emptyEntry
  | lone {e : List Char} (hne : e ≠ []) (hspace : ' ' ∉ e) :
      EntryDefect e (.loneEntry (.ofList e))
  /-- There is a space, and a second one or a blank of another kind beside it. -/
  | crowded {e : List Char} (hspace : ' ' ∈ e)
      (hmore : 2 ≤ e.count ' ' ∨ ∃ c ∈ e, isBlank c = true ∧ c ≠ ' ') :
      EntryDefect e (.crowdedEntry (.ofList e))

/-- The text before the first colon of a line, and the text behind it. -/
structure Halves (line : String) (before after : List Char) : Prop where
  line_eq : line.toList = before ++ ':' :: after
  first : ':' ∉ before

namespace Defect

/-- **What is wrong with a line**, each defect by itself. Of the entries, the leftmost one that
describes no field counts. -/
inductive Applies (line : String) : Defect → Prop where
  | missingColon (h : ':' ∉ line.toList) : Applies line .missingColon
  | extraColon (h : 2 ≤ line.toList.count ':') : Applies line .extraColon
  | emptyName {before after : List Char} (hcut : Halves line before after) (h : Blank before) :
      Applies line .emptyName
  | spacedName {before after : List Char} (hcut : Halves line before after)
      (h : ∃ c ∈ trim before, isBlank c = true) :
      Applies line (.spacedName (.ofList (trim before)))
  | entry {before after : List Char} (hcut : Halves line before after) (hfilled : ¬ Blank after)
      {described rest : List (List Char)} {entry : List Char}
      (hsplit : after.splitOn ',' = described ++ entry :: rest)
      (hdescribed : ∀ e ∈ described, DescribesField e) (hbad : ¬ DescribesField entry)
      {d : Defect} (h : EntryDefect (trim entry) d) : Applies line d

/-- The place of a defect in the order in which defects are looked for. Those of the entries share
one. -/
def rank : Defect → Nat
  | .missingColon => 0
  | .extraColon => 1
  | .emptyName => 2
  | .spacedName _ => 3
  | .emptyEntry | .loneEntry _ | .crowdedEntry _ => 4

end Defect

/-! ## 2. Entries -/

theorem describesField_iff {entry : List Char} :
    DescribesField entry ↔ ∃ f, Field.parse entry = .ok f :=
  exists_congr fun _ => fieldParse_eq_ok_iff.symm

theorem EntryDefect.rank_eq {e : List Char} {d : Defect} (h : EntryDefect e d) : d.rank = 4 := by
  cases h <;> rfl

/-- At most one thing is wrong with an entry. -/
theorem EntryDefect.unique {e : List Char} {d d' : Defect} (h : EntryDefect e d)
    (h' : EntryDefect e d') : d = d' := by
  cases h with
  | empty =>
    cases h' with
    | empty => rfl
    | lone hne => exact absurd rfl hne
    | crowded hspace => exact absurd hspace List.not_mem_nil
  | lone hne hnone =>
    cases h' with
    | empty => exact absurd rfl hne
    | lone => rfl
    | crowded hspace => exact absurd hspace hnone
  | crowded hspace =>
    cases h' with
    | empty => exact absurd hspace List.not_mem_nil
    | lone _ hnone => exact absurd hspace hnone
    | crowded => rfl

/-- A trimmed text around its first space is no field exactly if there is more white space in it. An
empty name cannot be what is wrong: the text would end with the space. -/
theorem crowded_iff {type name : List Char} (ht : Tight (type ++ ' ' :: name)) (hs : ' ' ∉ type) :
    (type.any isBlank || name.isEmpty || name.any isBlank) = true ↔
      2 ≤ (type ++ ' ' :: name).count ' ' ∨
        ∃ c ∈ type ++ ' ' :: name, isBlank c = true ∧ c ≠ ' ' := by
  have hcount : (type ++ ' ' :: name).count ' ' = name.count ' ' + 1 := by
    rw [List.count_append, List.count_eq_zero_of_not_mem hs, List.count_cons_self, Nat.zero_add]
  have hname : name.isEmpty = false := by
    rw [List.isEmpty_eq_false_iff]
    rintro rfl
    have hlast := ht.last ' ' List.getLast?_concat
    cases hlast
  rw [hname, Bool.or_false, Bool.or_eq_true, List.any_eq_true, List.any_eq_true, hcount]
  constructor
  · rintro (⟨c, hc, hb⟩ | ⟨c, hc, hb⟩)
    · exact .inr ⟨c, List.mem_append_left _ hc, hb, fun e => hs (e ▸ hc)⟩
    · by_cases hspace : c = ' '
      · subst hspace
        exact .inl (Nat.succ_le_succ (List.count_pos_iff.mpr hc))
      · exact .inr ⟨c, List.mem_append_right _ (List.mem_cons_of_mem _ hc), hb, hspace⟩
  · rintro (hmany | ⟨c, hc, hb, hspace⟩)
    · exact .inr ⟨' ', List.count_pos_iff.mp (by omega), rfl⟩
    · rcases List.mem_append.mp hc with hc | hc
      · exact .inl ⟨c, hc, hb⟩
      · exact .inr ⟨c, (List.mem_cons.mp hc).resolve_left hspace, hb⟩

/-- **An entry is refused for what is wrong with it** once it is trimmed. -/
theorem fieldParse_eq_error_iff {entry : List Char} {d : Defect} :
    Field.parse entry = .error d ↔ EntryDefect (trim entry) d := by
  have ht := tight_trim entry
  unfold Field.parse
  dsimp only
  generalize trim entry = e at ht
  by_cases hne : e = []
  · subst hne
    rw [if_pos rfl]
    exact ⟨fun h => by cases h; exact .empty, fun h => by rw [EntryDefect.empty.unique h]⟩
  rw [if_neg hne]
  cases hcut : cut ' ' e with
  | none =>
    have hlone := EntryDefect.lone hne (cut_eq_none_iff.mp hcut)
    exact ⟨fun h => by cases h; exact hlone, fun h => by rw [hlone.unique h]⟩
  | some halves =>
    obtain ⟨type, name⟩ := halves
    obtain ⟨he, hs⟩ := cut_eq_some_iff.mp hcut
    have hspace : ' ' ∈ e := he ▸ List.mem_append_right _ List.mem_cons_self
    have hmore := crowded_iff (he ▸ ht) hs
    rw [← he] at hmore
    dsimp only
    split
    · rename_i hbad
      have hcrowded := EntryDefect.crowded hspace (hmore.mp hbad)
      exact ⟨fun h => by cases h; exact hcrowded, fun h => by rw [hcrowded.unique h]⟩
    · rename_i hgood
      refine ⟨fun h => (nomatch h), fun h => ?_⟩
      cases h with
      | empty => exact absurd rfl hne
      | lone _ hnone => exact absurd hspace hnone
      | crowded _ h => exact absurd (hmore.mpr h) hgood

/-- **The leftmost entry that describes no field decides.** -/
theorem parseAll_eq_error_iff {entries : List (List Char)} {d : Defect} :
    Field.parseAll entries = .error d ↔ ∃ described entry rest,
      entries = described ++ entry :: rest ∧ (∀ e ∈ described, DescribesField e) ∧
        Field.parse entry = .error d := by
  induction entries with
  | nil =>
    constructor
    · intro h
      cases h
    · rintro ⟨described, entry, rest, h, -⟩
      exact absurd h (List.append_ne_nil_of_right_ne_nil _ (List.cons_ne_nil _ _)).symm
  | cons first entries ih =>
    unfold Field.parseAll
    cases hfirst : Field.parse first with
    | error d' =>
      dsimp only
      constructor
      · intro h
        cases h
        exact ⟨[], first, entries, rfl, fun _ he => absurd he List.not_mem_nil, hfirst⟩
      · rintro ⟨described, entry, rest, h, hdescribed, hentry⟩
        cases described with
        | nil =>
          obtain ⟨rfl, -⟩ := List.cons.inj h
          cases hfirst.symm.trans hentry
          rfl
        | cons e described =>
          obtain ⟨rfl, -⟩ := List.cons.inj h
          obtain ⟨f, hf⟩ := describesField_iff.mp (hdescribed first List.mem_cons_self)
          cases hfirst.symm.trans hf
    | ok f =>
      have hmap : (Field.parseAll entries).map (f :: ·) = .error d ↔
          Field.parseAll entries = .error d := by
        cases Field.parseAll entries with
        | error d' => constructor <;> (intro h; cases h; rfl)
        | ok fs => constructor <;> (intro h; cases h)
      refine hmap.trans (ih.trans ?_)
      constructor
      · rintro ⟨described, entry, rest, rfl, hdescribed, hentry⟩
        have hall := List.forall_mem_cons.mpr ⟨describesField_iff.mpr ⟨f, hfirst⟩, hdescribed⟩
        exact ⟨first :: described, entry, rest, rfl, hall, hentry⟩
      · rintro ⟨described, entry, rest, h, hdescribed, hentry⟩
        cases described with
        | nil =>
          obtain ⟨rfl, -⟩ := List.cons.inj h
          cases hfirst.symm.trans hentry
        | cons e described =>
          obtain ⟨-, hrest⟩ := List.cons.inj h
          exact ⟨described, entry, rest, hrest, (List.forall_mem_cons.mp hdescribed).2, hentry⟩

/-! ## 3. The name and the list -/

theorem parseName_eq_error_iff {part : List Char} {d : Defect} :
    Variant.parseName part = .error d ↔
      (Blank part ∧ d = .emptyName) ∨
        ((∃ c ∈ trim part, isBlank c = true) ∧ d = .spacedName (.ofList (trim part))) := by
  unfold Variant.parseName
  dsimp only
  rw [← trim_eq_nil_iff, ← List.any_eq_true]
  by_cases hnil : trim part = []
  · rw [if_pos hnil, hnil]
    simp [eq_comm]
  · rw [if_neg hnil]
    by_cases hblank : (trim part).any isBlank = true
    · rw [if_pos hblank]
      simp [hnil, hblank, eq_comm]
    · rw [if_neg hblank]
      simp [hnil, hblank]

theorem parseList_eq_error_iff {list : List Char} {d : Defect} :
    Field.parseList list = .error d ↔ ¬ Blank list ∧ ∃ described entry rest,
      list.splitOn ',' = described ++ entry :: rest ∧ (∀ e ∈ described, DescribesField e) ∧
        Field.parse entry = .error d := by
  by_cases hblank : Blank list
  · rw [parseList_of_blank hblank]
    exact ⟨fun h => (nomatch h), fun h => absurd hblank h.1⟩
  · rw [parseList_of_not_blank hblank, parseAll_eq_error_iff, and_iff_right hblank]

/-! ## 4. The line -/

section Line

variable {line : String} {before after : List Char} {d e : Defect}

/-- The first colon takes a line apart in one way only. -/
theorem Halves.unique {before' after' : List Char} (h : Halves line before after)
    (h' : Halves line before' after') : before = before' ∧ after = after' := by
  have hboth := (cut_eq_some_iff.mpr ⟨h.line_eq, h.first⟩).symm.trans
    (cut_eq_some_iff.mpr ⟨h'.line_eq, h'.first⟩)
  exact Prod.mk.inj (Option.some.inj hboth)

theorem Halves.colon_mem (h : Halves line before after) : ':' ∈ line.toList :=
  h.line_eq ▸ List.mem_append_right _ List.mem_cons_self

/-- There is a second colon exactly if there is one behind the first. -/
theorem Halves.two_le_count_iff (h : Halves line before after) :
    2 ≤ line.toList.count ':' ↔ ':' ∈ after := by
  rw [h.line_eq, List.count_append, List.count_eq_zero_of_not_mem h.first, List.count_cons_self,
    ← List.count_pos_iff]
  omega

/-- **With a colon in it, a line has what is wrong** with its colons, with the part before the first
one, and with the part behind it. -/
theorem Halves.applies_iff (h : Halves line before after) :
    d.Applies line ↔ (':' ∈ after ∧ d = .extraColon) ∨ Variant.parseName before = .error d ∨
      Field.parseList after = .error d := by
  rw [parseName_eq_error_iff, parseList_eq_error_iff]
  constructor
  · intro happlies
    cases happlies with
    | missingColon hnone => exact absurd h.colon_mem hnone
    | extraColon hcount => exact .inl ⟨h.two_le_count_iff.mp hcount, rfl⟩
    | emptyName hcut hblank =>
      obtain ⟨rfl, rfl⟩ := hcut.unique h
      exact .inr (.inl (.inl ⟨hblank, rfl⟩))
    | spacedName hcut hspaced =>
      obtain ⟨rfl, rfl⟩ := hcut.unique h
      exact .inr (.inl (.inr ⟨hspaced, rfl⟩))
    | entry hcut hfilled hsplit hdescribed hbad hentry =>
      obtain ⟨rfl, rfl⟩ := hcut.unique h
      have hparse := fieldParse_eq_error_iff.mpr hentry
      exact .inr (.inr ⟨hfilled, _, _, _, hsplit, hdescribed, hparse⟩)
  · rintro (⟨hcolon, rfl⟩ | (⟨hblank, rfl⟩ | ⟨hspaced, rfl⟩) |
      ⟨hfilled, described, entry, rest, hsplit, hdescribed, hentry⟩)
    · exact .extraColon (h.two_le_count_iff.mpr hcolon)
    · exact .emptyName h hblank
    · exact .spacedName h hspaced
    · have hbad : ¬ DescribesField entry := by
        rw [describesField_iff, hentry]
        rintro ⟨f, hf⟩
        cases hf
      exact .entry h hfilled hsplit hdescribed hbad (fieldParse_eq_error_iff.mp hentry)

theorem rank_of_parseName (h : Variant.parseName before = .error d) : d.rank = 2 ∨ d.rank = 3 := by
  rcases parseName_eq_error_iff.mp h with ⟨-, rfl⟩ | ⟨-, rfl⟩
  · exact .inl rfl
  · exact .inr rfl

theorem rank_of_parseList (h : Field.parseList after = .error d) : d.rank = 4 := by
  obtain ⟨-, _, _, _, -, -, hentry⟩ := parseList_eq_error_iff.mp h
  exact (fieldParse_eq_error_iff.mp hentry).rank_eq

/-- A line that is read has nothing wrong with it. -/
theorem not_applies_of_parse_eq_ok {v : Variant} (h : Variant.parse line = .ok v) :
    ¬ d.Applies line := by
  obtain ⟨before, after, ⟨hline, hbefore⟩, hcolon, hname, hlist⟩ := parse_eq_ok_parts.mp h
  rw [Halves.applies_iff ⟨hline, hbefore⟩, hname, hlist]
  rintro (⟨hmem, -⟩ | hd | hd)
  · exact hcolon hmem
  · cases hd
  · cases hd

/-- The parts of a line are looked at in turn, and the first that is refused is reported. -/
theorem parse_eq_error_parts (h : Variant.parse line = .error e) :
    (':' ∉ line.toList ∧ e = .missingColon) ∨ ∃ before after, Halves line before after ∧
      ((':' ∈ after ∧ e = .extraColon) ∨ ':' ∉ after ∧
        (Variant.parseName before = .error e ∨ ∃ name, Variant.parseName before = .ok name ∧
          Field.parseList after = .error e)) := by
  unfold Variant.parse at h
  cases hcut : cut ':' line.toList with
  | none =>
    rw [hcut] at h
    cases h
    exact .inl ⟨cut_eq_none_iff.mp hcut, rfl⟩
  | some halves =>
    obtain ⟨before, after⟩ := halves
    obtain ⟨hline, hbefore⟩ := cut_eq_some_iff.mp hcut
    refine .inr ⟨before, after, ⟨hline, hbefore⟩, ?_⟩
    rw [hcut] at h
    dsimp only at h
    by_cases hcolon : ':' ∈ after
    · rw [if_pos hcolon] at h
      cases h
      exact .inl ⟨hcolon, rfl⟩
    rw [if_neg hcolon] at h
    refine .inr ⟨hcolon, ?_⟩
    cases hname : Variant.parseName before with
    | error d' =>
      rw [hname] at h
      cases h
      exact .inl rfl
    | ok name =>
      rw [hname] at h
      cases hlist : Field.parseList after with
      | ok fields =>
        rw [hlist] at h
        cases h
      | error d' =>
        rw [hlist] at h
        cases h
        exact .inr ⟨name, rfl, rfl⟩

/-- Without a colon, nothing else is said of a line. -/
theorem applies_of_missingColon (hnone : ':' ∉ line.toList) (h : d.Applies line) :
    d = .missingColon := by
  cases h with
  | missingColon => rfl
  | extraColon hcount => exact absurd (List.count_pos_iff.mp (by omega)) hnone
  | emptyName hhalves => exact absurd hhalves.colon_mem hnone
  | spacedName hhalves => exact absurd hhalves.colon_mem hnone
  | entry hhalves => exact absurd hhalves.colon_mem hnone

/-- **A line that is refused has the reported defect**, and every other defect of it is looked for
later. -/
theorem applies_of_parse_eq_error (h : Variant.parse line = .error e) :
    e.Applies line ∧ ∀ d : Defect, d.Applies line → d = e ∨ e.rank < d.rank := by
  rcases parse_eq_error_parts h with ⟨hnone, rfl⟩ | ⟨before, after, hhalves, hparts⟩
  · exact ⟨.missingColon hnone, fun d hd => .inl (applies_of_missingColon hnone hd)⟩
  simp only [hhalves.applies_iff]
  rcases hparts with ⟨hcolon, rfl⟩ | ⟨hcolon, hname | ⟨name, hname, hlist⟩⟩
  · refine ⟨.inl ⟨hcolon, rfl⟩, ?_⟩
    rintro d (⟨-, rfl⟩ | hd | hd)
    · exact .inl rfl
    · right
      rcases rank_of_parseName hd with hrank | hrank <;> rw [hrank] <;> decide
    · right
      rw [rank_of_parseList hd]
      decide
  · refine ⟨.inr (.inl hname), ?_⟩
    rintro d (⟨hmem, -⟩ | hd | hd)
    · exact absurd hmem hcolon
    · exact .inl (Except.error.inj (hd.symm.trans hname))
    · have hrank := rank_of_parseName hname
      rw [rank_of_parseList hd]
      omega
  · refine ⟨.inr (.inr hlist), ?_⟩
    rintro d (⟨hmem, -⟩ | hd | hd)
    · exact absurd hmem hcolon
    · cases hname.symm.trans hd
    · exact .inl (Except.error.inj (hd.symm.trans hlist))

/-- Reading refuses a line for the defect that applies to it and comes first. -/
theorem parse_eq_error_iff : Variant.parse line = .error d ↔
    d.Applies line ∧ ∀ d' : Defect, d'.Applies line → d.rank ≤ d'.rank := by
  cases h : Variant.parse line with
  | ok v => exact ⟨fun he => (nomatch he), fun he => absurd he.1 (not_applies_of_parse_eq_ok h)⟩
  | error e =>
    obtain ⟨happlies, hleast⟩ := applies_of_parse_eq_error h
    constructor
    · intro he
      cases he
      refine ⟨happlies, fun d' hd' => ?_⟩
      rcases hleast d' hd' with rfl | hrank
      · exact Nat.le_refl _
      · exact Nat.le_of_lt hrank
    · rintro ⟨hd, hfirst⟩
      rcases hleast d hd with rfl | hrank
      · rfl
      · exact absurd (hfirst e happlies) (Nat.not_le_of_lt hrank)

end Line

/-- **A line alone is refused exactly if something is wrong with it, and the first of what is wrong
is reported**, with the line as it stands and the number 1. First come the colons, then the name,
then the entries from left to right, so a defect further behind never hides one before it. -/
theorem readLine_eq_error_iff (line : String) :
    ((∃ m, (readLine 1 line).result = .error m) ↔ ∃ d : Defect, d.Applies line) ∧
    ∀ m : MalformedLine, (readLine 1 line).result = .error m ↔
      m.number = 1 ∧ m.line = line ∧ m.defect.Applies line ∧
        ∀ d : Defect, d.Applies line → m.defect.rank ≤ d.rank := by
  have hread : ∀ m : MalformedLine, (readLine 1 line).result = .error m ↔
      m.number = 1 ∧ m.line = line ∧ Variant.parse line = .error m.defect := by
    intro m
    unfold readLine
    cases Variant.parse line with
    | ok v => exact ⟨fun h => (nomatch h), fun h => (nomatch h.2.2)⟩
    | error d =>
      constructor
      · intro h
        cases h
        exact ⟨rfl, rfl, rfl⟩
      · rintro ⟨hnumber, hline, hdefect⟩
        cases m
        cases hdefect
        rw [← hline, ← hnumber]
        rfl
  refine ⟨⟨?_, ?_⟩, fun m => by rw [hread, parse_eq_error_iff]⟩
  · rintro ⟨m, hm⟩
    exact ⟨m.defect, (parse_eq_error_iff.mp ((hread m).mp hm).2.2).1⟩
  · rintro ⟨d, hd⟩
    cases h : Variant.parse line with
    | ok v => exact absurd hd (not_applies_of_parse_eq_ok h)
    | error e => exact ⟨⟨1, line, e⟩, (hread _).mpr ⟨rfl, rfl, h⟩⟩

/-- An entry without a name stands before one with too much. -/
example : (readLine 1 "A : T, U  u").result = .error ⟨1, "A : T, U  u", .loneEntry "T"⟩ := by rfl

end VisitorNodes.Grammar
