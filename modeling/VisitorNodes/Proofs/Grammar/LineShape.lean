import VisitorNodes.Grammar.Variant
import VisitorNodes.Proofs.Text.Split
import VisitorNodes.Proofs.Text.Trim
import Mathlib.Data.List.Forall2
import Mathlib.Data.List.Indexes
/-!
# The written form of a grammar line

A variant is written as `Name : Type field, Type field, ...` with any padding around its name and
around each entry (`Variant.write`). The words in it must not hold what takes a line apart
(`WellFormed`): blanks, colons, and commas inside an entry.

The joint statement is `parse_eq_ok_iff`: reading accepts exactly what writing produces, so a line
has one reading at most. Below it there is one such statement for each part of a line: the name,
an entry, the entries, the list.
-/

namespace VisitorNodes.Grammar

open Text

/-! ## 1. Words -/

/-- A text that holds something, and neither a blank nor one of the `marks`. -/
structure IsWord (marks : List Char) (w : String) : Prop where
  ne : w.toList ≠ []
  solid : Solid w.toList
  free : ∀ c ∈ marks, c ∉ w.toList

theorem IsWord.mono {marks marks' : List Char} {w : String} (h : IsWord marks w)
    (hs : marks' ⊆ marks) : IsWord marks' w :=
  ⟨h.ne, h.solid, fun c hc => h.free c (hs hc)⟩

/-- One more mark that does not occur in the word. -/
theorem IsWord.with_mark {mark mark' : Char} {w : String} (h : IsWord [mark] w)
    (hm : mark' ∉ w.toList) : IsWord [mark, mark'] w where
  ne := h.ne
  solid := h.solid
  free c hc := by
    rcases List.mem_cons.mp hc with rfl | hc
    · exact h.free c List.mem_cons_self
    · rw [List.mem_singleton.mp hc]
      exact hm

/-- A field whose words fit into an entry of a line. -/
structure Field.WellFormed (f : Field) : Prop where
  type : IsWord [',', ':'] f.type
  name : IsWord [',', ':'] f.name

/-- A variant whose words fit into a line. -/
structure Variant.WellFormed (v : Variant) : Prop where
  name : IsWord [':'] v.name
  fields : ∀ f ∈ v.fields, f.WellFormed

/-! ## 2. Writing -/

/-- A text of blanks. -/
structure Padding where
  text : List Char
  blank : Blank text

/-- The padding of a line: around the name, around the entries by their positions, and in place of
    a list without entries. -/
structure Layout where
  beforeName : Padding
  afterName : Padding
  beforeEntry : Nat → Padding
  afterEntry : Nat → Padding
  emptyList : Padding

/-- The entry of a field. -/
def Field.write (f : Field) (before after : Padding) : List Char :=
  before.text ++ (f.type.toList ++ ' ' :: f.name.toList) ++ after.text

/-- The entries of fields. -/
def Layout.entries (l : Layout) (fields : List Field) : List (List Char) :=
  fields.mapIdx fun k f => f.write (l.beforeEntry k) (l.afterEntry k)

/-- The part of a line behind the colon. -/
def Layout.list (l : Layout) (fields : List Field) : List Char :=
  if fields = [] then l.emptyList.text else [','].intercalate (l.entries fields)

/-- The line of a variant. -/
def Variant.write (v : Variant) (l : Layout) : String :=
  String.ofList
    (l.beforeName.text ++ v.name.toList ++ l.afterName.text ++ ':' :: l.list v.fields)

/-! ## 3. The name -/

/-- The part before the colon is read as the name that it pads. -/
theorem parseName_eq_ok_iff {part : List Char} {name : String} :
    Variant.parseName part = .ok name ↔
      (name.toList ≠ [] ∧ Solid name.toList) ∧
        ∃ u u' : Padding, part = u.text ++ name.toList ++ u'.text := by
  simp only [Variant.parseName]
  constructor
  · intro h
    obtain ⟨u, u', hu, hu', e⟩ := exists_trim part
    split at h
    · cases h
    · rename_i hne
      split at h
      · cases h
      · rename_i hs
        cases h
        rw [String.toList_ofList]
        have hs' : Solid (trim part) := any_isBlank_eq_false.mp (Bool.eq_false_iff.mpr hs)
        exact ⟨⟨hne, hs'⟩, ⟨u, hu⟩, ⟨u', hu'⟩, e⟩
  · intro given
    obtain ⟨⟨hne, hs⟩, u, u', rfl⟩ := given
    have e : trim (u.text ++ name.toList ++ u'.text) = name.toList :=
      trim_eq_iff.mpr ⟨hs.tight, u.text, u'.text, u.blank, u'.blank, rfl⟩
    simp only [e, hne, any_isBlank_eq_false.mpr hs, String.ofList_toList, if_false,
      Bool.false_eq_true]

/-! ## 4. One entry -/

/-- Only the trimmed entry is looked at. -/
theorem fieldParse_congr {entry entry' : List Char} (h : trim entry = trim entry') :
    Field.parse entry = Field.parse entry' := by
  simp only [Field.parse]
  rw [h]

/-- The text between the padding of an entry begins with a type and ends with a name. -/
theorem tight_fieldText {type name : List Char} (ht : type ≠ []) (hts : Solid type)
    (hn : name ≠ []) (hns : Solid name) : Tight (type ++ ' ' :: name) := by
  have e : type ++ ' ' :: name = type ++ [' '] ++ name := by
    rw [List.append_assoc, List.singleton_append]
  rw [e]
  exact hts.tight.append hns.tight ht hn

/-- **An entry is read as the field that it pads**, whatever commas and colons the field holds. -/
theorem fieldParse_eq_ok_iff {entry : List Char} {f : Field} :
    Field.parse entry = .ok f ↔
      (IsWord [] f.type ∧ IsWord [] f.name) ∧ ∃ u u' : Padding, entry = f.write u u' := by
  simp only [Field.parse]
  constructor
  · intro h
    obtain ⟨u, u', hu, hu', e⟩ := exists_trim entry
    have ht := tight_trim entry
    split at h
    · cases h
    · split at h
      · cases h
      · rename_i type name hcut
        obtain ⟨hsplit, _⟩ := cut_eq_some_iff.mp hcut
        split at h
        · cases h
        · rename_i hok
          cases h
          simp only [Bool.or_eq_true, not_or, Bool.not_eq_true, any_isBlank_eq_false] at hok
          obtain ⟨⟨hts, hne⟩, hns⟩ := hok
          -- an empty type would put the separating space at the front of a trimmed entry
          have htype : type ≠ [] := by
            intro e
            subst e
            have hb := ht.first ' ' (by rw [hsplit]; rfl)
            cases hb
          have hname : name ≠ [] := by
            intro e
            subst e
            cases hne
          refine ⟨⟨⟨?_, ?_, fun _ hc => absurd hc List.not_mem_nil⟩,
            ⟨?_, ?_, fun _ hc => absurd hc List.not_mem_nil⟩⟩, ⟨u, hu⟩, ⟨u', hu'⟩, ?_⟩
          · rw [String.toList_ofList]; exact htype
          · rw [String.toList_ofList]; exact hts
          · rw [String.toList_ofList]; exact hname
          · rw [String.toList_ofList]; exact hns
          · unfold Field.write
            rw [String.toList_ofList, String.toList_ofList, ← hsplit]
            exact e
  · intro given
    obtain ⟨⟨ht, hn⟩, u, u', rfl⟩ := given
    have e : trim (f.write u u') = f.type.toList ++ ' ' :: f.name.toList :=
      trim_eq_iff.mpr ⟨tight_fieldText ht.ne ht.solid hn.ne hn.solid, u.text, u'.text, u.blank,
        u'.blank, rfl⟩
    have hcut : cut ' ' (f.type.toList ++ ' ' :: f.name.toList)
        = some (f.type.toList, f.name.toList) :=
      cut_eq_some_iff.mpr ⟨rfl, ht.solid.not_mem rfl⟩
    have hne : f.name.toList.isEmpty = false := List.isEmpty_eq_false_iff.mpr hn.ne
    have hnil : f.type.toList ++ ' ' :: f.name.toList ≠ [] := by simp
    simp only [e, hcut, hnil, any_isBlank_eq_false.mpr ht.solid, any_isBlank_eq_false.mpr hn.solid,
      hne, String.ofList_toList, if_false, Bool.or_self, Bool.false_eq_true]

/-! ## 5. All entries -/

/-- The fields of all entries are found when each entry has one. -/
theorem parseAll_eq_ok_iff {entries : List (List Char)} {fields : List Field} :
    Field.parseAll entries = .ok fields ↔
      List.Forall₂ (fun e f => Field.parse e = .ok f) entries fields := by
  induction entries generalizing fields with
  | nil =>
    rw [List.forall₂_nil_left_iff]
    exact ⟨fun h => by cases h; rfl, fun h => by rw [h]; rfl⟩
  | cons e es ih =>
    rw [List.forall₂_cons_left_iff]
    unfold Field.parseAll
    constructor
    · intro h
      split at h
      · cases h
      · rename_i f hf
        cases hs : Field.parseAll es with
        | error d => rw [hs] at h; cases h
        | ok fs =>
          rw [hs] at h
          cases h
          exact ⟨f, fs, hf, ih.mp hs, rfl⟩
    · intro given
      obtain ⟨f, fs, hf, hfs, rfl⟩ := given
      rw [hf, ih.mpr hfs]
      rfl

/-- Padding before the first entry does not matter. -/
theorem parseAll_prepend {u : List Char} (hu : Blank u) (es : List (List Char)) :
    Field.parseAll (es.modifyHead (u ++ ·)) = Field.parseAll es := by
  cases es with
  | nil => rfl
  | cons e es =>
    simp only [List.modifyHead_cons, Field.parseAll, fieldParse_congr (trim_prepend hu e)]

/-- Padding behind the last entry does not matter. -/
theorem parseAll_append {u : List Char} (hu : Blank u) (es : List (List Char)) (e : List Char) :
    Field.parseAll (es ++ [e ++ u]) = Field.parseAll (es ++ [e]) := by
  induction es with
  | nil => simp only [List.nil_append, Field.parseAll, fieldParse_congr (trim_append hu e)]
  | cons d ds ih => simp only [List.cons_append, Field.parseAll, ih]

/-- **Trimming the list before it is taken apart changes nothing**: the entries are trimmed
    anyway. -/
theorem parseAll_splitOn_trim (list : List Char) :
    Field.parseAll ((trim list).splitOn ',') = Field.parseAll (list.splitOn ',') := by
  obtain ⟨u, u', hu, hu', e⟩ := exists_trim list
  obtain ⟨es, last, h, h'⟩ := splitOn_append (hu'.not_mem (c := ',') rfl) (trim list)
  have hs : list.splitOn ',' = (es ++ [last ++ u']).modifyHead (u ++ ·) := by
    rw [e, List.append_assoc, splitOn_prepend (hu.not_mem (c := ',') rfl), h']
  rw [hs, parseAll_prepend hu, parseAll_append hu', h]

/-- A list that is not blank is read entry by entry. -/
theorem parseList_of_not_blank {list : List Char} (h : ¬ Blank list) :
    Field.parseList list = Field.parseAll (list.splitOn ',') := by
  simp only [Field.parseList]
  rw [if_neg fun e => h (trim_eq_nil_iff.mp e), parseAll_splitOn_trim]

theorem parseList_of_blank {list : List Char} (h : Blank list) : Field.parseList list = .ok [] := by
  simp only [Field.parseList]
  rw [if_pos (trim_eq_nil_iff.mpr h)]

/-! ## 6. The list -/

/-- Fields written with some padding, entry by entry, are written by a choice of padding for every
    position. -/
theorem exists_padding {entries : List (List Char)} {fields : List Field}
    (h : List.Forall₂ (fun e (f : Field) => ∃ u u', e = f.write u u') entries fields) :
    ∃ before after : Nat → Padding,
      entries = fields.mapIdx fun k f => f.write (before k) (after k) := by
  induction h with
  | nil => exact ⟨fun _ => ⟨[], blank_nil⟩, fun _ => ⟨[], blank_nil⟩, rfl⟩
  | cons he _ ih =>
    obtain ⟨u, u', rfl⟩ := he
    obtain ⟨before, after, rfl⟩ := ih
    refine ⟨fun k => Nat.casesOn k u before, fun k => Nat.casesOn k u' after, ?_⟩
    rw [List.mapIdx_cons]
    rfl

/-- The entries of well-formed words are read as what was written. -/
theorem forall₂_write {fields : List Field}
    (h : ∀ f ∈ fields, IsWord [] f.type ∧ IsWord [] f.name) (before after : Nat → Padding) :
    List.Forall₂ (fun e f => Field.parse e = .ok f)
      (fields.mapIdx fun k f => f.write (before k) (after k)) fields := by
  induction fields generalizing before after with
  | nil => exact .nil
  | cons f fs ih =>
    rw [List.mapIdx_cons]
    refine .cons (fieldParse_eq_ok_iff.mpr ⟨h f List.mem_cons_self, _, _, rfl⟩) ?_
    exact ih (fun g hg => h g (List.mem_cons_of_mem _ hg)) (fun k => before (k + 1))
      (fun k => after (k + 1))

/-- A character of an entry is one of its padding, the space, or one of its words. -/
theorem mem_fieldWrite {f : Field} {u u' : Padding} {c : Char} :
    c ∈ f.write u u' ↔
      c ∈ u.text ∨ c ∈ f.type.toList ∨ c = ' ' ∨ c ∈ f.name.toList ∨ c ∈ u'.text := by
  simp only [Field.write, List.mem_append, List.mem_cons]
  tauto

/-- An entry holds a character that is no blank exactly when one of its words does. -/
theorem mem_fieldWrite_of_not_blank {f : Field} {u u' : Padding} {c : Char}
    (hc : isBlank c = false) :
    c ∈ f.write u u' ↔ c ∈ f.type.toList ∨ c ∈ f.name.toList := by
  have hu := u.blank.not_mem hc
  have hu' := u'.blank.not_mem hc
  have hs : c ≠ ' ' := by
    intro e
    subst e
    cases hc
  rw [mem_fieldWrite]
  tauto

/-- The same for all entries of a list, unless it is the comma between them. -/
theorem mem_list_of_not_blank {l : Layout} {fields : List Field} {c : Char}
    (hc : isBlank c = false) (hcomma : c ≠ ',') :
    c ∈ l.list fields ↔ ∃ f ∈ fields, c ∈ f.type.toList ∨ c ∈ f.name.toList := by
  unfold Layout.list
  split
  · rename_i h
    rw [h]
    exact ⟨fun hm => absurd hm (l.emptyList.blank.not_mem hc),
      fun ⟨_, hf, _⟩ => absurd hf List.not_mem_nil⟩
  · constructor
    · intro hm
      rcases mem_of_mem_intercalate hm with ⟨e, he, hm⟩ | hm
      · obtain ⟨k, hk, rfl⟩ := List.mem_mapIdx.mp he
        exact ⟨fields[k], List.getElem_mem hk, (mem_fieldWrite_of_not_blank hc).mp hm⟩
      · exact absurd (List.mem_singleton.mp hm) hcomma
    · intro given
      obtain ⟨f, hf, hm⟩ := given
      obtain ⟨k, hk, rfl⟩ := List.mem_iff_getElem.mp hf
      exact mem_intercalate_of_mem (List.mem_mapIdx.mpr ⟨k, hk, rfl⟩)
        ((mem_fieldWrite_of_not_blank hc).mpr hm)

/-- A list of entries is not blank: every entry begins with a type. -/
theorem not_blank_list {l : Layout} {fields : List Field} (hne : fields ≠ [])
    (h : ∀ f ∈ fields, IsWord [','] f.type) : ¬ Blank (l.list fields) := by
  obtain ⟨f, fs, rfl⟩ := List.exists_cons_of_ne_nil hne
  have hf := h f List.mem_cons_self
  obtain ⟨c, cs, hc⟩ := List.exists_cons_of_ne_nil hf.ne
  have hmem : c ∈ f.type.toList := by rw [hc]; exact List.mem_cons_self
  have hcb := hf.solid c hmem
  have hcomma : c ≠ ',' := by
    intro e
    subst e
    exact hf.free ',' List.mem_cons_self hmem
  intro hb
  exact hb.not_mem hcb ((mem_list_of_not_blank hcb hcomma).mpr ⟨f, List.mem_cons_self, .inl hmem⟩)

/-- **The part behind the colon is read as the fields that it lists.** -/
theorem parseList_eq_ok_iff {list : List Char} {fields : List Field} :
    Field.parseList list = .ok fields ↔
      (∀ f ∈ fields, IsWord [','] f.type ∧ IsWord [','] f.name) ∧
        ∃ l : Layout, list = l.list fields := by
  have noPadding : Padding := ⟨[], blank_nil⟩
  constructor
  · intro h
    by_cases hb : Blank list
    · rw [parseList_of_blank hb] at h
      cases h
      exact ⟨fun _ hf => absurd hf List.not_mem_nil,
        ⟨noPadding, noPadding, fun _ => noPadding, fun _ => noPadding, ⟨list, hb⟩⟩, rfl⟩
    · rw [parseList_of_not_blank hb, parseAll_eq_ok_iff] at h
      obtain ⟨before, after, hentries⟩ := exists_padding
        (h.imp fun _ _ hp => (fieldParse_eq_ok_iff.mp hp).2)
      have hne : fields ≠ [] := by
        intro e
        subst e
        exact List.splitOn_ne_nil ',' list (List.forall₂_nil_right_iff.mp h)
      refine ⟨fun f hf => ?_, ⟨noPadding, noPadding, before, after, noPadding⟩, ?_⟩
      · -- a comma inside a word would be a comma inside a piece between commas
        obtain ⟨k, hk, rfl⟩ := List.mem_iff_getElem.mp hf
        have hk' : k < (list.splitOn ',').length := h.length_eq ▸ hk
        obtain ⟨⟨ht, hn⟩, u, u', e⟩ := fieldParse_eq_ok_iff.mp (h.get hk' hk)
        have hcomma : ',' ∉ (fields.get ⟨k, hk⟩).write u u' := by
          rw [← e]
          exact not_mem_of_mem_splitOn (List.getElem_mem hk')
        rw [mem_fieldWrite_of_not_blank rfl, not_or] at hcomma
        exact ⟨⟨ht.ne, ht.solid, fun c hc => List.mem_singleton.mp hc ▸ hcomma.1⟩,
          ⟨hn.ne, hn.solid, fun c hc => List.mem_singleton.mp hc ▸ hcomma.2⟩⟩
      · unfold Layout.list Layout.entries
        rw [if_neg hne, ← hentries, List.intercalate_splitOn]
  · intro given
    obtain ⟨hw, l, rfl⟩ := given
    by_cases hne : fields = []
    · subst hne
      exact parseList_of_blank l.emptyList.blank
    · rw [parseList_of_not_blank (not_blank_list hne fun f hf => (hw f hf).1), parseAll_eq_ok_iff]
      have hfree : ∀ e ∈ l.entries fields, ',' ∉ e := by
        intro e he
        obtain ⟨k, hk, rfl⟩ := List.mem_mapIdx.mp he
        obtain ⟨ht, hn⟩ := hw _ (List.getElem_mem hk)
        rw [mem_fieldWrite_of_not_blank rfl, not_or]
        exact ⟨ht.free ',' List.mem_cons_self, hn.free ',' List.mem_cons_self⟩
      have hentries : l.entries fields ≠ [] := by
        unfold Layout.entries
        rw [ne_eq, List.mapIdx_eq_nil_iff]
        exact hne
      unfold Layout.list
      rw [if_neg hne, List.splitOn_intercalate ',' hfree hentries]
      have hw' : ∀ f ∈ fields, IsWord [] f.type ∧ IsWord [] f.name := fun f hf =>
        ⟨(hw f hf).1.mono (List.nil_subset _), (hw f hf).2.mono (List.nil_subset _)⟩
      exact forall₂_write hw' l.beforeEntry l.afterEntry

/-! ## 7. The line -/

/-- The parts of a line that is read as a variant. -/
theorem parse_eq_ok_parts {line : String} {v : Variant} :
    Variant.parse line = .ok v ↔ ∃ before after,
      (line.toList = before ++ ':' :: after ∧ ':' ∉ before) ∧ ':' ∉ after ∧
        Variant.parseName before = .ok v.name ∧ Field.parseList after = .ok v.fields := by
  simp only [Variant.parse]
  constructor
  · intro h
    split at h
    · cases h
    · rename_i before after hcut
      split at h
      · cases h
      · rename_i hcolon
        split at h
        · cases h
        · rename_i name hname
          cases hlist : Field.parseList after with
          | error d => rw [hlist] at h; cases h
          | ok fields =>
            rw [hlist] at h
            cases h
            exact ⟨before, after, cut_eq_some_iff.mp hcut, hcolon, hname, hlist⟩
  · intro given
    obtain ⟨before, after, hcut, hcolon, hname, hlist⟩ := given
    rw [cut_eq_some_iff.mpr hcut]
    simp only [if_neg hcolon, hname, hlist]
    rfl

/-- What is read consists of words that fit into a line, and the line is one of its written
    forms. -/
theorem parse_sound {line : String} {v : Variant} (h : Variant.parse line = .ok v) :
    v.WellFormed ∧ ∃ l : Layout, line = v.write l := by
  obtain ⟨before, after, ⟨hline, hbefore⟩, hafter, hname, hlist⟩ := parse_eq_ok_parts.mp h
  obtain ⟨⟨hne, hsolid⟩, u, u', rfl⟩ := parseName_eq_ok_iff.mp hname
  obtain ⟨hwords, l, rfl⟩ := parseList_eq_ok_iff.mp hlist
  rw [mem_list_of_not_blank rfl (by decide)] at hafter
  refine ⟨⟨⟨hne, hsolid, fun c hc hmem => ?_⟩, fun f hf => ⟨?_, ?_⟩⟩,
    { l with beforeName := u, afterName := u' }, ?_⟩
  · rw [List.mem_singleton.mp hc] at hmem
    exact hbefore (List.mem_append_left _ (List.mem_append_right _ hmem))
  · exact (hwords f hf).1.with_mark fun h => hafter ⟨f, hf, .inl h⟩
  · exact (hwords f hf).2.with_mark fun h => hafter ⟨f, hf, .inr h⟩
  · rw [← String.toList_inj, hline]
    exact String.toList_ofList.symm

/-- A variant whose words fit into a line is read back, however it is padded. -/
theorem parse_write {v : Variant} (h : v.WellFormed) (l : Layout) :
    Variant.parse (v.write l) = .ok v := by
  have hname := h.name
  have hfields := h.fields
  refine parse_eq_ok_parts.mpr ⟨l.beforeName.text ++ v.name.toList ++ l.afterName.text,
    l.list v.fields, ⟨String.toList_ofList, ?_⟩, ?_, ?_, ?_⟩
  · simp only [List.mem_append, not_or]
    exact ⟨⟨l.beforeName.blank.not_mem rfl, hname.free ':' List.mem_cons_self⟩,
      l.afterName.blank.not_mem rfl⟩
  · rw [mem_list_of_not_blank rfl (by decide)]
    intro given
    obtain ⟨f, hf, hmem⟩ := given
    exact hmem.elim ((hfields f hf).type.free ':' (by decide))
      ((hfields f hf).name.free ':' (by decide))
  · exact parseName_eq_ok_iff.mpr ⟨⟨hname.ne, hname.solid⟩, _, _, rfl⟩
  · have hsub : [','] ⊆ [',', ':'] := by decide
    exact parseList_eq_ok_iff.mpr
      ⟨fun f hf => ⟨(hfields f hf).type.mono hsub, (hfields f hf).name.mono hsub⟩, l, rfl⟩

/-- **A line is read as a variant exactly when it is one of the variant's written forms**: the
    words fit into a line, and some padding makes the line. -/
theorem parse_eq_ok_iff (line : String) (v : Variant) :
    Variant.parse line = .ok v ↔ v.WellFormed ∧ ∃ l : Layout, line = v.write l := by
  constructor
  · exact parse_sound
  · intro given
    obtain ⟨h, l, rfl⟩ := given
    exact parse_write h l

end VisitorNodes.Grammar
