import VisitorNodes.Text.Blank
import Mathlib.Data.List.Basic
import Mathlib.Data.List.TakeWhile
/-!
# What trimming leaves

Everything about `trim` follows from `trim_eq_iff`: the trimmed text is the one text with no blank
at either end (`Tight`) that gives the whole back when it is padded with blanks (`Blank`). A text
without any blank is `Solid`.
-/

namespace VisitorNodes.Text

/-! ## 1. Blank, solid and tight texts -/

/-- A text of blanks only. -/
def Blank (cs : List Char) : Prop := ∀ c ∈ cs, isBlank c = true

/-- A text without blanks. -/
def Solid (cs : List Char) : Prop := ∀ c ∈ cs, isBlank c = false

-- Characters are finitely many, so an instance that is searched for may go through all of them.
instance : DecidablePred Blank := fun cs => List.decidableBAll (isBlank · = true) cs

instance : DecidablePred Solid := fun cs => List.decidableBAll (isBlank · = false) cs

/-- A text that neither begins nor ends with a blank. -/
structure Tight (cs : List Char) : Prop where
  first : ∀ c, cs.head? = some c → isBlank c = false
  last : ∀ c, cs.getLast? = some c → isBlank c = false

@[simp] theorem blank_nil : Blank [] := fun _ h => absurd h List.not_mem_nil

@[simp] theorem solid_nil : Solid [] := fun _ h => absurd h List.not_mem_nil

@[simp] theorem blank_append {cs ds : List Char} : Blank (cs ++ ds) ↔ Blank cs ∧ Blank ds := by
  simp only [Blank, List.mem_append, or_imp, forall_and]

@[simp] theorem solid_append {cs ds : List Char} : Solid (cs ++ ds) ↔ Solid cs ∧ Solid ds := by
  simp only [Solid, List.mem_append, or_imp, forall_and]

@[simp] theorem solid_cons {c : Char} {cs : List Char} :
    Solid (c :: cs) ↔ isBlank c = false ∧ Solid cs := by
  simp only [Solid, List.mem_cons, forall_eq_or_imp]

theorem any_isBlank_eq_false {cs : List Char} : cs.any isBlank = false ↔ Solid cs := by
  simp only [List.any_eq_false, Bool.not_eq_true, Solid]

/-- A character that is not blank does not occur in padding. -/
theorem Blank.not_mem {cs : List Char} (h : Blank cs) {c : Char} (hc : isBlank c = false) :
    c ∉ cs := fun hm => by
  rw [h c hm] at hc
  cases hc

/-- A blank does not occur in a solid text. -/
theorem Solid.not_mem {cs : List Char} (h : Solid cs) {c : Char} (hc : isBlank c = true) :
    c ∉ cs := fun hm => by
  rw [h c hm] at hc
  cases hc

theorem Solid.tight {cs : List Char} (h : Solid cs) : Tight cs where
  first c hc := h c (List.mem_of_head? hc)
  last c hc := h c (List.mem_of_getLast? hc)

/-- A text is tight when its two end pieces are and hold something. -/
theorem Tight.append {cs ds es : List Char} (hc : Tight cs) (he : Tight es) (hcs : cs ≠ [])
    (hes : es ≠ []) : Tight (cs ++ ds ++ es) where
  first c h := by
    rw [List.append_assoc, List.head?_append_of_ne_nil _ hcs] at h
    exact hc.first c h
  last c h := by
    rw [List.getLast?_append_of_ne_nil _ hes] at h
    exact he.last c h

/-! ## 2. Trimming at one end -/

theorem trimStart_append {u : List Char} (h : Blank u) (cs : List Char) :
    trimStart (u ++ cs) = trimStart cs :=
  List.dropWhile_append_of_pos h

theorem trimEnd_append {u : List Char} (h : Blank u) (cs : List Char) :
    trimEnd (cs ++ u) = trimEnd cs := by
  have hu : Blank u.reverse := fun c hc => h c (List.mem_reverse.mp hc)
  unfold trimEnd
  rw [List.reverse_append, List.dropWhile_append_of_pos hu]

/-- A text that does not begin with a blank stays. -/
theorem trimStart_eq_self {cs : List Char} (h : ∀ c, cs.head? = some c → isBlank c = false) :
    trimStart cs = cs := by
  cases cs with
  | nil => rfl
  | cons c cs => exact List.dropWhile_cons_of_neg (by rw [h c rfl]; exact Bool.false_ne_true)

/-- A text that does not end with a blank stays. -/
theorem trimEnd_eq_self {cs : List Char} (h : ∀ c, cs.getLast? = some c → isBlank c = false) :
    trimEnd cs = cs := by
  have hr : trimStart cs.reverse = cs.reverse :=
    trimStart_eq_self fun c hc => h c (by rw [List.head?_reverse] at hc; exact hc)
  show (trimStart cs.reverse).reverse = cs
  rw [hr, List.reverse_reverse]

theorem blank_takeWhile (cs : List Char) : Blank (cs.takeWhile isBlank) :=
  fun _ h => List.mem_takeWhile_imp h

theorem exists_trimStart (cs : List Char) : ∃ u, Blank u ∧ cs = u ++ trimStart cs :=
  ⟨cs.takeWhile isBlank, blank_takeWhile cs, List.takeWhile_append_dropWhile.symm⟩

theorem exists_trimEnd (cs : List Char) : ∃ u, Blank u ∧ cs = trimEnd cs ++ u := by
  obtain ⟨u, hu, h⟩ := exists_trimStart cs.reverse
  refine ⟨u.reverse, fun c hc => hu c (List.mem_reverse.mp hc), ?_⟩
  have e := congrArg List.reverse h
  rw [List.reverse_reverse, List.reverse_append] at e
  exact e

theorem head?_trimStart (cs : List Char) (c : Char) (h : (trimStart cs).head? = some c) :
    isBlank c = false := by
  have hd := List.head?_dropWhile_not isBlank cs
  unfold trimStart at h
  rw [h] at hd
  simpa using hd

theorem getLast?_trimEnd (cs : List Char) (c : Char) (h : (trimEnd cs).getLast? = some c) :
    isBlank c = false := by
  unfold trimEnd at h
  rw [List.getLast?_reverse] at h
  exact head?_trimStart cs.reverse c h

/-! ## 3. Trimming at both ends -/

/-- What trimming leaves begins and ends with no blank. -/
theorem tight_trim (cs : List Char) : Tight (trim cs) where
  first c h := by
    -- the end that was dropped is not the beginning, unless nothing is left
    obtain ⟨u, _, hu⟩ := exists_trimEnd (trimStart cs)
    refine head?_trimStart cs c ?_
    rw [hu]
    exact List.head?_append.trans (by rw [show trimEnd (trimStart cs) = trim cs from rfl, h]; rfl)
  last c h := getLast?_trimEnd _ c h

/-- A text is its trimmed form with padding at both ends. -/
theorem exists_trim (cs : List Char) :
    ∃ u u', Blank u ∧ Blank u' ∧ cs = u ++ trim cs ++ u' := by
  obtain ⟨u, hu, h⟩ := exists_trimStart cs
  obtain ⟨u', hu', h'⟩ := exists_trimEnd (trimStart cs)
  refine ⟨u, u', hu, hu', ?_⟩
  rw [List.append_assoc]
  show cs = u ++ (trimEnd (trimStart cs) ++ u')
  rw [← h', ← h]

/-- Padding does not matter. -/
theorem trim_pad {u u' : List Char} (hu : Blank u) (hu' : Blank u') (cs : List Char) :
    trim (u ++ cs ++ u') = trim cs := by
  unfold trim
  rw [List.append_assoc, trimStart_append hu]
  obtain ⟨w, hw, h⟩ := exists_trimStart cs
  cases hs : trimStart cs with
  | nil =>
    have hb : Blank (cs ++ u') := by
      rw [h, hs, List.append_nil]
      exact blank_append.mpr ⟨hw, hu'⟩
    have e : trimStart (cs ++ u') = [] := List.dropWhile_eq_nil_iff.mpr hb
    rw [e]
  | cons c rest =>
    have hc : isBlank c = false := head?_trimStart cs c (by rw [hs]; rfl)
    have e : cs ++ u' = w ++ (c :: rest ++ u') := by rw [h, hs, List.append_assoc]
    rw [e, trimStart_append hw, trimStart_eq_self fun d hd => by cases hd; exact hc,
      trimEnd_append hu']

theorem trim_prepend {u : List Char} (hu : Blank u) (cs : List Char) :
    trim (u ++ cs) = trim cs := by
  have h := trim_pad hu blank_nil cs
  rwa [List.append_nil] at h

theorem trim_append {u : List Char} (hu : Blank u) (cs : List Char) : trim (cs ++ u) = trim cs :=
  trim_pad blank_nil hu cs

/-- A tight text is already trimmed. -/
theorem Tight.trim_eq {cs : List Char} (h : Tight cs) : trim cs = cs := by
  unfold trim
  rw [trimStart_eq_self h.first, trimEnd_eq_self h.last]

/-- **The trimmed text is the tight text that gives the whole back when it is padded.** -/
theorem trim_eq_iff {cs t : List Char} :
    trim cs = t ↔ Tight t ∧ ∃ u u', Blank u ∧ Blank u' ∧ cs = u ++ t ++ u' := by
  constructor
  · intro e
    subst e
    exact ⟨tight_trim cs, exists_trim cs⟩
  · intro given
    obtain ⟨ht, u, u', hu, hu', rfl⟩ := given
    rw [trim_pad hu hu', ht.trim_eq]

theorem trim_eq_nil_iff {cs : List Char} : trim cs = [] ↔ Blank cs := by
  constructor
  · intro h
    obtain ⟨u, u', hu, hu', e⟩ := exists_trim cs
    rw [e, h, List.append_nil]
    exact blank_append.mpr ⟨hu, hu'⟩
  · intro h
    have e := trim_prepend h []
    rwa [List.append_nil] at e

end VisitorNodes.Text
