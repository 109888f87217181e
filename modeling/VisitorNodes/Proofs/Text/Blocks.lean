import VisitorNodes.Proofs.Text.LineText
/-!
# Declarations, and calls inside blocks

A printed text declares methods and calls them. Its calls stand in blocks, one per type. This file
reads both off the lines of a text: the declarations (`declared`), and the calls, each with the head
of the block that it stands in (`called`). The block of a line is open from its head to the first
line that closes it. Both readings are decided part by part (`read_flatMap`), and move with an
indented text.
-/

namespace VisitorNodes.Text

/-- **Parts that are read one by one are read one after the other.** -/
theorem read_flatMap {α β γ : Type} {read : List β → List γ} {f : α → List β} {g : α → γ}
    {xs : List α} (h : ∀ x ∈ xs, ∀ rest, read (f x ++ rest) = g x :: read rest) (rest : List β) :
    read (xs.flatMap f ++ rest) = xs.map g ++ read rest := by
  induction xs with
  | nil => rfl
  | cons x xs ih =>
    rw [List.forall_mem_cons] at h
    rw [List.flatMap_cons, List.append_assoc, h.1, ih h.2, List.map_cons, List.cons_append]

theorem read_flatMap_of_nil {α β γ : Type} {read : List β → List γ} {f : α → List β} {g : α → γ}
    {xs : List α} (h : ∀ x ∈ xs, ∀ rest, read (f x ++ rest) = g x :: read rest)
    (hnil : read [] = []) : read (xs.flatMap f) = xs.map g := by
  have hflat := read_flatMap h []
  rwa [hnil, List.append_nil, List.append_nil] at hflat

/-- How the lines begin that declare, that open a block, that close one, and that call. -/
structure BlockMarks where
  declares : String
  opens : String
  closes : String
  calls : String
  deriving Repr, DecidableEq

namespace BlockMarks

/-! ## 1. The readings -/

/-- The lines that declare. -/
def declared (b : BlockMarks) (lines : List String) : List String :=
  lines.filter (starts b.declares)

/-- The lines that call, each with the head of the block that is open there; `block` is the one
    that is open at first. -/
def called (b : BlockMarks) (block : Option String) : List String → List (Option String × String)
  | [] => []
  | line :: lines =>
    if starts b.calls line then (block, line) :: b.called block lines
    else if starts b.opens line then b.called (some line) lines
    else if starts b.closes line then b.called none lines
    else b.called block lines

example : BlockMarks.called ⟨"fn ", "impl ", "\x7d", " v."⟩ none
    ["impl A", " v.a", "\x7d", " v.b", "impl B", " v.c"]
      = [(some "impl A", " v.a"), (none, " v.b"), (some "impl B", " v.c")] := by decide

/-- Every line that calls is read, whatever block it stands in. -/
theorem map_snd_called (b : BlockMarks) (block : Option String) (lines : List String) :
    (b.called block lines).map Prod.snd = lines.filter (starts b.calls) := by
  induction lines generalizing block with
  | nil => rfl
  | cons line lines ih =>
    unfold called
    rw [List.filter_cons]
    split
    · rw [List.map_cons, ih]
    · split
      · exact ih _
      · split
        · exact ih _
        · exact ih _

variable {b : BlockMarks}

/-! ## 2. Lines that are passed over -/

/-- How no line begins that is passed over where no block is open. -/
def outer (b : BlockMarks) : List String := [b.declares, b.calls, b.opens]

/-- How no line begins that is passed over in a block. -/
def inner (b : BlockMarks) : List String := [b.declares, b.calls, b.opens, b.closes]

theorem outer_of_inner {line : String} (h : Avoids b.inner line) : Avoids b.outer line :=
  h.mono (List.subset_append_left [b.declares, b.calls, b.opens] [b.closes])

theorem uncalled_of_outer {line : String} (h : Avoids b.outer line) :
    Avoids [b.calls, b.opens] line := h.mono (List.subset_cons_self _ _)

theorem undeclared_of_inner {line : String} (h : Avoids b.inner line) :
    starts b.declares line = false := h b.declares List.mem_cons_self

theorem declared_append (front rest : List String) :
    b.declared (front ++ rest) = b.declared front ++ b.declared rest := List.filter_append ..

theorem declared_eq_nil {ls : List String} (h : ∀ l ∈ ls, starts b.declares l = false) :
    b.declared ls = [] := by
  unfold declared
  rw [List.filter_eq_nil_iff]
  intro l hl
  rw [h l hl]
  exact Bool.false_ne_true

theorem declared_outer {ls : List String} (h : ∀ l ∈ ls, Avoids b.outer l) : b.declared ls = [] :=
  declared_eq_nil fun l hl => h l hl b.declares List.mem_cons_self

theorem declared_map {α : Type} {f : α → String} {xs : List α}
    (h : ∀ x ∈ xs, starts b.declares (f x) = true) : b.declared (xs.map f) = xs.map f :=
  List.filter_eq_self.mpr (List.forall_mem_map.mpr h)

theorem declared_flatMap {α : Type} {f : α → List String} {xs : List α}
    (h : ∀ x ∈ xs, b.declared (f x) = []) : b.declared (xs.flatMap f) = [] := by
  unfold declared
  rw [List.filter_flatMap, List.flatMap_eq_nil_iff]
  exact h

/-- In a block, other lines change nothing. -/
theorem called_inner {block : Option String} {ls : List String} (h : ∀ l ∈ ls, Avoids b.inner l)
    (rest : List String) : b.called block (ls ++ rest) = b.called block rest := by
  induction ls with
  | nil => rfl
  | cons l ls ih =>
    have hl := h l List.mem_cons_self
    simp only [inner, Avoids, List.forall_mem_cons] at hl
    obtain ⟨_, hs, ho, hc, _⟩ := hl
    rw [List.cons_append, called, hs, ho, hc]
    exact ih fun k hk => h k (List.mem_cons_of_mem _ hk)

/-- The same at the end of a text, whatever block is open there. -/
theorem called_append_inner {ls : List String} (h : ∀ l ∈ ls, Avoids b.inner l)
    (block : Option String) (front : List String) :
    b.called block (front ++ ls) = b.called block front := by
  induction front generalizing block with
  | nil =>
    have hnone : b.called block (ls ++ []) = b.called block [] := called_inner h []
    rwa [List.append_nil] at hnone
  | cons line front ih => simp only [List.cons_append, called, ih]

/-- Where no block is open, lines that close one may stand too, and lines that declare. -/
theorem called_outer {ls : List String} (h : ∀ l ∈ ls, Avoids [b.calls, b.opens] l)
    (rest : List String) : b.called none (ls ++ rest) = b.called none rest := by
  induction ls with
  | nil => rfl
  | cons l ls ih =>
    have hl := h l List.mem_cons_self
    simp only [Avoids, List.forall_mem_cons] at hl
    obtain ⟨hs, ho, _⟩ := hl
    rw [List.cons_append, called, hs, ho]
    simp only [Bool.false_eq_true, if_false, ite_self]
    exact ih fun k hk => h k (List.mem_cons_of_mem _ hk)

/-! ## 3. Blocks -/

/-- A line that only opens a block. -/
structure Head (b : BlockMarks) (line : String) : Prop where
  opens : starts b.opens line = true
  other : Avoids [b.declares, b.calls] line

/-- A line that only calls. -/
structure Call (b : BlockMarks) (line : String) : Prop where
  calls : starts b.calls line = true
  declares : starts b.declares line = false

/-- A line that only closes a block. -/
structure Foot (b : BlockMarks) (line : String) : Prop where
  closes : starts b.closes line = true
  other : Avoids b.outer line

theorem called_head {head : String} (h : b.Head head) (block : Option String)
    (rest : List String) : b.called block (head :: rest) = b.called (some head) rest := by
  have hs : starts b.calls head = false := h.other _ (List.mem_cons_of_mem _ List.mem_cons_self)
  rw [called, hs, h.opens]
  rfl

theorem called_foot {foot : String} (h : b.Foot foot) (block : Option String)
    (rest : List String) : b.called block (foot :: rest) = b.called none rest := by
  have hother := h.other
  simp only [outer, Avoids, List.forall_mem_cons] at hother
  obtain ⟨_, hs, ho, _⟩ := hother
  rw [called, hs, ho, h.closes]
  rfl

/-- A block, from its head to its foot, with the calls in it. -/
def block (head : String) (body : List String) (foot : String) : List String :=
  head :: (body ++ [foot])

/-- A block without a call is passed over. -/
theorem called_block {head foot : String} {body : List String} (hh : b.Head head)
    (hb : ∀ l ∈ body, Avoids b.inner l) (hf : b.Foot foot) (rest : List String) :
    b.called none (block head body foot ++ rest) = b.called none rest := by
  unfold block
  rw [List.cons_append, List.append_assoc, called_head hh, called_inner hb, List.singleton_append,
    called_foot hf]

/-- **A block with one call has that call read under its head.** -/
theorem called_block_call {head call foot : String} {before after : List String} (hh : b.Head head)
    (hb : ∀ l ∈ before, Avoids b.inner l) (hc : b.Call call)
    (ha : ∀ l ∈ after, Avoids b.inner l) (hf : b.Foot foot) (rest : List String) :
    b.called none (block head (before ++ call :: after) foot ++ rest)
      = (some head, call) :: b.called none rest := by
  unfold block
  rw [List.cons_append, List.append_assoc, List.append_assoc, called_head hh, called_inner hb,
    List.cons_append, called, if_pos hc.calls, called_inner ha, List.singleton_append,
    called_foot hf]

/-- **Parts with one call each have their calls read one after the other.** -/
theorem called_flatMap {α : Type} {f : α → List String} {g : α → Option String × String}
    {xs : List α}
    (h : ∀ x ∈ xs, ∀ rest, b.called none (f x ++ rest) = g x :: b.called none rest) :
    b.called none (xs.flatMap f) = xs.map g := read_flatMap_of_nil h rfl

/-- A block declares nothing. -/
theorem declared_block {head foot : String} {body : List String} (hh : b.Head head)
    (hb : ∀ l ∈ body, starts b.declares l = false) (hf : b.Foot foot) :
    b.declared (block head body foot) = [] := by
  refine declared_eq_nil ?_
  unfold block
  rw [List.forall_mem_cons, List.forall_mem_append, List.forall_mem_singleton]
  exact ⟨hh.other _ List.mem_cons_self, hb, hf.other _ List.mem_cons_self⟩

/-! ## 4. Indented texts -/

/-- The marks of a text that is moved by one step. -/
def indent (b : BlockMarks) : BlockMarks :=
  ⟨"    " ++ b.declares, "    " ++ b.opens, "    " ++ b.closes, "    " ++ b.calls⟩

/-- Marks that no empty line carries. -/
structure Proper (b : BlockMarks) : Prop where
  declares : b.declares ≠ ""
  opens : b.opens ≠ ""
  closes : b.closes ≠ ""
  calls : b.calls ≠ ""

/-- In an indented text the same lines call in the same blocks. -/
theorem called_indent (hb : b.Proper) (block : Option String) (lines : List String) :
    b.indent.called (block.map (indentLine 1)) (lines.map (indentLine 1))
      = (b.called block lines).map (Prod.map (Option.map (indentLine 1)) (indentLine 1)) := by
  induction lines generalizing block with
  | nil => rfl
  | cons line lines ih =>
    rw [List.map_cons]
    simp only [called, indent, starts_indentLine hb.opens, starts_indentLine hb.closes,
      starts_indentLine hb.calls]
    split
    · rw [List.map_cons, ← ih]
      rfl
    · split
      · exact ih (some line)
      · split
        · exact ih none
        · exact ih block

/-- In an indented text the same lines declare. -/
theorem declared_indent (hb : b.Proper) (lines : List String) :
    b.indent.declared (lines.map (indentLine 1)) = (b.declared lines).map (indentLine 1) := by
  unfold declared indent
  rw [List.filter_map]
  congr 1
  exact List.filter_congr fun line _ => starts_indentLine hb.declares line

end BlockMarks

end VisitorNodes.Text
