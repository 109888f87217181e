import VisitorNodes.Proofs.Text.Blocks
/-!
# Reading parts of a text back

What a printed text says is read off its lines in two steps. A block is a line that opens it and the
lines behind that up to the next one that closes it (`blocks`). Off a line, one reads what stands
between a fixed front and a fixed back (`between`), and of that the tokens between its spaces
(`tokens`) or the entries of a list (`entries`).

Each of these readings is fixed by what it gives back of a text that was put together so:
`read_flatMap` and `blocks_block`, `between_eq_some_iff`, `tokens_append`, `entries_intercalate`.
-/

namespace VisitorNodes.Text

/-! ## 1. How a line begins and ends -/

/-- Whether `line` ends with `tail`. -/
def ends (tail line : String) : Bool := tail.toList.isSuffixOf line.toList

theorem ends_iff {tail line : String} : ends tail line = true ↔ tail.toList <:+ line.toList :=
  List.isSuffixOf_iff_suffix

theorem ends_append_self (rest tail : String) : ends tail (rest ++ tail) = true := by
  rw [ends_iff, String.toList_append]
  exact List.suffix_append _ _

/-- A fixed text at the end of a line rules out every ending apart from it. -/
theorem ends_append {tail back : String} (h : ends tail back = false ∧ ends back tail = false)
    (rest : String) : ends tail (rest ++ back) = false := by
  obtain ⟨ht, hb⟩ := h
  rw [← Bool.not_eq_true, ends_iff] at ht hb ⊢
  intro hs
  rw [String.toList_append] at hs
  rcases List.suffix_or_suffix_of_suffix hs (List.suffix_append _ _) with h | h
  · exact ht h
  · exact hb h

/-- A word at the end of a line is determined by the line. -/
theorem append_word_inj {word word' rest rest' : String} (h : Solid word.toList)
    (h' : Solid word'.toList) (e : rest ++ " " ++ word = rest' ++ " " ++ word') :
    rest = rest' ∧ word = word' := by
  have hspace : " ".toList = [' '] := by decide
  have hchars := congrArg (fun s : String => s.toList.reverse) e
  simp only [String.toList_append, hspace, List.reverse_append, List.reverse_singleton,
    List.singleton_append] at hchars
  obtain ⟨hw, hr⟩ := append_cons_inj (mt List.mem_reverse.mp (h.not_mem rfl))
    (mt List.mem_reverse.mp (h'.not_mem rfl)) hchars
  exact ⟨String.toList_inj.mp (List.reverse_injective hr),
    String.toList_inj.mp (List.reverse_injective hw)⟩

/-- A word without spaces begins a line within the line's first word. -/
theorem starts_of_starts_word {word front rest : String} (hw : ' ' ∉ word.toList)
    (h : starts word (front ++ " " ++ rest) = true) : starts word front = true := by
  have hspace : " ".toList = [' '] := by decide
  rw [starts_iff] at h ⊢
  rw [String.toList_append, String.toList_append, hspace, List.append_assoc,
    List.singleton_append] at h
  rcases List.prefix_or_prefix_of_prefix h (List.prefix_append _ _) with hfront | hfront
  · exact hfront
  · obtain ⟨more, hmore⟩ := hfront
    cases more with
    | nil => exact ⟨[], by rw [List.append_nil, ← hmore, List.append_nil]⟩
    | cons c more =>
      rw [← hmore, List.prefix_append_right_inj, List.cons_prefix_cons] at h
      refine absurd ?_ hw
      rw [← hmore, h.1]
      exact List.mem_append_right _ List.mem_cons_self

/-! ## 2. Blocks -/

/-- The blocks of a text, each with its first line and the lines in it; at first, the given block is
open. A line that opens a block may close it as well. -/
def blocks (opens closes : String → Bool) :
    Option (String × List String) → List String → List (String × List String)
  | _, [] => []
  | none, line :: lines =>
    if opens line then
      if closes line then (line, []) :: blocks opens closes none lines
      else blocks opens closes (some (line, [])) lines
    else blocks opens closes none lines
  | some (head, body), line :: lines =>
    if closes line then (head, body) :: blocks opens closes none lines
    else blocks opens closes (some (head, body ++ [line])) lines

example : blocks (starts "type ") (ends "\x7d") none
    ["type A \x7b", "x", "y", "\x7d", "z", "type B \x7b\x7d", "z"]
      = [("type A \x7b", ["x", "y"]), ("type B \x7b\x7d", [])] := by decide

section Blocks

variable {opens closes : String → Bool}

/-- Lines that open no block are passed over. -/
theorem blocks_outer {ls : List String} (h : ∀ l ∈ ls, opens l = false) (rest : List String) :
    blocks opens closes none (ls ++ rest) = blocks opens closes none rest := by
  induction ls with
  | nil => rfl
  | cons l ls ih =>
    rw [List.forall_mem_cons] at h
    rw [List.cons_append, blocks, h.1]
    exact ih h.2

/-- An open block takes up the lines before the one that closes it. -/
theorem blocks_inner {body : List String} (h : ∀ l ∈ body, closes l = false) {foot : String}
    (hf : closes foot = true) (head : String) (before rest : List String) :
    blocks opens closes (some (head, before)) (body ++ foot :: rest)
      = (head, before ++ body) :: blocks opens closes none rest := by
  induction body generalizing before with
  | nil => rw [List.nil_append, blocks, if_pos hf, List.append_nil]
  | cons l body ih =>
    rw [List.forall_mem_cons] at h
    rw [List.cons_append, blocks, h.1, if_neg Bool.false_ne_true, ih h.2, List.append_assoc]
    rfl

/-- **A block is read from its head to its foot.** -/
theorem blocks_block {head foot : String} {body : List String} (ho : opens head = true)
    (hc : closes head = false) (hb : ∀ l ∈ body, closes l = false) (hf : closes foot = true)
    (rest : List String) :
    blocks opens closes none (BlockMarks.block head body foot ++ rest)
      = (head, body) :: blocks opens closes none rest := by
  unfold BlockMarks.block
  rw [List.cons_append, List.append_assoc, blocks, if_pos ho, hc, if_neg Bool.false_ne_true,
    List.singleton_append, blocks_inner hb hf, List.nil_append]

/-- A block of one line. -/
theorem blocks_line {head : String} (ho : opens head = true) (hc : closes head = true)
    (rest : List String) :
    blocks opens closes none (head :: rest) = (head, []) :: blocks opens closes none rest := by
  rw [blocks, if_pos ho, if_pos hc]

end Blocks

/-! ## 3. The text between a front and a back -/

/-- What stands in a line between a front and a back. -/
def between (front back line : String) : Option String :=
  let cs := line.toList
  let inner := (cs.drop front.toList.length).take
    (cs.length - front.toList.length - back.toList.length)
  if cs = front.toList ++ inner ++ back.toList then some (String.ofList inner) else none

example : between "use " ";" "use a::b;" = some "a::b" ∧ between "use " ";" "use" = none := by
  decide

/-- **What is read between a front and a back makes up the line with them.** -/
theorem between_eq_some_iff {front back line inner : String} :
    between front back line = some inner ↔ line = front ++ inner ++ back := by
  unfold between
  dsimp only
  constructor
  · intro h
    split at h
    · rename_i hline
      cases h
      rw [← String.toList_inj, String.toList_append, String.toList_append, String.toList_ofList]
      exact hline
    · cases h
  · rintro rfl
    have hlength : (front.toList ++ inner.toList ++ back.toList).length - front.toList.length
        - back.toList.length = inner.toList.length := by
      rw [List.length_append, List.length_append]
      omega
    rw [String.toList_append, String.toList_append, hlength, List.append_assoc, List.drop_left,
      List.take_left, ← List.append_assoc, if_pos rfl, String.ofList_toList]

theorem between_append (front inner back : String) :
    between front back (front ++ inner ++ back) = some inner := between_eq_some_iff.mpr rfl

theorem between_of_not_starts {front back line : String} (h : starts front line = false) :
    between front back line = none := by
  rw [Option.eq_none_iff_forall_ne_some]
  intro inner e
  rw [between_eq_some_iff.mp e, String.append_assoc, starts_append_self] at h
  cases h

theorem between_of_not_ends {front back line : String} (h : ends back line = false) :
    between front back line = none := by
  rw [Option.eq_none_iff_forall_ne_some]
  intro inner e
  rw [between_eq_some_iff.mp e, ends_append_self] at h
  cases h

theorem filterMap_cons_toList {α : Type} (read : String → Option α) (l : String)
    (ls : List String) : (l :: ls).filterMap read = (read l).toList ++ ls.filterMap read := by
  cases h : read l with
  | none => rw [List.filterMap_cons_none h, Option.toList_none, List.nil_append]
  | some a => rw [List.filterMap_cons_some h, Option.toList_some, List.singleton_append]

/-- Lines that are read one by one. -/
theorem filterMap_map_eq {α β : Type} {read : String → Option β} {f : α → String} {g : α → β}
    {xs : List α} (h : ∀ x ∈ xs, read (f x) = some (g x)) :
    (xs.map f).filterMap read = xs.map g := by
  induction xs with
  | nil => rfl
  | cons x xs ih =>
    rw [List.forall_mem_cons] at h
    rw [List.map_cons, List.filterMap_cons_some h.1, ih h.2, List.map_cons]

/-- Lines that are passed over. -/
theorem filterMap_map_eq_nil {α β : Type} {read : String → Option β} {f : α → String}
    {xs : List α} (h : ∀ x ∈ xs, read (f x) = none) : (xs.map f).filterMap read = [] :=
  List.filterMap_eq_nil_iff.mpr (List.forall_mem_map.mpr h)

/-! ## 4. Tokens, and the entries of a list -/

/-- The tokens of a text, between its spaces. -/
def tokens (text : String) : List String := (text.toList.splitOn ' ').map String.ofList

theorem tokens_solid {word : String} (h : Solid word.toList) : tokens word = [word] := by
  unfold tokens
  rw [List.splitOn_eq_singleton (h.not_mem rfl), List.map_singleton, String.ofList_toList]

/-- **The tokens before and behind a space are the tokens of a text.** -/
theorem tokens_append (a b : String) : tokens (a ++ " " ++ b) = tokens a ++ tokens b := by
  have hspace : " ".toList = [' '] := by decide
  unfold tokens
  rw [String.toList_append, String.toList_append, hspace, List.append_assoc,
    List.singleton_append, List.splitOn_append_cons_self, List.map_append]

theorem tokens_cons {word : String} (h : Solid word.toList) (rest : String) :
    tokens (word ++ " " ++ rest) = word :: tokens rest := by
  rw [tokens_append, tokens_solid h]
  rfl

theorem getLast?_tokens {word : String} (h : Solid word.toList) (rest : String) :
    (tokens (rest ++ " " ++ word)).getLast? = some word := by
  rw [tokens_append, tokens_solid h, List.getLast?_concat]

/-- Something between two texts is no empty text. -/
theorem append_append_ne_empty {middle : String} (h : middle ≠ "") (front back : String) :
    front ++ middle ++ back ≠ "" := by
  rw [ne_eq, String.append_eq_empty_iff, String.append_eq_empty_iff]
  exact fun e => h e.1.2

/-- The pieces of a text between commas that a space follows. -/
def splitList : List Char → List (List Char)
  | [] => [[]]
  | ',' :: ' ' :: cs => [] :: splitList cs
  | c :: cs => (splitList cs).modifyHead (c :: ·)

/-- The entries of a list that is written with a comma and a space between them. -/
def entries (text : String) : List String :=
  if text = "" then [] else (splitList text.toList).map String.ofList

example : entries "T a, U b" = ["T a", "U b"] ∧ entries "" = [] := by decide

theorem splitList_cons {c : Char} (hc : c ≠ ',') (cs : List Char) :
    splitList (c :: cs) = (splitList cs).modifyHead (c :: ·) := by
  cases cs with
  | nil => simp [splitList]
  | cons d ds => simp [splitList, hc]

theorem splitList_of_notMem {cs : List Char} (h : ',' ∉ cs) : splitList cs = [cs] := by
  induction cs with
  | nil => rfl
  | cons c cs ih =>
    obtain ⟨hc, hcs⟩ := not_or.mp (mt List.mem_cons.mpr h)
    rw [splitList_cons (Ne.symm hc), ih hcs]
    rfl

theorem splitList_append {cs : List Char} (h : ',' ∉ cs) (rest : List Char) :
    splitList (cs ++ ", ".toList ++ rest) = cs :: splitList rest := by
  induction cs with
  | nil => rfl
  | cons c cs ih =>
    obtain ⟨hc, hcs⟩ := not_or.mp (mt List.mem_cons.mpr h)
    rw [List.cons_append, List.cons_append, splitList_cons (Ne.symm hc), ih hcs]
    rfl

/-- **The entries of a written list come back**, if none is empty or holds a comma. -/
theorem entries_intercalate {parts : List String} (hne : ∀ part ∈ parts, part ≠ "")
    (h : ∀ part ∈ parts, ',' ∉ part.toList) : entries (", ".intercalate parts) = parts := by
  have hsplit : ∀ (part : String) (parts : List String), (∀ p ∈ part :: parts, ',' ∉ p.toList) →
      splitList (", ".intercalate (part :: parts)).toList
        = (part :: parts).map String.toList := by
    intro part parts
    induction parts generalizing part with
    | nil =>
      intro h
      rw [String.intercalate_singleton, splitList_of_notMem (h part List.mem_cons_self)]
      rfl
    | cons next parts ih =>
      intro h
      rw [List.forall_mem_cons] at h
      rw [String.intercalate_cons_cons, String.toList_append, String.toList_append,
        splitList_append h.1, ih next h.2]
      rfl
  cases parts with
  | nil => rfl
  | cons part parts =>
    have hfull : ", ".intercalate (part :: parts) ≠ "" := by
      intro e
      have hparts := hsplit part parts h
      rw [e] at hparts
      obtain ⟨hpart, -⟩ := List.cons.inj hparts
      exact hne part List.mem_cons_self (String.toList_eq_nil_iff.mp hpart.symm)
    rw [entries, if_neg hfull, hsplit part parts h, List.map_map]
    exact List.map_id'' (fun s => String.ofList_toList) _

end VisitorNodes.Text
