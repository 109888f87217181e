import VisitorNodes.Proofs.Text.LineText
/-!
# Lines that stand as deep as they are nested

Braces open and close blocks, and a line stands four spaces to the right for each block that is open
where it begins; a closing brace in front of it stands as far out as its block (`Stands`). A text
whose lines all do so, which closes no block that it has not opened and leaves none open, is laid
out (`LaidOut`).

A line, and a part of a text, is told by the number of blocks that are open before it and behind it
(`Leads`, `Nests`). Parts are put together where these numbers meet, and moving a part one step to
the right puts it into one more block. So a text is laid out if it leads from no open block to none
(`Nests.laidOut`).
-/

namespace VisitorNodes.Text

/-! ## 1. Braces -/

/-- How often a text opens a block. -/
def opens (text : String) : Nat := text.toList.count '\x7b'

/-- How often a text closes a block. -/
def closes (text : String) : Nat := text.toList.count '\x7d'

@[simp] theorem opens_append (a b : String) : opens (a ++ b) = opens a + opens b := by
  unfold opens
  rw [String.toList_append, List.count_append]

@[simp] theorem closes_append (a b : String) : closes (a ++ b) = closes a + closes b := by
  unfold closes
  rw [String.toList_append, List.count_append]

/-- A text without braces. -/
def Braceless (text : String) : Prop := ∀ c ∈ text.toList, c ≠ '\x7b' ∧ c ≠ '\x7d'

instance : DecidablePred Braceless := fun text =>
  List.decidableBAll (fun c => c ≠ '\x7b' ∧ c ≠ '\x7d') text.toList

@[simp] theorem braceless_append {a b : String} :
    Braceless (a ++ b) ↔ Braceless a ∧ Braceless b := by
  unfold Braceless
  rw [String.toList_append]
  exact List.forall_mem_append

theorem Braceless.opens_eq {text : String} (h : Braceless text) : opens text = 0 :=
  List.count_eq_zero.mpr fun hc => (h _ hc).1 rfl

theorem Braceless.closes_eq {text : String} (h : Braceless text) : closes text = 0 :=
  List.count_eq_zero.mpr fun hc => (h _ hc).2 rfl

theorem braceless_intercalate {sep : String} {parts : List String} (hs : Braceless sep)
    (h : ∀ part ∈ parts, Braceless part) : Braceless (sep.intercalate parts) :=
  forall_mem_intercalate hs h

/-! ## 2. Where a line stands -/

/-- How many steps further out a line stands that begins with this character: a closing brace stands
as far out as its block. -/
def outdent (c : Char) : Nat := if c = '\x7d' then 1 else 0

/-- **A line as deep as it is nested**, where `n` blocks are open before it: an empty line, or four
spaces for each block and another character. -/
def Stands (n : Nat) (line : String) : Prop :=
  line = "" ∨ ∃ k c rest, line.toList = List.replicate (4 * k) ' ' ++ c :: rest ∧ c ≠ ' ' ∧
    n = k + outdent c

/-- The same, read off the line. -/
def stands (n : Nat) (line : String) : Bool :=
  match line.toList.dropWhile (· == ' ') with
  | [] => line = ""
  | c :: _ => (line.toList.takeWhile (· == ' ')).length + 4 * outdent c = 4 * n

theorem span_replicate (k : Nat) {c : Char} (hc : c ≠ ' ') (rest : List Char) :
    (List.replicate k ' ' ++ c :: rest).takeWhile (· == ' ') = List.replicate k ' ' ∧
      (List.replicate k ' ' ++ c :: rest).dropWhile (· == ' ') = c :: rest := by
  have hstop : (c == ' ') = false := beq_eq_false_iff_ne.mpr hc
  have hspaces : ∀ d ∈ List.replicate k ' ', (d == ' ') = true := fun d hd =>
    beq_iff_eq.mpr (List.eq_of_mem_replicate hd)
  rw [List.takeWhile_append_of_pos hspaces, List.dropWhile_append_of_pos hspaces,
    List.takeWhile_cons, List.dropWhile_cons, hstop]
  exact ⟨List.append_nil _, rfl⟩

theorem stands_iff {n : Nat} {line : String} : stands n line = true ↔ Stands n line := by
  constructor
  · intro h
    unfold stands at h
    split at h
    · exact .inl (of_decide_eq_true h)
    · rename_i c rest hrest
      have hlength := of_decide_eq_true h
      have hmargin : (line.toList.takeWhile (· == ' ')).length = 4 * (n - outdent c) := by omega
      have hspaces : line.toList.takeWhile (· == ' ') = List.replicate (4 * (n - outdent c)) ' ' :=
        List.eq_replicate_iff.mpr ⟨hmargin, fun d hd => by
          have hd := List.mem_takeWhile_imp (p := (· == ' ')) hd
          exact beq_iff_eq.mp hd⟩
      have hline := List.takeWhile_append_dropWhile (p := (· == ' ')) (l := line.toList)
      have hstop := List.head?_dropWhile_not (· == ' ') line.toList
      rw [hrest] at hline hstop
      rw [hspaces] at hline
      exact .inr ⟨n - outdent c, c, rest, hline.symm, by simpa using hstop, by omega⟩
  · rintro (rfl | ⟨k, c, rest, hline, hc, rfl⟩)
    · rfl
    · obtain ⟨htake, hdrop⟩ := span_replicate (4 * k) hc rest
      unfold stands
      rw [hline, htake, hdrop, List.length_replicate]
      exact decide_eq_true (Nat.mul_add 4 k (outdent c)).symm

instance (n : Nat) (line : String) : Decidable (Stands n line) := decidable_of_iff _ stands_iff

example : Stands 2 "        x" ∧ Stands 2 "    \x7d" ∧ ¬ Stands 2 "    x" := by decide

/-- What follows a line's first characters does not move it. -/
theorem Stands.append {n : Nat} {front : String} (h : Stands n front) (hne : front ≠ "")
    (rest : String) : Stands n (front ++ rest) := by
  rcases h with rfl | ⟨k, c, more, hfront, hc, hn⟩
  · exact absurd rfl hne
  · refine .inr ⟨k, c, more ++ rest.toList, ?_, hc, hn⟩
    rw [String.toList_append, hfront, List.append_assoc, List.cons_append]

/-- A line that is moved by one step stands in one more block. -/
theorem Stands.indent {n : Nat} {line : String} (h : Stands n line) :
    Stands (n + 1) (indentLine 1 line) := by
  rcases h with rfl | ⟨k, c, rest, hline, hc, rfl⟩
  · exact .inl rfl
  · have hne : line ≠ "" := by
      rintro rfl
      exact List.append_ne_nil_of_right_ne_nil _ (List.cons_ne_nil _ _) hline.symm
    refine .inr ⟨k + 1, c, rest, ?_, hc, by omega⟩
    rw [indentLine, if_neg hne, String.toList_append, hline, indentation, String.toList_ofList,
      ← List.append_assoc, List.replicate_append_replicate]
    congr 2
    omega

theorem opens_indentLine (line : String) : opens (indentLine 1 line) = opens line := by
  unfold indentLine
  split
  · rename_i hempty
    rw [hempty]
  · rw [opens_append, show opens (indentation 1) = 0 from by decide, Nat.zero_add]

theorem closes_indentLine (line : String) : closes (indentLine 1 line) = closes line := by
  unfold indentLine
  split
  · rename_i hempty
    rw [hempty]
  · rw [closes_append, show closes (indentation 1) = 0 from by decide, Nat.zero_add]

/-! ## 3. What a line leads to -/

/-- The text leads from `n` open blocks to `k`. -/
def Turns (n : Nat) (text : String) (k : Nat) : Prop := n + opens text = k + closes text

instance (n : Nat) (text : String) (k : Nat) : Decidable (Turns n text k) :=
  inferInstanceAs (Decidable (_ = _))

/-- **A line between `n` open blocks and `k`**, as deep as it is nested. -/
structure Leads (n : Nat) (line : String) (k : Nat) : Prop where
  stands : Stands n line
  turns : Turns n line k

instance (n : Nat) (line : String) (k : Nat) : Decidable (Leads n line k) :=
  decidable_of_iff (Stands n line ∧ Turns n line k) ⟨fun h => ⟨h.1, h.2⟩, fun h => ⟨h.1, h.2⟩⟩

/-- The front of a line among `n` open blocks: it settles where the line stands, and holds no
brace. -/
structure Front (n : Nat) (text : String) : Prop where
  ne : text ≠ ""
  stands : Stands n text
  braceless : Braceless text

instance (n : Nat) (text : String) : Decidable (Front n text) :=
  decidable_of_iff (text ≠ "" ∧ Stands n text ∧ Braceless text)
    ⟨fun h => ⟨h.1, h.2.1, h.2.2⟩, fun h => ⟨h.1, h.2, h.3⟩⟩

namespace Front

variable {n k : Nat} {front : String}

theorem append (h : Front n front) {text : String} (ht : Braceless text) :
    Front n (front ++ text) where
  ne e := h.ne (String.append_eq_empty_iff.mp e).1
  stands := h.stands.append h.ne text
  braceless := braceless_append.mpr ⟨h.braceless, ht⟩

/-- A line that begins with a name stands by the spaces before it. -/
theorem name {name : String} (hne : name.toList ≠ []) (hs : Solid name.toList)
    (hb : Braceless name) (n : Nat) : Front n (indentation n ++ name) := by
  obtain ⟨c, cs, hname⟩ := List.exists_cons_of_ne_nil hne
  have hc : c ∈ name.toList := hname ▸ List.mem_cons_self
  have hspace : c ≠ ' ' := fun e => hs.not_mem (c := ' ') rfl (e ▸ hc)
  have hout : outdent c = 0 := if_neg (hb c hc).2
  have hline : (indentation n ++ name).toList = List.replicate (4 * n) ' ' ++ c :: cs := by
    rw [String.toList_append, hname, indentation, String.toList_ofList]
  refine ⟨?_, .inr ⟨n, c, cs, hline, hspace, by rw [hout, Nat.add_zero]⟩, ?_⟩
  · intro e
    rw [e] at hline
    exact List.append_ne_nil_of_right_ne_nil _ (List.cons_ne_nil _ _) hline.symm
  · refine braceless_append.mpr ⟨fun d hd => ?_, hb⟩
    rw [indentation, String.toList_ofList] at hd
    rw [List.eq_of_mem_replicate hd]
    decide

/-- Behind the front, a line leads where its end does. -/
theorem leads (h : Front n front) {tail : String} (ht : Turns n tail k) :
    Leads n (front ++ tail) k where
  stands := h.stands.append h.ne tail
  turns := by
    unfold Turns at ht ⊢
    rw [opens_append, closes_append, h.braceless.opens_eq, h.braceless.closes_eq]
    omega

/-- The ending of a line does not matter. -/
theorem leads_chomp (h : Front n front) (hr : '\r' ∉ front.toList) {tail : String}
    (ht : Turns n tail k) : Leads n (chomp (front ++ tail)) k := by
  rw [chomp_append hr]
  refine h.leads ?_
  unfold Turns opens closes at ht ⊢
  rwa [count_chomp (by decide), count_chomp (by decide)]

/-- A line without braces leads nowhere. -/
theorem line (h : Front n front) : Leads n front n where
  stands := h.stands
  turns := by rw [Turns, h.braceless.opens_eq, h.braceless.closes_eq]

end Front

/-! ## 4. Several lines -/

/-- **Lines between `n` open blocks and `m`**, each as deep as it is nested. -/
inductive Nests : Nat → List String → Nat → Prop where
  | nil (n : Nat) : Nests n [] n
  | cons {n k m : Nat} {line : String} {ls : List String} (hline : Leads n line k)
      (h : Nests k ls m) : Nests n (line :: ls) m

namespace Nests

variable {n k m : Nat}

theorem append {front rest : List String} (h : Nests n front k) (h' : Nests k rest m) :
    Nests n (front ++ rest) m := by
  induction h with
  | nil => exact h'
  | cons hline _ ih => exact .cons hline (ih h')

/-- One line. -/
theorem single {line : String} (h : Leads n line k) : Nests n [line] k := .cons h (.nil k)

/-- A part for each element of a list, none of which leads anywhere. -/
theorem flatMap {α : Type} {f : α → List String} {xs : List α} (h : ∀ x ∈ xs, Nests n (f x) n) :
    Nests n (xs.flatMap f) n := by
  induction xs with
  | nil => exact .nil n
  | cons x xs ih =>
    rw [List.flatMap_cons]
    exact (h x List.mem_cons_self).append (ih fun y hy => h y (List.mem_cons_of_mem _ hy))

theorem map {α : Type} {f : α → String} {xs : List α} (h : ∀ x ∈ xs, Leads n (f x) n) :
    Nests n (xs.map f) n := by
  rw [List.map_eq_flatMap]
  exact flatMap fun x hx => single (h x hx)

/-- **Lines that are moved by one step stand in one more block.** -/
theorem indent {ls : List String} (h : Nests n ls m) :
    Nests (n + 1) (ls.map (indentLine 1)) (m + 1) := by
  induction h with
  | nil n => exact .nil (n + 1)
  | @cons n k m line ls hline _ ih =>
    refine .cons ⟨hline.stands.indent, ?_⟩ ih
    have hturns := hline.turns
    unfold Turns at hturns ⊢
    rw [opens_indentLine, closes_indentLine]
    omega

/-- Lines that name something close all that they open if what they name does. -/
theorem naming {front tail : String} (hf : Front n front) (hr : '\r' ∉ front.toList)
    (ht : opens tail = closes tail) {names : List String}
    (h : ∀ name ∈ names, opens name = closes name) :
    Nests n (names.map fun name => chomp (front ++ name ++ tail)) n := by
  refine map fun name hname => ?_
  have hturns : Turns n (name ++ tail) n := by
    rw [Turns, opens_append, closes_append, h name hname, ht]
  rw [String.append_assoc]
  exact hf.leads_chomp hr hturns

/-- Lines meet anywhere at some number of open blocks. -/
theorem split {front rest : List String} (h : Nests n (front ++ rest) m) :
    ∃ k, Nests n front k ∧ Nests k rest m := by
  induction front generalizing n with
  | nil => exact ⟨n, .nil n, h⟩
  | cons line front ih =>
    cases h with
    | cons hline h =>
      obtain ⟨k, hfront, hrest⟩ := ih h
      exact ⟨k, .cons hline hfront, hrest⟩

end Nests

/-! ## 5. Laid out texts -/

/-- How many more blocks the lines open than they close. -/
def depth : List String → Int
  | [] => 0
  | line :: ls => opens line - closes line + depth ls

/-- **Lines whose white space is their nesting.** A line that holds something stands four spaces to
the right for each block that the lines before it leave open, or one step further out with a closing
brace in front. No more blocks are closed than were opened, and in the end all are closed. -/
structure LaidOut (ls : List String) : Prop where
  line : ∀ before line after, ls = before ++ line :: after → line ≠ "" →
    ∃ (k : Nat) (c : Char) (rest : List Char),
      line.toList = List.replicate (4 * k) ' ' ++ c :: rest ∧ c ≠ ' ' ∧
        (k : Int) = depth before - (if c = '\x7d' then 1 else 0)
  nonneg : ∀ before, before <+: ls → 0 ≤ depth before
  closed : depth ls = 0

theorem Nests.depth_eq {n m : Nat} {ls : List String} (h : Nests n ls m) :
    (m : Int) = n + depth ls := by
  induction h with
  | nil n => exact (Int.add_zero _).symm
  | @cons n k m line ls hline _ ih =>
    have hturns := hline.turns
    unfold depth
    unfold Turns at hturns
    omega

/-- **Lines that lead from no open block to none are laid out.** -/
theorem Nests.laidOut {ls : List String} (h : Nests 0 ls 0) : LaidOut ls where
  line before line after e hne := by
    subst e
    obtain ⟨n, hbefore, hline⟩ := h.split
    have hdepth := hbefore.depth_eq
    cases hline with
    | cons hline _ =>
      obtain ⟨k, c, rest, hchars, hc, hn⟩ := hline.stands.resolve_left hne
      have hout : (outdent c : Int) = if c = '\x7d' then 1 else 0 := by
        unfold outdent
        split <;> rfl
      refine ⟨k, c, rest, hchars, hc, ?_⟩
      rw [← hout]
      omega
  nonneg before hbefore := by
    obtain ⟨after, rfl⟩ := hbefore
    obtain ⟨n, hbefore, _⟩ := h.split
    have hdepth := hbefore.depth_eq
    omega
  closed := by
    have hdepth := h.depth_eq
    omega

end VisitorNodes.Text
