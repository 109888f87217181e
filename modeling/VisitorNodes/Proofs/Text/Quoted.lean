import VisitorNodes.Text.Quoted
import VisitorNodes.Proofs.Text.LineText
/-!
# Quoted texts determine what they quote

Whatever stands behind a quoted text, the text that it quotes and where it ends can be told
(`quoted_append_inj`). The reason is the same at every layer: a character is written either as
itself, or as a backslash and what says which character it is (`Escape`), so the way in which one
character is written never begins the way in which another one is; and no character is written with
a bare quotation mark at its front, which only ends the text.

A quoted text stands on one line (`unbroken_quoted`).
-/

namespace VisitorNodes.Text

/-! ## 1. Digits -/

/-- The digits of a number are digits of its base. -/
theorem exists_of_mem_toDigits {b : Nat} (hb : 1 < b) {n : Nat} {c : Char}
    (h : c ∈ Nat.toDigits b n) : ∃ d < b, c = d.digitChar := by
  induction n using Nat.strongRecOn with
  | ind n ih =>
    rw [Nat.toDigits_eq_if hb] at h
    split at h
    · rename_i hn
      exact ⟨n, hn, List.mem_singleton.mp h⟩
    · rename_i hn
      rcases List.mem_append.mp h with h | h
      · exact ih _ (Nat.div_lt_self (by omega) hb) h
      · exact ⟨n % b, Nat.mod_lt n (by omega), List.mem_singleton.mp h⟩

/-- What is no digit ends a number. -/
theorem notMem_toDigits {b : Nat} (hb : 1 < b) {c : Char} (hc : ∀ d : Nat, d.digitChar ≠ c)
    (n : Nat) : c ∉ Nat.toDigits b n := by
  intro h
  obtain ⟨d, -, e⟩ := exists_of_mem_toDigits hb h
  exact hc d e.symm

theorem digitChar_inj {m n : Nat} (hm : m < 16) (hn : n < 16) (h : m.digitChar = n.digitChar) :
    m = n := by
  have hall : ∀ i j : Fin 16, Nat.digitChar i = Nat.digitChar j → i = j := by decide
  exact congrArg Fin.val (hall ⟨m, hm⟩ ⟨n, hn⟩ h)

/-- **Digits determine the number.** -/
theorem toDigits_inj {b : Nat} (hb : 1 < b) (hb' : b ≤ 16) {m n : Nat}
    (h : Nat.toDigits b m = Nat.toDigits b n) : m = n := by
  induction m using Nat.strongRecOn generalizing n with
  | ind m ih =>
    rw [Nat.toDigits_eq_if hb, Nat.toDigits_eq_if (n := n) hb] at h
    split at h
    · rename_i hm
      split at h
      · rename_i hn
        exact digitChar_inj (by omega) (by omega) (List.cons.inj h).1
      · have hlong : [] ++ [m.digitChar] = Nat.toDigits b (n / b) ++ [(n % b).digitChar] := h
        obtain ⟨hnil, -⟩ := List.append_inj' hlong rfl
        exact absurd hnil.symm Nat.toDigits_ne_nil
    · rename_i hm
      split at h
      · have hlong : Nat.toDigits b (m / b) ++ [(m % b).digitChar] = [] ++ [n.digitChar] := h
        obtain ⟨hnil, -⟩ := List.append_inj' hlong rfl
        exact absurd hnil Nat.toDigits_ne_nil
      · obtain ⟨hfront, hlast⟩ := List.append_inj' h rfl
        have hdiv : m / b = n / b := ih _ (Nat.div_lt_self (by omega) hb) hfront
        have hmod : m % b = n % b := by
          refine digitChar_inj ?_ ?_ (List.cons.inj hlast).1
          · exact Nat.lt_of_lt_of_le (Nat.mod_lt m (by omega)) hb'
          · exact Nat.lt_of_lt_of_le (Nat.mod_lt n (by omega)) hb'
        rw [← Nat.div_add_mod m b, ← Nat.div_add_mod n b, hdiv, hmod]

/-! ## 2. Characters -/

/-- The characters that have a mark of their own, which is written behind a backslash. -/
def escapeMarks : List (Char × Char) :=
  [('"', '"'), ('\\', '\\'), ('\x00', '0'), ('\t', 't'), ('\n', 'n'), ('\r', 'r')]

/-- **The ways in which a character can be written.** -/
inductive Escape (c : Char) : List Char → Prop where
  | mark {m : Char} (h : (c, m) ∈ escapeMarks) : Escape c ['\\', m]
  | code : Escape c (escapeCode c)
  | plain (h : ∀ e ∈ escapeMarks, c ≠ e.1) : Escape c [c]

theorem escape_escapeChar (c : Char) : Escape c (escapeChar c) := by
  by_cases hc : ∃ e ∈ escapeMarks, c = e.1
  · obtain ⟨e, he, rfl⟩ := hc
    have hmarked : ∀ e ∈ escapeMarks, escapeChar e.1 = ['\\', e.2] := by decide
    rw [hmarked e he]
    exact .mark he
  · have hplain : ∀ e ∈ escapeMarks, c ≠ e.1 := fun e he h => hc ⟨e, he, h⟩
    have hrest : escapeChar c = if isHidden c then escapeCode c else [c] := by
      simp only [escapeMarks, List.forall_mem_cons] at hplain
      simp only [escapeChar, hplain, if_false]
    rw [hrest]
    split
    · exact .code
    · exact .plain hplain

/-- No mark says of two characters that it is theirs, and none is the sign of a code point. -/
theorem escapeMarks_distinct : ∀ e ∈ escapeMarks,
    e.2 ≠ 'u' ∧ e.2 ≠ '\n' ∧ e.2 ≠ '\r' ∧ ∀ e' ∈ escapeMarks, e.2 = e'.2 → e.1 = e'.1 := by
  decide

theorem escapeCode_append (c : Char) (rest : List Char) : escapeCode c ++ rest
    = '\\' :: 'u' :: '\x7b' :: (Nat.toDigits 16 c.toNat ++ '\x7d' :: rest) := by
  have hopen : "\\u\x7b".toList = ['\\', 'u', '\x7b'] := by decide
  have hclose : "\x7d".toList = ['\x7d'] := by decide
  unfold escapeCode
  rw [hopen, hclose, List.append_assoc, List.append_assoc]
  rfl

/-- What is written in one way is written for one character. -/
theorem Escape.append_inj {c d : Char} {cs ds x y : List Char} (hc : Escape c cs)
    (hd : Escape d ds) (h : cs ++ x = ds ++ y) : c = d ∧ x = y := by
  have hbackslash : ('\\', '\\') ∈ escapeMarks := by decide
  cases hc with
  | mark hm =>
    cases hd with
    | mark hm' =>
      obtain ⟨-, hmark, hrest⟩ := List.cons.inj h |>.imp_right List.cons.inj
      exact ⟨(escapeMarks_distinct _ hm).2.2.2 _ hm' hmark, hrest⟩
    | code =>
      rw [escapeCode_append] at h
      exact absurd (List.cons.inj (List.cons.inj h).2).1 (escapeMarks_distinct _ hm).1
    | plain hp => exact absurd (List.cons.inj h).1.symm (hp _ hbackslash)
  | code =>
    rw [escapeCode_append] at h
    cases hd with
    | mark hm =>
      exact absurd (List.cons.inj (List.cons.inj h).2).1.symm (escapeMarks_distinct _ hm).1
    | code =>
      rw [escapeCode_append] at h
      have hend : ∀ n, '\x7d' ∉ Nat.toDigits 16 n :=
        notMem_toDigits (by decide) fun d => Nat.digitChar_ne _ rfl
      obtain ⟨hdigits, hrest⟩ := append_cons_inj (hend _) (hend _)
        (List.cons.inj (List.cons.inj (List.cons.inj h).2).2).2
      exact ⟨Char.toNat_inj.mp (toDigits_inj (by decide) (by decide) hdigits), hrest⟩
    | plain hp => exact absurd (List.cons.inj h).1.symm (hp _ hbackslash)
  | plain hp =>
    cases hd with
    | mark hm => exact absurd (List.cons.inj h).1 (hp _ hbackslash)
    | code =>
      rw [escapeCode_append] at h
      exact absurd (List.cons.inj h).1 (hp _ hbackslash)
    | plain hp' => exact List.cons.inj h

/-- No character is written with a bare quotation mark at its front. -/
theorem Escape.quote_ne {c : Char} {cs x y : List Char} (hc : Escape c cs) :
    '"' :: x ≠ cs ++ y := by
  intro h
  cases hc with
  | mark hm => exact absurd (List.cons.inj h).1 (by decide)
  | code =>
    rw [escapeCode_append] at h
    exact absurd (List.cons.inj h).1 (by decide)
  | plain hp => exact hp ('"', '"') (by decide) (List.cons.inj h).1.symm

/-- A character is written on one line. -/
theorem Escape.unbroken {c : Char} {cs : List Char} (hc : Escape c cs) :
    '\n' ∉ cs ∧ '\r' ∉ cs := by
  cases hc with
  | mark hm =>
    obtain ⟨-, hn, hr, -⟩ := escapeMarks_distinct _ hm
    simp only [List.mem_cons, List.not_mem_nil, or_false, not_or]
    exact ⟨⟨by decide, hn.symm⟩, by decide, hr.symm⟩
  | code =>
    have hdigits : ∀ a : Char, (∀ d : Nat, d.digitChar ≠ a) → a ∉ Nat.toDigits 16 c.toNat :=
      fun a ha => notMem_toDigits (by decide) ha _
    rw [← List.append_nil (escapeCode c), escapeCode_append]
    simp only [List.mem_cons, List.mem_append, List.not_mem_nil, or_false, not_or]
    exact ⟨⟨by decide, by decide, by decide, hdigits _ fun d => Nat.digitChar_ne _ rfl, by decide⟩,
      by decide, by decide, by decide, hdigits _ fun d => Nat.digitChar_ne _ rfl, by decide⟩
  | plain hp =>
    simp only [List.mem_singleton]
    exact ⟨(hp ('\n', 'n') (by decide)).symm, (hp ('\r', 'r') (by decide)).symm⟩

/-! ## 3. Texts -/

/-- **A quoted text ends where it must, and determines what it quotes.** -/
theorem quoteChars_append_inj {cs ds x y : List Char}
    (h : quoteChars cs ++ x = quoteChars ds ++ y) : cs = ds ∧ x = y := by
  have hchars : cs.flatMap escapeChar ++ '"' :: x = ds.flatMap escapeChar ++ '"' :: y := by
    simpa [quoteChars] using h
  clear h
  induction cs generalizing ds with
  | nil =>
    cases ds with
    | nil => exact ⟨rfl, (List.cons.inj hchars).2⟩
    | cons d ds =>
      rw [List.flatMap_cons, List.append_assoc] at hchars
      exact absurd hchars (escape_escapeChar d).quote_ne
  | cons c cs ih =>
    rw [List.flatMap_cons, List.append_assoc] at hchars
    cases ds with
    | nil => exact absurd hchars.symm (escape_escapeChar c).quote_ne
    | cons d ds =>
      rw [List.flatMap_cons, List.append_assoc] at hchars
      obtain ⟨rfl, hrest⟩ := (escape_escapeChar c).append_inj (escape_escapeChar d) hchars
      obtain ⟨rfl, hend⟩ := ih hrest
      exact ⟨rfl, hend⟩

theorem quoted_append_inj {s t x y : String} (h : quoted s ++ x = quoted t ++ y) :
    s = t ∧ x = y := by
  have hchars := congrArg String.toList h
  simp only [quoted, String.toList_append, String.toList_ofList] at hchars
  exact (quoteChars_append_inj hchars).imp String.toList_inj.mp String.toList_inj.mp

theorem quoted_inj {s t : String} (h : quoted s = quoted t) : s = t :=
  (quoted_append_inj (congrArg (· ++ "") h)).1

/-- A quoted text stands on one line, whatever it quotes. -/
theorem unbroken_quoted (s : String) : Unbroken (quoted s) := by
  unfold Unbroken quoted quoteChars
  rw [String.toList_ofList, List.cons_append, List.forall_mem_cons, List.forall_mem_append]
  refine ⟨by decide, fun a ha => ?_, List.forall_mem_singleton.mpr (by decide)⟩
  obtain ⟨c, -, ha⟩ := List.mem_flatMap.mp ha
  obtain ⟨hn, hr⟩ := (escape_escapeChar c).unbroken
  exact ⟨fun e => hn (e ▸ ha), fun e => hr (e ▸ ha)⟩

end VisitorNodes.Text
