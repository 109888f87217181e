import VisitorNodes.Proofs.Reading
import VisitorNodes.Proofs.Text.Quoted
/-!
# Reports of rejections

The report of a rejection says all that the rejection does, whatever the texts are that it repeats:
two rejections with one report are equal. Nothing that is repeated can pass for a part of the report
itself. A quoted text ends where it must; the number of a line ends at a colon, which is no digit;
the words for a defect hold no line feed, and the one behind them is the only one of the report; and
the name of a category, which is repeated as it is, holds no blank, so that it ends before the first
space behind it.

The layers follow the report from the inside: the defect (`message_inj` of `Grammar.Defect`), the
malformed line, the rejection. `message_of_read` is the joint statement.
-/

namespace VisitorNodes

open Grammar Text

/-! ## 1. Defects -/

namespace Grammar.Defect

/-- The words of a message before what is blamed, or all of them if nothing is. -/
def front : Defect → String
  | .missingColon => "missing `:` between variant name and fields"
  | .extraColon => "unexpected second `:`"
  | .emptyName => "empty variant name"
  | .spacedName _ => "variant name "
  | .emptyEntry => "empty field entry"
  | .loneEntry _ => "field "
  | .crowdedEntry _ => "field "

/-- The words of a message behind what is blamed. -/
def back : Defect → String
  | .spacedName _ => " contains whitespace"
  | .loneEntry _ => " is missing a type or a name"
  | .crowdedEntry _ => " must be exactly `Type name`"
  | _ => ""

/-- What is blamed, as the message shows it. -/
def shown (d : Defect) : String := (d.blamed?.map quoted).getD ""

theorem message_eq (d : Defect) : d.message = d.front ++ (d.shown ++ d.back) := by
  cases d <;> simp [message, front, shown, blamed?, back, String.append_assoc]

/-- The different fronts. -/
def fronts : List String :=
  ["missing `:` between variant name and fields", "unexpected second `:`", "empty variant name",
   "variant name ", "empty field entry", "field "]

theorem front_mem_fronts (d : Defect) : d.front ∈ fronts := by
  cases d <;> simp [front, fronts]

/-- None of two different fronts begins the other, so a message has one front only. -/
theorem front_eq {d e : Defect} (h : d.message = e.message) : d.front = e.front := by
  have hapart : ∀ a ∈ fronts, ∀ b ∈ fronts, a = b ∨ Apart a b := by decide +kernel
  rcases hapart _ d.front_mem_fronts _ e.front_mem_fronts with heq | hne
  · exact heq
  · have hstarts : starts d.front d.message = true := by
      rw [message_eq]
      exact starts_append_self _ _
    rw [h, message_eq, hne.starts_append] at hstarts
    cases hstarts

/-- Words and what is blamed are all that a defect is. -/
theorem ext_words {d e : Defect} (hfront : d.front = e.front) (hback : d.back = e.back)
    (hblamed : d.blamed? = e.blamed?) : d = e := by
  cases d <;> cases e <;> simp_all [front, back, blamed?]

theorem back_eq_empty {d : Defect} (h : d.blamed? = none) : d.back = "" := by
  cases d <;> simp_all [back, blamed?]

/-- **The message of a defect determines the defect.** -/
theorem message_inj {d e : Defect} (h : d.message = e.message) : d = e := by
  have hfront := front_eq h
  rw [message_eq, message_eq, hfront, String.append_right_inj] at h
  -- what is blamed on one side only would be quoted where the other message has ended
  have hquoted : ∀ s t : String, quoted s ++ t ≠ "" := by
    intro s t hempty
    have hchars := congrArg String.toList hempty
    rw [String.toList_append, quoted, String.toList_ofList] at hchars
    cases hchars
  cases hd : d.blamed? with
  | none =>
    cases he : e.blamed? with
    | none =>
      exact ext_words hfront ((back_eq_empty hd).trans (back_eq_empty he).symm) (hd.trans he.symm)
    | some t =>
      simp only [shown, hd, he, back_eq_empty hd, Option.map_none, Option.map_some,
        Option.getD_none, Option.getD_some, String.append_empty] at h
      exact absurd h.symm (hquoted _ _)
  | some s =>
    cases he : e.blamed? with
    | none =>
      simp only [shown, hd, he, back_eq_empty he, Option.map_none, Option.map_some,
        Option.getD_none, Option.getD_some, String.append_empty] at h
      exact absurd h (hquoted _ _)
    | some t =>
      simp only [shown, hd, he, Option.map_some, Option.getD_some] at h
      obtain ⟨rfl, hback⟩ := quoted_append_inj h
      exact ext_words hfront hback (hd.trans he.symm)

/-- A message stands on one line. -/
theorem unbroken_message (d : Defect) : Unbroken d.message := by
  have hfronts : ∀ a ∈ fronts, Unbroken a := by decide +kernel
  have hshown : Unbroken d.shown := by
    unfold shown
    cases d.blamed? with
    | none => decide
    | some s => exact unbroken_quoted s
  have hback : Unbroken d.back := by
    cases d <;> simp only [back] <;> decide
  rw [message_eq, unbroken_append, unbroken_append]
  exact ⟨hfronts _ d.front_mem_fronts, hshown, hback⟩

end Grammar.Defect

/-! ## 2. Malformed lines -/

namespace Grammar.MalformedLine

/-- The characters of a report: the digits of the number end at the colon, and the words for the
defect at the line feed. -/
theorem toList_message (m : MalformedLine) : m.message.toList
    = "line ".toList ++ (Nat.toDigits 10 m.number ++ ':' :: ' ' :: (m.defect.message.toList
      ++ '\n' :: ("  ".toList ++ (quoted m.line).toList))) := by
  have hcolon : ": ".toList = [':', ' '] := by decide
  have hfeed : "\n  ".toList = '\n' :: "  ".toList := by decide
  unfold message
  simp only [String.toList_append, Nat.toString_eq_ofList_toDigits, String.toList_ofList, hcolon,
    hfeed, List.append_assoc, List.cons_append, List.nil_append]

/-- **The report of a malformed line determines its number, its defect and the line.** -/
theorem message_inj {m m' : MalformedLine} (h : m.message = m'.message) : m = m' := by
  have hchars := congrArg String.toList h
  rw [toList_message, toList_message, List.append_right_inj] at hchars
  have hdigits : ∀ n, ':' ∉ Nat.toDigits 10 n :=
    notMem_toDigits (by decide) fun d => Nat.digitChar_ne _ rfl
  obtain ⟨hnumber, hrest⟩ := append_cons_inj (hdigits _) (hdigits _) hchars
  have hfeed : ∀ d : Defect, '\n' ∉ d.message.toList :=
    fun d hc => (d.unbroken_message '\n' hc).1 rfl
  obtain ⟨hdefect, hline⟩ := append_cons_inj (hfeed _) (hfeed _) (List.cons.inj hrest).2
  rw [List.append_right_inj, String.toList_inj] at hline
  obtain ⟨number, line, defect⟩ := m
  obtain ⟨number', line', defect'⟩ := m'
  obtain rfl : number = number' := toDigits_inj (by decide) (by decide) hnumber
  obtain rfl : defect = defect' := Defect.message_inj (String.toList_inj.mp hdefect)
  obtain rfl : line = line' := quoted_inj hline
  rfl

/-- The report of a malformed line stands on two lines. -/
theorem count_feed_message (m : MalformedLine) : m.message.toList.count '\n' = 1 := by
  have hdigits : '\n' ∉ Nat.toDigits 10 m.number :=
    notMem_toDigits (by decide) (fun d => Nat.digitChar_ne _ rfl) _
  have hdefect : '\n' ∉ m.defect.message.toList := fun hc => (m.defect.unbroken_message _ hc).1 rfl
  have hline : '\n' ∉ (quoted m.line).toList := fun hc => (unbroken_quoted _ _ hc).1 rfl
  have hfront : '\n' ∉ "line ".toList := by decide
  have hspaces : '\n' ∉ "  ".toList := by decide
  have hne : (':' == '\n') = false ∧ (' ' == '\n') = false := by decide
  rw [toList_message]
  simp only [List.count_append, List.count_cons, List.count_eq_zero_of_not_mem hdigits,
    List.count_eq_zero_of_not_mem hdefect, List.count_eq_zero_of_not_mem hline,
    List.count_eq_zero_of_not_mem hfront, List.count_eq_zero_of_not_mem hspaces, hne,
    beq_self_eq_true, if_true, Bool.false_eq_true, if_false, Nat.zero_add, Nat.add_zero]

end Grammar.MalformedLine

/-! ## 3. Rejections -/

namespace Rejection

/-- The category that a rejection repeats as it is holds no blank. -/
def Sound : Rejection → Prop
  | .invalidName _ => True
  | .malformed category _ => Solid category.toList

/-- Rejections of a reading are sound, since the name is looked at before any line. -/
theorem sound_of_read {name : String} {lines : List String} {r : Rejection}
    (h : (Category.read name lines).result = .error r) : r.Sound := by
  by_cases hn : Category.Unnamed name
  · rw [Category.read_of_unnamed hn] at h
    cases h
    exact trivial
  · rw [Category.read_result_of_named hn] at h
    cases hl : (readLines lines).result with
    | error m =>
      rw [hl] at h
      cases h
      rw [← Category.isName_eq_false_iff, Bool.not_eq_false, Category.isName_iff_isWord] at hn
      exact hn.solid
    | ok variants =>
      rw [hl] at h
      cases h

/-- The name of the category and the mark behind it are the first word of the rest. -/
theorem message_malformed (category : String) (m : MalformedLine) :
    (malformed category m).message
      = "failed to generate `" ++ (category ++ "`:" ++ " " ++ m.message) := by
  have hmark : "`: " = "`:" ++ " " := by decide
  dsimp only [message]
  rw [hmark]
  ac_rfl

/-- The two kinds of rejections are told by how their reports begin. -/
theorem message_invalidName_ne (name category : String) (m : MalformedLine) :
    (invalidName name).message ≠ (malformed category m).message := by
  have hapart : Apart "invalid category name " "failed to generate `" := by decide
  intro h
  have hstarts : starts "invalid category name " (invalidName name).message = true := by
    unfold message
    exact starts_append_self _ _
  rw [h, message_malformed, hapart.starts_append] at hstarts
  cases hstarts

/-- **The report of a rejection determines the rejection.** -/
theorem Sound.message_inj {r r' : Rejection} (hr : r.Sound) (hr' : r'.Sound)
    (h : r.message = r'.message) : r = r' := by
  cases r with
  | invalidName name =>
    cases r' with
    | invalidName name' =>
      unfold message at h
      rw [String.append_right_inj] at h
      rw [quoted_inj h]
    | malformed category m => exact absurd h (message_invalidName_ne _ _ _)
  | malformed category m =>
    cases r' with
    | invalidName name => exact absurd h.symm (message_invalidName_ne _ _ _)
    | malformed category' m' =>
      rw [message_malformed, message_malformed, String.append_right_inj] at h
      have hmark : ∀ c : String, Solid c.toList → Solid (c ++ "`:").toList := by
        intro c hc
        rw [String.toList_append, solid_append]
        exact ⟨hc, by decide⟩
      obtain ⟨hcategory, hline⟩ := word_append_inj (hmark _ hr) (hmark _ hr') h
      rw [(String.append_left_inj "`:").mp hcategory, MalformedLine.message_inj hline]

/-- A sound rejection is reported on one line, or with a malformed line on two. -/
theorem Sound.count_feed_message {r : Rejection} (hr : r.Sound) :
    r.message.toList.count '\n' = if r.cause?.isSome then 1 else 0 := by
  cases r with
  | invalidName name =>
    have hfront : '\n' ∉ "invalid category name ".toList := by decide
    have hname : '\n' ∉ (quoted name).toList := fun hc => (unbroken_quoted _ _ hc).1 rfl
    unfold message
    rw [String.toList_append, List.count_append, List.count_eq_zero_of_not_mem hfront,
      List.count_eq_zero_of_not_mem hname]
    rfl
  | malformed category m =>
    have hfront : '\n' ∉ "failed to generate `".toList := by decide
    have hcategory : '\n' ∉ category.toList := Solid.not_mem hr rfl
    have hmark : '\n' ∉ "`: ".toList := by decide
    unfold message
    simp only [String.toList_append, List.count_append, List.count_eq_zero_of_not_mem hfront,
      List.count_eq_zero_of_not_mem hcategory, List.count_eq_zero_of_not_mem hmark,
      m.count_feed_message]
    rfl

/-- **Reports of rejections say all, and cannot be forged.** Two rejections of readings that have
one report are the same rejection. The report of a name that is none holds no line feed, and that of
a malformed line holds one, whatever the name and the lines are. -/
theorem message_of_read {name : String} {lines : List String} {r : Rejection}
    (h : (Category.read name lines).result = .error r) :
    (∀ name' lines' r', (Category.read name' lines').result = .error r' →
      r.message = r'.message → r = r') ∧
    r.message.toList.count '\n' = if r.cause?.isSome then 1 else 0 := by
  have hsound := sound_of_read h
  exact ⟨fun _ _ _ h' he => hsound.message_inj (sound_of_read h') he, hsound.count_feed_message⟩

/-- A line that imitates the end of a report, and a name that imitates the mark behind names. -/
theorem message_of_read_imitation :
    ∃ r r', (Category.read "Expr" ["Nil\n  \"Nil\""]).result = .error r ∧
      (Category.read "Expr`:" ["Nil"]).result = .error r' ∧ r.message ≠ r'.message ∧
      r.message.toList.count '\n' = 1 := by
  have hread : (Category.read "Expr" ["Nil\n  \"Nil\""]).result
      = .error (.malformed "Expr" ⟨1, "Nil\n  \"Nil\"", .missingColon⟩) := by rfl
  have hread' : (Category.read "Expr`:" ["Nil"]).result
      = .error (.malformed "Expr`:" ⟨1, "Nil", .missingColon⟩) := by rfl
  obtain ⟨hinj, hcount⟩ := message_of_read hread
  refine ⟨_, _, hread, hread', fun he => ?_, hcount⟩
  exact absurd (hinj _ _ _ hread' he) (by decide)

end Rejection

end VisitorNodes
