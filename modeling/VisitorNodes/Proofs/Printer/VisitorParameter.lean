import VisitorNodes.Proofs.Printer.Dispatch
import VisitorNodes.Proofs.Printer.Parameters
/-!
# The parameter of C# visit methods

Every visit method of a C# text takes its node under the same name: the category's, in lower camel
case, and verbatim if that is a keyword. Lower camel case drops what is no letter and no digit, so
the parameter begins with the first character of the category that is no underscore, in lower case
(`head?_lowerCamelCase`). It is an identifier exactly if that character exists and is a letter
(`visitorParam_emit`). The category `_` has no such character and leaves a gap, and that of `_1` is
a digit, though both are identifiers.
-/

namespace VisitorNodes

open Text

/-! ## 1. ASCII names in lower camel case -/

/-- The characters of identifiers are ASCII. -/
theorem ascii_of_isIdentifierChar {c : Char} (h : isIdentifierChar c = true) : c.toNat < 0x80 := by
  have hends : ∀ {last : UInt32}, last.toNat < 0x80 → c.val ≤ last → c.toNat < 0x80 :=
    fun hlast hle => Nat.lt_of_le_of_lt (UInt32.le_iff_toNat_le.mp hle) hlast
  rcases Bool.or_eq_true_iff.mp h with halphanum | hunderscore
  · rcases Bool.or_eq_true_iff.mp halphanum with halpha | hdigit
    · rcases Bool.or_eq_true_iff.mp halpha with hupper | hlower
      · exact hends (by decide : 'Z'.val.toNat < 0x80) (of_decide_eq_true hupper).2
      · exact hends (by decide : 'z'.val.toNat < 0x80)
          (of_decide_eq_true (Bool.and_eq_true_iff.mp hlower).2)
    · exact hends (by decide : '9'.val.toNat < 0x80)
        (of_decide_eq_true (Bool.and_eq_true_iff.mp hdigit).2)
  · rw [beq_iff_eq.mp hunderscore]
    decide

/-- What the characters of identifiers are in either case, and in lower camel case. -/
theorem isIdentifierChar_case {c : Char} (h : isIdentifierChar c = true) :
    isIdentifierChar c.toLower = true ∧ isIdentifierChar c.toUpper = true ∧
      isAlphanumeric c = (c != '_') ∧
      ((c != '_') = true → beginsIdentifier c.toLower = c.isAlpha) := by
  refine ascii_induction (P := fun c => isIdentifierChar c = true →
    isIdentifierChar c.toLower = true ∧ isIdentifierChar c.toUpper = true ∧
      isAlphanumeric c = (c != '_') ∧
      ((c != '_') = true → beginsIdentifier c.toLower = c.isAlpha)) ?_
    (ascii_of_isIdentifierChar h) h
  decide +kernel

namespace Text

theorem lowerText_ascii {cs : List Char} (h : ∀ c ∈ cs, c.toNat < 0x80) :
    lowerText cs = cs.map Char.toLower := by
  induction cs with
  | nil => rfl
  | cons c cs ih =>
    obtain ⟨hc, hcs⟩ := List.forall_mem_cons.mp h
    have hsigma : c ≠ '\u03A3' := fun e => absurd (e ▸ hc) (by decide)
    cases cs with
    | nil => rw [lowerText, if_neg hsigma, lowerCase_ascii hc, List.map_singleton]
    | cons d cs =>
      rw [lowerText, lowerCase_ascii hc, ih hcs, List.singleton_append]
      rfl

theorem capitalText_ascii {c : Char} {cs : List Char} (h : ∀ d ∈ c :: cs, d.toNat < 0x80) :
    capitalText (c :: cs) = c.toUpper :: cs.map Char.toLower := by
  obtain ⟨hc, hcs⟩ := List.forall_mem_cons.mp h
  rw [capitalText, upperCase_ascii hc, lowerText_ascii hcs, List.singleton_append]

/-- In lower camel case, an ASCII name has its own characters in lower and upper case. -/
theorem mem_lowerCamelCase_ascii {cs : List Char} (h : ∀ c ∈ cs, c.toNat < 0x80) {d : Char}
    (hd : d ∈ lowerCamelCase cs) : ∃ c ∈ cs, d = c.toLower ∨ d = c.toUpper := by
  have hword : ∀ w ∈ words cs, ∀ c ∈ w, c.toNat < 0x80 := fun w hw c hc =>
    h c (mem_of_mem_words hw hc)
  unfold lowerCamelCase at hd
  split at hd
  · exact absurd hd List.not_mem_nil
  · rename_i first others hwords
    rw [hwords, List.forall_mem_cons] at hword
    have hfirst : first ∈ words cs := hwords ▸ List.mem_cons_self
    rcases List.mem_append.mp hd with hd | hd
    · rw [lowerText_ascii hword.1] at hd
      obtain ⟨c, hc, rfl⟩ := List.mem_map.mp hd
      exact ⟨c, mem_of_mem_words hfirst hc, .inl rfl⟩
    · obtain ⟨w, hw, hd⟩ := List.mem_flatMap.mp hd
      have hmem : w ∈ words cs := hwords ▸ List.mem_cons_of_mem _ hw
      cases w with
      | nil => exact absurd hd List.not_mem_nil
      | cons c w =>
        rw [capitalText_ascii (hword.2 _ hw)] at hd
        rcases List.mem_cons.mp hd with rfl | hd
        · exact ⟨c, mem_of_mem_words hmem List.mem_cons_self, .inr rfl⟩
        · obtain ⟨e, he, rfl⟩ := List.mem_map.mp hd
          exact ⟨e, mem_of_mem_words hmem (List.mem_cons_of_mem _ he), .inl rfl⟩

/-- The first word of a run begins as the run does. Only where something was read can the case be
upper, so no word is closed before it holds a character. -/
theorem runWords_first {case : Case} {word cs : List Char} (hcs : cs ≠ [])
    (hcase : case = .upper → word ≠ []) {c : Char} {rest : List Char}
    (h : word ++ cs = c :: rest) : ∃ w others, runWords case word cs = (c :: w) :: others := by
  have hbegins : ∀ {front back : List Char}, front ≠ [] → front ++ back = c :: rest →
      ∃ w, front = c :: w := fun hne happ => by
    obtain ⟨d, w, rfl⟩ := List.exists_cons_of_ne_nil hne
    exact ⟨w, congrArg (· :: w) (List.cons.inj happ).1⟩
  fun_induction runWords case word cs with
  | case1 => exact absurd rfl hcs
  | case2 case word d => exact ⟨rest, [], congrArg ([·]) h⟩
  | case3 case word d next tail =>
    rw [List.append_cons] at h
    obtain ⟨w, hw⟩ := hbegins (List.append_ne_nil_of_right_ne_nil word (List.cons_ne_nil d [])) h
    exact ⟨w, _, congrArg (· :: _) hw⟩
  | case4 case word d next tail _ hends =>
    simp only [Bool.and_eq_true, decide_eq_true_eq] at hends
    obtain ⟨w, hw⟩ := hbegins (hcase hends.1.1) h
    exact ⟨w, _, congrArg (· :: _) hw⟩
  | case5 case word d next tail _ _ ih =>
    exact ih (List.cons_ne_nil _ _) (fun _ => List.append_ne_nil_of_right_ne_nil word
      (List.cons_ne_nil d [])) ((List.append_cons word d _).symm.trans h)

theorem words_separator {c : Char} (h : isAlphanumeric c = false) (cs : List Char) :
    words (c :: cs) = words cs := by
  unfold words
  rw [List.splitOnP_cons_eq_if_modifyHead, h, Bool.not_false, if_pos rfl, List.flatMap_cons]
  rfl

theorem words_letter {c : Char} (h : isAlphanumeric c = true) (cs : List Char) :
    ∃ w others, words (c :: cs) = (c :: w) :: others := by
  obtain ⟨piece, pieces, hpieces⟩ :=
    List.exists_cons_of_ne_nil (List.splitOnP_ne_nil (fun c => !isAlphanumeric c) cs)
  have hunread : Case.none = .upper → ([] : List Char) ≠ [] := fun e => absurd e (by decide)
  obtain ⟨w, others, hrun⟩ := runWords_first (List.cons_ne_nil c piece) hunread rfl
  refine ⟨w, others ++ pieces.flatMap (runWords .none []), ?_⟩
  unfold words
  rw [List.splitOnP_cons_eq_if_modifyHead, h, Bool.not_true, if_neg Bool.false_ne_true, hpieces,
    List.modifyHead_cons, List.flatMap_cons, hrun, List.cons_append]

/-- **A name in lower camel case begins with its first character that is no underscore**, in lower
case. -/
theorem head?_lowerCamelCase {cs : List Char} (h : ∀ c ∈ cs, isIdentifierChar c = true) :
    (lowerCamelCase cs).head? = (cs.find? (· != '_')).map Char.toLower := by
  induction cs with
  | nil => rfl
  | cons c cs ih =>
    obtain ⟨hc, hcs⟩ := List.forall_mem_cons.mp h
    obtain ⟨-, -, halphanumeric, -⟩ := isIdentifierChar_case hc
    rw [List.find?_cons, ← halphanumeric]
    cases hletter : isAlphanumeric c with
    | false =>
      rw [← ih hcs]
      unfold lowerCamelCase
      rw [words_separator hletter]
    | true =>
      obtain ⟨w, others, hwords⟩ := words_letter hletter cs
      have hascii : ∀ d ∈ c :: w, d.toNat < 0x80 := fun d hd =>
        ascii_of_isIdentifierChar (h d (mem_of_mem_words (hwords ▸ List.mem_cons_self) hd))
      unfold lowerCamelCase
      rw [hwords]
      dsimp only
      rw [lowerText_ascii hascii]
      rfl

end Text

namespace CSharp

/-! ## 2. Legal identifiers -/

/-- An identifier as a C# text may have it: verbatim, or plain if it is no keyword. -/
inductive Legal : String → Prop where
  | verbatim {name : String} (h : IsIdentifier name) : Legal ("@" ++ name)
  | plain {name : String} (h : IsIdentifier name) (hplain : name ∉ keywords) : Legal name

/-- **Escaping makes legal what is an identifier, and nothing else.** -/
theorem legal_identifier_iff {name : String} (h : ∀ c ∈ name.toList, isIdentifierChar c = true) :
    Legal (identifier name) ↔ IsIdentifier name := by
  have hat : '@' ∉ name.toList := fun hmem => absurd (h '@' hmem) (by decide)
  constructor
  · intro hlegal
    by_cases hk : name ∈ keywords
    · exact isIdentifier_of_mem_keywords hk
    · rw [identifier, if_neg hk] at hlegal
      cases hlegal with
      | verbatim =>
        refine absurd ?_ hat
        rw [String.toList_append]
        exact List.mem_append_left _ (by decide)
      | plain hident => exact hident
  · intro hident
    unfold identifier
    split
    case isTrue => exact .verbatim hident
    case isFalse hk => exact .plain hident hk

theorem isIdentifierChar_lowerCamelCase {cs : List Char}
    (h : ∀ c ∈ cs, isIdentifierChar c = true) :
    ∀ d ∈ lowerCamelCase cs, isIdentifierChar d = true := by
  intro d hd
  have hascii : ∀ c ∈ cs, c.toNat < 0x80 := fun c hc => ascii_of_isIdentifierChar (h c hc)
  obtain ⟨c, hc, rfl | rfl⟩ := mem_lowerCamelCase_ascii hascii hd
  · exact (isIdentifierChar_case (h c hc)).1
  · exact (isIdentifierChar_case (h c hc)).2.1

/-- In lower camel case, an identifier stays one if its first character that is no underscore is a
letter. -/
theorem isIdentifier_lowerCamelCase_iff {name : String}
    (h : ∀ c ∈ name.toList, isIdentifierChar c = true) :
    IsIdentifier (String.ofList (lowerCamelCase name.toList)) ↔
      (name.toList.find? (· != '_')).any Char.isAlpha = true := by
  have hfirst : (lowerCamelCase name.toList).head?.any beginsIdentifier
      = (name.toList.find? (· != '_')).any Char.isAlpha := by
    rw [head?_lowerCamelCase h]
    cases hfind : name.toList.find? (· != '_') with
    | none => rfl
    | some c =>
      obtain ⟨-, -, -, hbegins⟩ := isIdentifierChar_case (h c (List.mem_of_find?_eq_some hfind))
      exact hbegins (List.find?_some (p := (· != '_')) hfind)
  rw [← hfirst]
  refine ⟨fun hident => ?_, fun hbegins => ⟨?_, ?_⟩⟩
  · rw [← String.toList_ofList (l := lowerCamelCase name.toList)]
    exact hident.first
  · rwa [String.toList_ofList]
  · rw [String.toList_ofList]
    exact isIdentifierChar_lowerCamelCase h

end CSharp

/-! ## 3. The text -/

/-- The methods that a C# text declares behind its header, and the parameter of each. -/
theorem declared_emit (style : CSharp) {category : String} {grammar : List String} {c : Category}
    (h : (Category.read category grammar).result = .ok c) :
    ∃ body, (emit (.csharp style) category grammar).result
        = .ok (pushLines "" style.headerLines ++ body) ∧
      (lines body).filter (starts "        T ") = c.dispatches.map fun (method, node) =>
        "        T " ++ method ++ "(" ++ node ++ " " ++ CSharp.visitorParam c.toModule ++ ");" := by
  have hsolid := Category.solidNames_toModule (Category.wellFormed_of_read h)
  refine ⟨pushLines "" (CSharp.blockLines c.toModule), ?_, ?_⟩
  · rw [emit_result_of_read_ok h]
    exact congrArg Except.ok (CSharp.print_eq_header_append style hsolid)
  · have hdeclared := CSharp.declared_blockLines hsolid
    simp only [CSharp.indent_marks, CSharp.indent_methodLine] at hdeclared
    rw [lines_pushLines_unbroken (CSharp.unbroken_blockLines hsolid)]
    refine hdeclared.trans ?_
    unfold Category.dispatches
    rw [List.map_map]
    exact List.map_map

/-- **The parameter of visit methods is a legal identifier exactly if the category has a letter
behind its underscores.** A C# text declares a method for every variant, and each takes its node
under the category's name in lower camel case. For a category that is an identifier, this is an
identifier and no bare keyword exactly if the first character of the category that is no underscore
is a letter. -/
theorem visitorParam_emit (style : CSharp) {category : String} {grammar : List String}
    {c : Category} (h : (Category.read category grammar).result = .ok c)
    (hident : IsIdentifier category) :
    (∃ body, (emit (.csharp style) category grammar).result
        = .ok (pushLines "" style.headerLines ++ body) ∧
      (lines body).filter (starts "        T ") = c.dispatches.map fun (method, node) =>
        "        T " ++ method ++ "(" ++ node ++ " " ++ CSharp.visitorParam c.toModule ++ ");") ∧
    (CSharp.Legal (CSharp.visitorParam c.toModule) ↔
      (category.toList.find? (· != '_')).any Char.isAlpha = true) := by
  refine ⟨declared_emit style h, ?_⟩
  obtain ⟨-, rfl, -⟩ := Category.read_eq_ok_iff.mp h
  rw [← CSharp.isIdentifier_lowerCamelCase_iff hident.chars]
  refine CSharp.legal_identifier_iff ?_
  rw [String.toList_ofList]
  exact CSharp.isIdentifierChar_lowerCamelCase hident.chars

/-- A category that is a keyword in lower camel case, behind an underscore. -/
theorem visitorParam_emit_object :
    (Category.read "_Object" ["Nil :"]).result = .ok ⟨"_Object", [⟨"Nil", []⟩]⟩ ∧
      IsIdentifier "_Object" ∧
      (∃ body, (emit (.csharp ⟨"Lox", []⟩) "_Object" ["Nil :"]).result
          = .ok (pushLines "" ["namespace Lox", "\x7b"] ++ body) ∧
        (lines body).filter (starts "        T ") = ["        T VisitNil_Object(Nil @object);"]) ∧
      CSharp.Legal "@object" := by
  have hread : (Category.read "_Object" ["Nil :"]).result = .ok ⟨"_Object", [⟨"Nil", []⟩]⟩ := rfl
  have hident : IsIdentifier "_Object" := by decide
  have hparam : CSharp.visitorParam (Category.toModule ⟨"_Object", [⟨"Nil", []⟩]⟩) = "@object" := by
    decide +kernel
  obtain ⟨⟨body, htext, hdeclared⟩, hlegal⟩ := visitorParam_emit ⟨"Lox", []⟩ hread hident
  rw [hparam] at hdeclared hlegal
  exact ⟨hread, hident, ⟨body, htext, hdeclared.trans (by decide +kernel)⟩,
    hlegal.mpr (by decide)⟩

/-- The category `_` leaves a gap where the parameter should be. -/
theorem not_legal_underscore :
    IsIdentifier "_" ∧
      (∃ body, (emit (.csharp ⟨"Lox", []⟩) "_" ["Nil :"]).result
          = .ok (pushLines "" ["namespace Lox", "\x7b"] ++ body) ∧
        (lines body).filter (starts "        T ") = ["        T VisitNil_(Nil );"]) ∧
      ¬ CSharp.Legal "" := by
  have hread : (Category.read "_" ["Nil :"]).result = .ok ⟨"_", [⟨"Nil", []⟩]⟩ := rfl
  have hempty : CSharp.identifier "" = "" := by decide
  obtain ⟨body, htext, hdeclared⟩ := declared_emit ⟨"Lox", []⟩ hread
  refine ⟨by decide, ⟨body, htext, hdeclared.trans (by decide +kernel)⟩, ?_⟩
  rw [← hempty, CSharp.legal_identifier_iff (List.all_eq_true.mp (by decide))]
  decide

end VisitorNodes
