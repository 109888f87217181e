import VisitorNodes.Proofs.Outcome
import VisitorNodes.Proofs.Printer.CSharpInjective
import VisitorNodes.Proofs.Printer.RustInjective
import Mathlib.Data.List.Flatten
/-!
# Variants that are added

Each line of a module's text is about the category alone or about one variant and the category. So
the module of fewer variants is written with fewer lines, and what is written of the others stays as
it is (`Within`, one lemma for each language). Only Rust looks at whether there is any variant: an
empty enumeration is matched in another way, and an empty trait is closed on its line.

Hence more variants insert lines into the text and change none (`emit_sublist`).
-/

namespace VisitorNodes

open Grammar Text

/-! ## 1. Lines that are inserted -/

/-- More lines that are written insert lines into the text. What is written as a line may hold line
feeds: it comes back as several lines, in both texts. -/
theorem Text.sublist_pushLines {ks ls : List String} (h : ks.Sublist ls) :
    (lines (pushLines "" ks)).Sublist (lines (pushLines "" ls)) ∧
      ((pushLines "" ks).toList.splitOn '\n').Sublist ((pushLines "" ls).toList.splitOn '\n') := by
  have hpieces := h.flatMap (·.toList.splitOn '\n')
  unfold lines linesOf
  simp only [splitOn_pushLines, closeLines_concat_nil]
  exact ⟨(hpieces.map _).map _, hpieces.append_right _⟩

/-! ## 2. Modules -/

/-- A module of the same category with all these variants, and more between them. -/
structure Module.Within (m m' : Module) : Prop where
  base : m.base = m'.base
  visitor : m.visitor.name = m'.visitor.name
  methods : m.visitor.methods.Sublist m'.visitor.methods
  nodes : m.nodes.Sublist m'.nodes

theorem Module.within_ofVariants {variants variants' : List Variant}
    (h : variants.Sublist variants') (category : String) :
    (Module.ofVariants category variants).Within (Module.ofVariants category variants') where
  base := rfl
  visitor := rfl
  methods := h.map _
  nodes := h.map _

namespace CSharp

variable {m m' : Module}

/-- **More node types insert lines into the body.** -/
theorem sublist_bodyLines (h : m.Within m') : (bodyLines m).Sublist (bodyLines m') := by
  have hbase : baseLines m = baseLines m' := by
    unfold baseLines
    rw [h.base, h.visitor]
  have hmethod : methodLine m = methodLine m' := by
    funext method
    unfold methodLine visitorParam
    rw [h.base]
  have hvisitor : (visitorLines m).Sublist (visitorLines m') := by
    unfold visitorLines
    rw [hmethod, h.visitor]
    exact ((List.Sublist.refl _).append (h.methods.map _)).append_right _
  unfold bodyLines
  rw [hbase, nodeLines_congr h.base h.visitor]
  exact (hvisitor.append_left _).append (h.nodes.flatMap _)

/-- They insert lines into the text as well, since no line of the body is broken. -/
theorem exists_sublist_print (style : CSharp) (hm : m.SolidNames) (hm' : m'.SolidNames)
    (h : m.Within m') : ∃ ks ls, style.print m "" = pushLines "" ks ∧
      style.print m' "" = pushLines "" ls ∧ ks.Sublist ls := by
  refine ⟨_, _, print_eq style hm "", print_eq style hm' "", ?_⟩
  exact (((sublist_bodyLines h).map _).append_left _).append_right _

end CSharp

namespace Rust

variable {m m' : Module}

theorem sublist_baseLines (h : m.Within m') (hsome : m.nodes ≠ []) :
    (baseLines m).Sublist (baseLines m') := by
  have hsome' : m'.nodes ≠ [] := fun e => hsome (List.sublist_nil.mp (e ▸ h.nodes))
  have harm : armLine m = armLine m' := by
    funext node
    unfold armLine
    rw [h.base]
  have haccept : acceptLine m = acceptLine m' := by
    unfold acceptLine
    rw [h.visitor]
  have hmatch : (matchLines m).Sublist (matchLines m') := by
    unfold matchLines
    rw [if_neg hsome, if_neg hsome', harm]
    exact ((h.nodes.map _).append_left _).append_right _
  unfold baseLines
  rw [h.base, haccept]
  exact ((((h.nodes.map _).append_left _).append_right _).append hmatch).append_right _

theorem sublist_visitorLines (h : m.Within m') (hsome : m.visitor.methods ≠ []) :
    (visitorLines m).Sublist (visitorLines m') := by
  have hsome' : m'.visitor.methods ≠ [] := fun e => hsome (List.sublist_nil.mp (e ▸ h.methods))
  unfold visitorLines
  simp only [if_neg hsome, if_neg hsome', h.visitor]
  exact (((h.methods.map _).append_left _).append_right _).cons_cons _

/-- **More node types insert lines**, if there was one before. -/
theorem sublist_moduleLines (style : Rust) (h : m.Within m') (hnodes : m.nodes ≠ [])
    (hmethods : m.visitor.methods ≠ []) :
    (style.moduleLines m).Sublist (style.moduleLines m') := by
  unfold moduleLines
  rw [nodeLines_congr h.base h.visitor]
  exact (((sublist_baseLines h hnodes).append_left _).append
    (sublist_visitorLines h hmethods)).append (h.nodes.flatMap _)

end Rust

/-! ## 3. Texts -/

/-- Of lines that are read as variants, fewer are read as fewer of them. -/
theorem Grammar.exists_sublist_of_reads {vs ws : List String} {variants : List Variant}
    (h : vs.Sublist ws) (hws : List.Forall₂ Reads ws variants) :
    ∃ fewer, List.Forall₂ Reads vs fewer ∧ fewer.Sublist variants := by
  induction h generalizing variants with
  | slnil => exact ⟨[], .nil, List.nil_sublist _⟩
  | cons line _ ih =>
    cases hws with
    | cons _ hrest =>
      obtain ⟨fewer, hfewer, hsub⟩ := ih hrest
      exact ⟨fewer, hfewer, hsub.cons _⟩
  | cons_cons line _ ih =>
    cases hws with
    | cons hline hrest =>
      obtain ⟨fewer, hfewer, hsub⟩ := ih hrest
      exact ⟨_ :: fewer, .cons hline hfewer, hsub.cons_cons _⟩

/-- The lines that are written of fewer variants are among those that are written of all. -/
theorem Printer.exists_sublist_print (printer : Printer) {category : String}
    {variants variants' : List Variant} (hwf : (Category.mk category variants).WellFormed)
    (hwf' : (Category.mk category variants').WellFormed) (h : variants.Sublist variants')
    (hsome : ∀ style, printer = .rust style → variants ≠ []) :
    ∃ ks ls, printer.print (Module.ofVariants category variants) "" = pushLines "" ks ∧
      printer.print (Module.ofVariants category variants') "" = pushLines "" ls ∧
      ks.Sublist ls := by
  have hwithin := Module.within_ofVariants h category
  cases printer with
  | csharp style =>
    exact style.exists_sublist_print (Category.solidNames_toModule hwf)
      (Category.solidNames_toModule hwf') hwithin
  | rust style =>
    have hmap : ∀ {α : Type} (f : Variant → α), variants.map f ≠ [] := fun f e =>
      hsome style rfl (List.map_eq_nil_iff.mp e)
    exact ⟨_, _, rfl, rfl, Rust.sublist_moduleLines style hwithin (hmap _) (hmap _)⟩

/-- **Added variants touch nothing that is generated.** If the module of some lines can be emitted,
then that of some of them can be, in their order, and its text has only lines of the first one's
text, in their order. This also holds of the lines with their endings, which are the pieces between
line feeds. For Rust at least one line has to stay. -/
theorem emit_sublist {printer : Printer} {category : String} {vs ws : List String} {text' : String}
    (hemit : (emit printer category ws).result = .ok text') (h : vs.Sublist ws)
    (hsome : ∀ style, printer = .rust style → vs ≠ []) :
    ∃ text, (emit printer category vs).result = .ok text ∧
      (lines text).Sublist (lines text') ∧
      (text.toList.splitOn '\n').Sublist (text'.toList.splitOn '\n') := by
  cases emit_result_iff.mp hemit with
  | @printed variants' hname hws =>
    obtain ⟨variants, hvs, hvariants⟩ := exists_sublist_of_reads h hws
    have hwf := Category.wellFormed_of_read (c := ⟨category, variants⟩)
      (Category.read_eq_ok_iff.mpr ⟨hname, rfl, hvs⟩)
    have hwf' := Category.wellFormed_of_read (c := ⟨category, variants'⟩)
      (Category.read_eq_ok_iff.mpr ⟨hname, rfl, hws⟩)
    have hvariant : ∀ style, printer = .rust style → variants ≠ [] := by
      intro style hrust hnil
      rw [hnil, List.forall₂_nil_right_iff] at hvs
      exact hsome style hrust hvs
    obtain ⟨ks, ls, hks, hls, hsub⟩ :=
      printer.exists_sublist_print hwf hwf' hvariants hvariant
    refine ⟨_, (Outcome.printed hname hvs).emit_result, ?_⟩
    rw [hks, hls]
    exact sublist_pushLines hsub

/-- A variant between two of one name in Rust, and a first variant in C#, behind imports that break
their lines. -/
theorem emit_sublist_imports :
    (∃ text text', (emit (.rust ⟨["a\r\nb"]⟩) "Stmt" ["Nil :", "Nil : Stmt next"]).result
        = .ok text ∧
      (emit (.rust ⟨["a\r\nb"]⟩) "Stmt" ["Nil :", "Var : Name name", "Nil : Stmt next"]).result
        = .ok text' ∧
      (lines text).Sublist (lines text')) ∧
    ∃ text text', (emit (.csharp ⟨"Lox", ["a\nb"]⟩) "Stmt" []).result = .ok text ∧
      (emit (.csharp ⟨"Lox", ["a\nb"]⟩) "Stmt" ["Nil :"]).result = .ok text' ∧
      (lines text).Sublist (lines text') := by
  have hsub : ["Nil :", "Nil : Stmt next"].Sublist
      ["Nil :", "Var : Name name", "Nil : Stmt next"] := by
    decide
  have hrust : ∃ text', (emit (.rust ⟨["a\r\nb"]⟩) "Stmt"
      ["Nil :", "Var : Name name", "Nil : Stmt next"]).result = .ok text' :=
    ⟨_, rfl⟩
  have hcsharp : ∃ text', (emit (.csharp ⟨"Lox", ["a\nb"]⟩) "Stmt" ["Nil :"]).result = .ok text' :=
    ⟨_, rfl⟩
  obtain ⟨rust', hrust⟩ := hrust
  obtain ⟨csharp', hcsharp⟩ := hcsharp
  obtain ⟨rust, hrust', hlines, -⟩ := emit_sublist hrust hsub fun _ _ => List.cons_ne_nil _ _
  obtain ⟨csharp, hcsharp', hlines', -⟩ := emit_sublist hcsharp (List.nil_sublist _)
    fun _ h => nomatch h
  exact ⟨⟨rust, rust', hrust', hrust, hlines⟩, csharp, csharp', hcsharp', hcsharp, hlines'⟩

end VisitorNodes
