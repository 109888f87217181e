import VisitorNodes.Proofs.Command.Ending
import VisitorNodes.Proofs.Command.FileName
/-!
# Modules that stay

A run into a directory that exits with 0 has written the module of every request. It stays unless a
later request writes to the same file (`run_saved`). In C# categories of different names have
different files, so every module stays. In Rust file names are made of words, and different names can
have the same words: of such categories the last one keeps the file, and the run exits with 0 all the
same (`run_replaces`).
-/

namespace VisitorNodes.Command

open FileTree

/-- Requests that do not meet: their names are different and hold no slash, and no grammar stands
where a module is written. -/
structure Settings.Apart (s : Settings) (files : FileTree) : Prop where
  names : (s.requests.map (·.category)).Nodup
  slash : ∀ r ∈ s.requests, '/' ∉ r.category.toList
  grammars : ∀ r ∈ s.requests, ∀ other ∈ s.requests,
    files.place r.grammar ≠ files.place (s.outPath other.category)

/-- The file of a request's category holds the module of its grammar, and the grammar holds what it
held before. -/
def Settings.Saved (s : Settings) (r : Request) (initial final : FileTree) : Prop :=
  ∃ source text, initial.node? (initial.place r.grammar) = some (.file (.text source)) ∧
    final.read r.grammar = .ok source ∧
    (emitSource s.printer r.category source).result = .ok text ∧
    final.read (s.outPath r.category) = .ok text

section Saved

variable {s : Settings} {filter : LogFilter}

/-- Different file names are different places. -/
theorem place_outPath_ne {files : FileTree} {a b : String} (ha : '/' ∉ a.toList)
    (hb : '/' ∉ b.toList) (h : s.target.fileName a ≠ s.target.fileName b) :
    files.place (s.outPath a) ≠ files.place (s.outPath b) := by
  unfold Settings.outPath
  rw [place_join files (Target.isEntry_fileName ha), place_join files (Target.isEntry_fileName hb)]
  intro e
  exact h (List.cons.inj (List.append_cancel_left e)).1

/-- **A module stays in its file through turns that write to other files.** -/
theorem turns_saved {before after : List Request} {r : Request} {w : World}
    (hout : s.outDir ≠ "-")
    (hgrammar : ∀ other ∈ before ++ r :: after,
      w.files.place r.grammar ≠ w.files.place (s.outPath other.category))
    (hafter : ∀ other ∈ after,
      w.files.place (s.outPath r.category) ≠ w.files.place (s.outPath other.category))
    (hzero : (turns s filter (before ++ r :: after) w).1 = 0) :
    s.Saved r w.files (turns s filter (before ++ r :: after) w).2.files := by
  -- the trees before the turn, behind it, and behind all later ones
  have hbefore := turns_grows s filter before w
  rw [turns_append, turns_cons] at hzero ⊢
  generalize (turns s filter before w).2 = w₁ at hbefore hzero ⊢
  have hending := turn_ending s filter r w₁
  have hturn := hending.grows
  have hrest := turns_grows s filter after (turn s filter r w₁).2
  simp only at hzero ⊢
  have hsucceeded : (turn s filter r w₁).1 = true := by
    by_contra hfailed
    rw [if_neg hfailed] at hzero
    omega
  rw [hsucceeded] at hending
  obtain ⟨text, ⟨source, hread, hemit⟩, hwritten⟩ := hending.saved hout
  -- all places are those of the first tree
  rw [hbefore.place] at hturn
  simp only [hturn.place, hbefore.place] at hrest
  obtain ⟨-, hsource⟩ := read_eq_ok_iff.mp hread
  rw [hbefore.place] at hsource
  refine ⟨source, text, (hbefore.file_iff ?_).mp hsource, ?_, hemit, ?_⟩
  · intro given
    obtain ⟨other, hother, hplace⟩ := given
    exact hgrammar other (List.mem_append_left _ hother) hplace
  · refine hrest.read ?_ (hturn.read ?_ hread)
    · rw [hturn.place, hbefore.place]
      intro given
      obtain ⟨other, hother, hplace⟩ := given
      exact hgrammar other (List.mem_append_right _ (List.mem_cons_of_mem _ hother)) hplace
    · rw [hbefore.place]
      exact hgrammar r (List.mem_append_right _ List.mem_cons_self)
  · refine hrest.read ?_ hwritten
    rw [hturn.place, hbefore.place]
    intro given
    obtain ⟨other, hother, hplace⟩ := given
    exact hafter other hother hplace

/-- **A run that exits with 0 has saved every module that no later request replaces.** The run
writes into a directory, for requests that do not meet. A module is replaced only by a category whose
file has the same name; in C# there is none. -/
theorem run_saved {arguments : List String} {w : World}
    (hargs : Invocation.parse arguments = .ok (.generate s)) (hout : s.outDir ≠ "-")
    (hapart : s.Apart w.files) (hexit : (run filter arguments w).1 = 0) :
    (∀ before r after, s.requests = before ++ r :: after →
      (∀ later ∈ after,
        s.target.fileName r.category ≠ s.target.fileName later.category) →
      s.Saved r w.files (run filter arguments w).2.files) ∧
    (s.target = .csharp → ∀ r ∈ s.requests,
      s.Saved r w.files (run filter arguments w).2.files) := by
  have hrun : run filter arguments w = generate s filter w := by
    unfold run
    rw [hargs]
  rw [hrun] at hexit ⊢
  obtain ⟨hzero, hworld⟩ := generate_of_exit_zero hexit
  rw [hworld]
  have hsaved : ∀ before r after, s.requests = before ++ r :: after →
      (∀ later ∈ after, s.target.fileName r.category ≠ s.target.fileName later.category) →
      s.Saved r w.files (turns s filter s.requests w).2.files := by
    intro before r after hrequests hlater
    have hmem : r ∈ s.requests := by
      rw [hrequests]
      exact List.mem_append_right _ List.mem_cons_self
    have hmemLater : ∀ later ∈ after, later ∈ s.requests := by
      intro later h
      rw [hrequests]
      exact List.mem_append_right _ (List.mem_cons_of_mem _ h)
    rw [hrequests] at hzero ⊢
    refine turns_saved hout (fun other hother => ?_) (fun later h => ?_) hzero
    · rw [← hrequests] at hother
      exact hapart.grammars r hmem other hother
    · exact place_outPath_ne (hapart.slash r hmem) (hapart.slash later (hmemLater later h))
        (hlater later h)
  refine ⟨hsaved, fun hcsharp r hr => ?_⟩
  obtain ⟨before, after, hrequests⟩ := List.append_of_mem hr
  refine hsaved before r after hrequests fun later hlater => ?_
  rw [hcsharp, Ne, Target.fileName_csharp_inj]
  have hnames := hapart.names
  rw [hrequests, List.map_append, List.map_cons, List.nodup_append] at hnames
  obtain ⟨-, hnames, -⟩ := hnames
  have hnew := (List.nodup_cons.mp hnames).1
  exact fun e => hnew (e ▸ List.mem_map_of_mem hlater)

/-- A tree with two grammars in its working directory. -/
def twoGrammars : FileTree where
  here := ["work"]
  entries := [(["work"], .dir), (["work", "a.ast"], .file (.text "Nil :")),
    (["work", "b.ast"], .file (.text "Cons : T head"))]

/-- **A later module replaces an earlier one** in a run that exits with 0, for two names of letters
and an underscore that have the same words. -/
theorem run_replaces :
    ∃ s, Invocation.parse ["-t", "rs", "-o", "out", "TypeExpr=a.ast", "Type_Expr=b.ast"]
        = .ok (.generate s) ∧
      s.requests.map (·.category) = ["TypeExpr", "Type_Expr"] ∧ s.outDir ≠ "-" ∧
      s.Apart twoGrammars ∧
      (run .off ["-t", "rs", "-o", "out", "TypeExpr=a.ast", "Type_Expr=b.ast"] ⟨twoGrammars, "", ""⟩).1
        = 0 ∧
      ∃ r ∈ s.requests, ¬ s.Saved r twoGrammars
        (run .off ["-t", "rs", "-o", "out", "TypeExpr=a.ast", "Type_Expr=b.ast"]
          ⟨twoGrammars, "", ""⟩).2.files := by
  obtain ⟨s, hs, hargs⟩ : ∃ s : Settings,
      s = ⟨.rust, "Lox", [], "out", [⟨"TypeExpr", "a.ast"⟩, ⟨"Type_Expr", "b.ast"⟩]⟩ ∧
      Invocation.parse ["-t", "rs", "-o", "out", "TypeExpr=a.ast", "Type_Expr=b.ast"]
        = .ok (.generate s) :=
    ⟨_, rfl, by decide +kernel⟩
  have hrequests : s.requests = [⟨"TypeExpr", "a.ast"⟩, ⟨"Type_Expr", "b.ast"⟩] := by rw [hs]
  have hapart : s.Apart twoGrammars := by
    rw [hs]
    exact ⟨by decide, by decide, by decide +kernel⟩
  refine ⟨s, hargs, by rw [hrequests]; rfl, by rw [hs]; decide, hapart, by decide +kernel,
    ⟨"TypeExpr", "a.ast"⟩, by rw [hrequests]; exact List.mem_cons_self, fun given => ?_⟩
  obtain ⟨source, text, hsource, -, hemit, hread⟩ := given
  have hnode : twoGrammars.node? (twoGrammars.place "a.ast") = some (.file (.text "Nil :")) := by
    decide +kernel
  rw [hnode] at hsource
  cases hsource
  -- what the file holds is not what was emitted from the grammar
  have hreplaced : (emitSource s.printer "TypeExpr" "Nil :").result.toOption ≠
      ((run .off ["-t", "rs", "-o", "out", "TypeExpr=a.ast", "Type_Expr=b.ast"]
        ⟨twoGrammars, "", ""⟩).2.files.read (s.outPath "TypeExpr")).toOption := by
    rw [hs]
    decide +kernel
  refine hreplaced ?_
  rw [hemit, hread]
  rfl

/-- In C# the two categories keep their modules. -/
theorem run_saved_csharp :
    ∃ s, Invocation.parse ["-o", "out", "TypeExpr=a.ast", "Type_Expr=b.ast"] = .ok (.generate s) ∧
      s.outDir ≠ "-" ∧ s.Apart twoGrammars ∧
      (run .off ["-o", "out", "TypeExpr=a.ast", "Type_Expr=b.ast"] ⟨twoGrammars, "", ""⟩).1 = 0 ∧
      s.requests.length = 2 ∧ ∀ r ∈ s.requests, s.Saved r twoGrammars
        (run .off ["-o", "out", "TypeExpr=a.ast", "Type_Expr=b.ast"] ⟨twoGrammars, "", ""⟩).2.files := by
  obtain ⟨s, hs, hargs⟩ : ∃ s : Settings,
      s = ⟨.csharp, "Lox", [], "out", [⟨"TypeExpr", "a.ast"⟩, ⟨"Type_Expr", "b.ast"⟩]⟩ ∧
      Invocation.parse ["-o", "out", "TypeExpr=a.ast", "Type_Expr=b.ast"] = .ok (.generate s) :=
    ⟨_, rfl, by decide +kernel⟩
  have hout : s.outDir ≠ "-" := by
    rw [hs]
    decide
  have hapart : s.Apart twoGrammars := by
    rw [hs]
    exact ⟨by decide, by decide, by decide +kernel⟩
  have hexit : (run .off ["-o", "out", "TypeExpr=a.ast", "Type_Expr=b.ast"]
      ⟨twoGrammars, "", ""⟩).1 = 0 := by
    decide +kernel
  have hsaved := run_saved (w := ⟨twoGrammars, "", ""⟩) hargs hout hapart hexit
  exact ⟨s, hargs, hout, hapart, hexit, by rw [hs]; rfl, hsaved.2 (by rw [hs])⟩

end Saved

end VisitorNodes.Command
