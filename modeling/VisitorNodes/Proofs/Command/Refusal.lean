import VisitorNodes.Proofs.Command.Arguments
import VisitorNodes.Proofs.Command.Ending
import VisitorNodes.Proofs.Outcome
/-!
# Requests without a module

A request has no module if its grammar cannot be read as text, if its category has no name, or if a
line of its grammar is malformed (`Request.Refused`). Its turn fails before anything is made or
written, so only reports tell that it was taken (`turn_of_refused`). Reports do not matter to later
turns (`turn_agrees`), so all other turns go as they go without the request
(`run_without_refused`).
-/

namespace VisitorNodes.Command

open FileTree Grammar

/-! ## 1. Refused requests -/

/-- **Why there is no module for a request** on these files. -/
inductive Request.Refused (r : Request) (files : FileTree) : Prop where
  /-- The grammar cannot be read; bytes that are not text are one of the faults. -/
  | unreadable {fault : Fault} (h : files.read r.grammar = .error fault)
  | unnamed {source : String} (h : files.read r.grammar = .ok source)
      (hname : Category.Unnamed r.category)
  | malformed {source line : String} {d : Defect} (h : files.read r.grammar = .ok source)
      (hline : line ∈ Text.lines source) (hdefect : Variant.parse line = .error d)

/-- These are all the reasons, whatever the settings are. -/
theorem refused_iff (s : Settings) {r : Request} {files : FileTree} :
    r.Refused files ↔ ∀ text, ¬ Emits s r files text := by
  constructor
  · intro hrefused text given
    obtain ⟨source, hsource, hemit⟩ := given
    have houtcome := outcome_emit s.printer r.category (Text.lines source)
    rw [show (emit s.printer r.category (Text.lines source)).result = .ok text from hemit]
      at houtcome
    cases houtcome with
    | @printed variants hname hreads =>
      cases hrefused with
      | unreadable h =>
        rw [h] at hsource
        cases hsource
      | unnamed _ hunnamed => exact hname hunnamed
      | malformed h hline hdefect =>
        rw [h] at hsource
        cases hsource
        obtain ⟨k, hk, rfl⟩ := List.mem_iff_getElem.mp hline
        have hread := hreads.get hk (hreads.length_eq ▸ hk)
        cases hdefect.symm.trans hread
  · intro hnone
    cases hsource : files.read r.grammar with
    | error fault => exact .unreadable hsource
    | ok source =>
      have houtcome := outcome_emit s.printer r.category (Text.lines source)
      cases hemit : (emit s.printer r.category (Text.lines source)).result with
      | ok text => exact absurd ⟨source, hsource, hemit⟩ (hnone text)
      | error rejection =>
        rw [hemit] at houtcome
        cases houtcome with
        | unnamed hname => exact .unnamed hsource hname
        | malformed _ hfirst =>
          exact .malformed hsource (List.mem_of_getElem? hfirst.found) hfirst.defect

/-! ## 2. Worlds that differ in their reports -/

/-- The files and the output are the same in both worlds. -/
structure World.Agrees (w w' : World) : Prop where
  files : w'.files = w.files
  stdout : w'.stdout = w.stdout

namespace World.Agrees

variable {w w' w'' : World}

theorem refl (w : World) : w.Agrees w := ⟨rfl, rfl⟩

theorem trans (h : w.Agrees w') (h' : w'.Agrees w'') : w.Agrees w'' :=
  ⟨h'.files.trans h.files, h'.stdout.trans h.stdout⟩

theorem symm (h : w.Agrees w') : w'.Agrees w := ⟨h.files.symm, h.stdout.symm⟩

theorem report_left (h : w.Agrees w') (ls : List String) : (w.report ls).Agrees w' :=
  ⟨h.files, h.stdout⟩

theorem report_right (h : w.Agrees w') (ls : List String) : w.Agrees (w'.report ls) :=
  ⟨h.files, h.stdout⟩

end World.Agrees

variable {s : Settings} {filter : LogFilter} {w w' : World}

/-- What is left of a turn is carried out alike in both worlds. -/
theorem perform_agrees (r : Request) (t : Turn) (h : w.Agrees w') :
    (t.perform r w').1 = (t.perform r w).1 ∧ (t.perform r w).2.Agrees (t.perform r w').2 := by
  cases t with
  | fail causes => exact ⟨rfl, h⟩
  | display text => exact ⟨rfl, h.files, congrArg (· ++ text) h.stdout⟩
  | save directory path text =>
    simp only [Turn.perform, h.files]
    rcases w.files.makeDirs directory with ⟨fault | _, made⟩
    · exact ⟨rfl, rfl, h.stdout⟩
    · cases hwrite : made.write path text with
      | error fault =>
        simp only [hwrite, true_and]
        exact ⟨rfl, h.stdout⟩
      | ok files =>
        simp only [hwrite, true_and]
        exact ⟨rfl, h.stdout⟩

/-- **A turn goes alike in worlds that differ in their reports.** -/
theorem turn_agrees (r : Request) (h : w.Agrees w') :
    (turn s filter r w').1 = (turn s filter r w).1 ∧
      (turn s filter r w).2.Agrees (turn s filter r w').2 := by
  unfold turn
  simp only [h.files]
  generalize s.plan r ((w.files.read r.grammar).mapError (·.message)) = plan
  have hperform := perform_agrees r plan.result
    ((h.report_left (filter.log plan.events)).report_right (filter.log plan.events))
  generalize plan.result.perform r (w.report (filter.log plan.events)) = ending at hperform ⊢
  generalize plan.result.perform r (w'.report (filter.log plan.events)) = ending' at hperform ⊢
  obtain ⟨result, after⟩ := ending
  obtain ⟨result', after'⟩ := ending'
  obtain ⟨hresult, hafter⟩ := hperform
  simp only at hresult hafter
  subst hresult
  cases result' with
  | error causes => exact ⟨rfl, (hafter.report_left _).report_right _⟩
  | ok events => exact ⟨rfl, (hafter.report_left _).report_right _⟩

/-- **The turn of a refused request fails and only reports.** -/
theorem turn_of_refused {r : Request} (h : r.Refused w.files) :
    (turn s filter r w).1 = false ∧ w.Agrees (turn s filter r w).2 := by
  have hnone := (refused_iff s).mp h
  have hending := turn_ending s filter r w
  generalize (turn s filter r w).1 = succeeded at hending ⊢
  suffices hend : ∀ files out, Ending s r w succeeded files out →
      succeeded = false ∧ files = w.files ∧ out = w.stdout by
    obtain ⟨hfailed, hfiles, hout⟩ := hend _ _ hending
    exact ⟨hfailed, hfiles, hout⟩
  intro files out hend
  cases hend with
  | refused => exact ⟨rfl, rfl, rfl⟩
  | shown hemits => exact absurd hemits (hnone _)
  | unmade hemits => exact absurd hemits (hnone _)
  | unwritten hemits => exact absurd hemits (hnone _)
  | written hemits => exact absurd hemits (hnone _)

/-! ## 3. The turns of a run one by one -/

/-- The turns of requests one by one: whether each succeeded, and the world after it. -/
def trail (s : Settings) (filter : LogFilter) : List Request → World → List (Bool × World)
  | [], _ => []
  | r :: rs, w => turn s filter r w :: trail s filter rs (turn s filter r w).2

/-- Two turns with the same success, files and output. -/
def TurnAgrees (t t' : Bool × World) : Prop := t'.1 = t.1 ∧ t.2.Agrees t'.2

theorem length_trail (rs : List Request) (w : World) :
    (trail s filter rs w).length = rs.length := by
  induction rs generalizing w with
  | nil => rfl
  | cons r rs ih => rw [trail, List.length_cons, List.length_cons, ih]

theorem trail_append (before after : List Request) (w : World) :
    trail s filter (before ++ after) w
      = trail s filter before w ++ trail s filter after (turns s filter before w).2 := by
  induction before generalizing w with
  | nil => rfl
  | cons r rs ih => rw [List.cons_append, trail, trail, ih, turns_cons, List.cons_append]

/-- Requests have the same turns in worlds that differ in their reports. -/
theorem trail_agrees (rs : List Request) (h : w.Agrees w') :
    List.Forall₂ TurnAgrees (trail s filter rs w) (trail s filter rs w') := by
  induction rs generalizing w w' with
  | nil => exact .nil
  | cons r rs ih => exact .cons (turn_agrees r h) (ih (turn_agrees r h).2)

theorem turns_agrees (rs : List Request) (h : w.Agrees w') :
    (turns s filter rs w).2.Agrees (turns s filter rs w').2 := by
  induction rs generalizing w w' with
  | nil => exact h
  | cons r rs ih => exact ih (turn_agrees r h).2

/-- Which other requests there are does not matter to a turn. -/
theorem turn_requests (s : Settings) (requests : List Request) (r : Request) :
    turn { s with requests := requests } filter r w = turn s filter r w := rfl

theorem turns_requests (s : Settings) (requests rs : List Request) :
    turns { s with requests := requests } filter rs w = turns s filter rs w := by
  induction rs generalizing w with
  | nil => rfl
  | cons r rs ih => rw [turns_cons, turns_cons, turn_requests, ih]

theorem trail_requests (s : Settings) (requests rs : List Request) :
    trail { s with requests := requests } filter rs w = trail s filter rs w := by
  induction rs generalizing w with
  | nil => rfl
  | cons r rs ih => rw [trail, trail, turn_requests, ih]

/-! ## 4. Runs -/

/-- At its end a run only reports. -/
theorem turns_agrees_generate (s : Settings) (filter : LogFilter) (w : World) :
    (turns s filter s.requests w).2.Agrees (generate s filter w).2 := by
  by_cases hnone : s.requests = []
  · rw [generate, if_pos hnone, hnone]
    exact (World.Agrees.refl w).report_right _
  · rw [generate_eq hnone]
    split
    · exact .refl _
    · exact (World.Agrees.refl _).report_right _

/-- Without a refused request, the other turns leave the same files and the same output. -/
theorem turns_without_refused {before after : List Request} {r : Request}
    (h : r.Refused (turns s filter before w).2.files) :
    (turns s filter (before ++ r :: after) w).2.Agrees (turns s filter (before ++ after) w).2 := by
  rw [turns_append, turns_append, turns_cons]
  exact turns_agrees after (turn_of_refused h).2.symm

/-- **A refused request leaves no trace and does not disturb the others.** Its turn fails, and
leaves the files and the output as they are. All other turns are taken, and each succeeds, and
leaves files and output, as in the run whose arguments are the same but for that of the request. So
both runs end with the same files and the same output; the first one exits with 1. -/
theorem run_without_refused {arguments : List String}
    (hargs : Invocation.parse arguments = .ok (.generate s)) {before after : List Request}
    {r : Request} (hrequests : s.requests = before ++ r :: after)
    (hrefused : r.Refused (turns s filter before w).2.files) :
    (run filter arguments w).1 = 1 ∧
    ∃ front argument back, arguments = front ++ argument :: back ∧
      Request.parse argument = .ok r ∧
      Invocation.parse (front ++ back) = .ok (.generate { s with requests := before ++ after }) ∧
      (run filter arguments w).2.Agrees (run filter (front ++ back) w).2 ∧
      ∃ earlier failed later later', trail s filter s.requests w = earlier ++ failed :: later ∧
        failed.1 = false ∧ (turns s filter before w).2.Agrees failed.2 ∧
        trail { s with requests := before ++ after } filter (before ++ after) w
          = earlier ++ later' ∧
        earlier.length = before.length ∧ later.length = after.length ∧
        List.Forall₂ TurnAgrees later later' := by
  obtain ⟨hfailed, hsame⟩ : (turn s filter r (turns s filter before w).2).1 = false ∧
      (turns s filter before w).2.Agrees (turn s filter r (turns s filter before w).2).2 :=
    turn_of_refused hrefused
  obtain ⟨front, argument, back, harguments, hparse, hwithout⟩ := parse_without hargs hrequests
  refine ⟨?exit, front, argument, back, harguments, hparse, hwithout, ?agrees,
    trail s filter before w, turn s filter r (turns s filter before w).2,
    trail s filter after (turn s filter r (turns s filter before w).2).2,
    trail s filter after (turns s filter before w).2, ?trail, hfailed, hsame, ?trail',
    length_trail before w, length_trail after _, trail_agrees after hsame.symm⟩
  case exit =>
    have hsome : s.requests ≠ [] := by
      rw [hrequests]
      exact List.append_ne_nil_of_right_ne_nil _ (List.cons_ne_nil _ _)
    have hcount : (turns s filter s.requests w).1 ≠ 0 := by
      rw [hrequests, turns_append, turns_cons, hfailed]
      exact Nat.succ_ne_zero _
    rw [run_eq_generate hargs, generate_eq hsome, if_neg hcount]
  case agrees =>
    have hfirst := turns_agrees_generate s filter w
    have hsecond := turns_agrees_generate { s with requests := before ++ after } filter w
    rw [turns_requests] at hsecond
    rw [hrequests] at hfirst
    rw [run_eq_generate hargs, run_eq_generate hwithout]
    exact (hfirst.symm.trans (turns_without_refused hrefused)).trans hsecond
  case trail => rw [hrequests, trail_append, trail]
  case trail' => rw [trail_requests, trail_append]

/-- A tree with three grammars, the second of which has a line without a colon. -/
def threeGrammars : FileTree where
  here := ["work"]
  entries := [(["work"], .dir), (["work", "e.ast"], .file (.text "Neg : Expr operand\n")),
    (["work", "s.ast"], .file (.text "Nil :\nPrint Expr value\n")),
    (["work", "t.ast"], .file (.text "Named : Token name\n"))]

/-- Of three categories the second has a malformed line. -/
theorem run_without_refused_malformed :
    ∃ s before r after,
      Invocation.parse ["-o", "out", "Expr=e.ast", "Stmt=s.ast", "Type=t.ast"]
        = .ok (.generate s) ∧
      s.requests = before ++ r :: after ∧
      r.Refused (turns s .off before ⟨threeGrammars, "", ""⟩).2.files ∧
      (run .off ["-o", "out", "Expr=e.ast", "Stmt=s.ast", "Type=t.ast"]
        ⟨threeGrammars, "", ""⟩).1 = 1 := by
  have hargs : Invocation.parse ["-o", "out", "Expr=e.ast", "Stmt=s.ast", "Type=t.ast"]
      = .ok (.generate ⟨.csharp, "Lox", [], "out",
        [⟨"Expr", "e.ast"⟩, ⟨"Stmt", "s.ast"⟩, ⟨"Type", "t.ast"⟩]⟩) := by decide +kernel
  have hsource : (turns ⟨.csharp, "Lox", [], "out",
        [⟨"Expr", "e.ast"⟩, ⟨"Stmt", "s.ast"⟩, ⟨"Type", "t.ast"⟩]⟩ .off [⟨"Expr", "e.ast"⟩]
        ⟨threeGrammars, "", ""⟩).2.files.read "s.ast" = .ok "Nil :\nPrint Expr value\n" := by
    decide +kernel
  have hline : "Print Expr value" ∈ Text.lines "Nil :\nPrint Expr value\n" := by decide +kernel
  have hdefect : Variant.parse "Print Expr value" = .error .missingColon := by rfl
  have hrefused : Request.Refused ⟨"Stmt", "s.ast"⟩ _ := .malformed hsource hline hdefect
  exact ⟨_, [⟨"Expr", "e.ast"⟩], ⟨"Stmt", "s.ast"⟩, [⟨"Type", "t.ast"⟩], hargs, rfl, hrefused,
    (run_without_refused hargs rfl hrefused).1⟩

end VisitorNodes.Command
