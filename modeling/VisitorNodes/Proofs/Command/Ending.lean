import VisitorNodes.Command.Run
import VisitorNodes.Proofs.FileTree.Growth
/-!
# How turns end

A turn ends in one of five ways, and each fixes the files and the output after it (`Ending`). What a
turn or a run does to them is a case analysis of these; the reports of a run are left aside. The
files only ever grow, at the places that the requests are written to (`turns_grows`).
-/

namespace VisitorNodes.Command

open FileTree

/-! ## 1. One turn -/

section Turn

variable {s : Settings} {filter : LogFilter} {r : Request} {w : World}

/-- The grammar of a request can be read, and this is the text of its module. -/
def Emits (s : Settings) (r : Request) (files : FileTree) (text : String) : Prop :=
  ∃ source, files.read r.grammar = .ok source ∧
    (emitSource s.printer r.category source).result = .ok text

/-- **The ways in which a turn can end**: whether it succeeded, the files and the output. -/
inductive Ending (s : Settings) (r : Request) (w : World) : Bool → FileTree → String → Prop where
  | refused (h : ∀ text, ¬ Emits s r w.files text) : Ending s r w false w.files w.stdout
  | shown {text : String} (h : Emits s r w.files text) (hout : s.outDir = "-") :
      Ending s r w true w.files (w.stdout ++ text)
  | unmade {text : String} {fault : Fault} {files : FileTree} (h : Emits s r w.files text)
      (hout : s.outDir ≠ "-") (hmake : w.files.makeDirs s.outDir = (.error fault, files)) :
      Ending s r w false files w.stdout
  | unwritten {text : String} {fault : Fault} {made : FileTree} (h : Emits s r w.files text)
      (hout : s.outDir ≠ "-") (hmake : w.files.makeDirs s.outDir = (.ok (), made))
      (hwrite : made.write (s.outPath r.category) text = .error fault) :
      Ending s r w false made w.stdout
  | written {text : String} {made files : FileTree} (h : Emits s r w.files text)
      (hout : s.outDir ≠ "-") (hmake : w.files.makeDirs s.outDir = (.ok (), made))
      (hwrite : made.write (s.outPath r.category) text = .ok files) :
      Ending s r w true files w.stdout

@[simp] theorem World.report_files (w : World) (ls : List String) :
    (w.report ls).files = w.files := rfl

@[simp] theorem World.report_stdout (w : World) (ls : List String) :
    (w.report ls).stdout = w.stdout := rfl

/-- The plan is to fail if there is no module, and else to show it or to save it. -/
theorem plan_cases (s : Settings) (r : Request) (w : World) :
    ((∃ causes, (s.plan r ((w.files.read r.grammar).mapError (·.message))).result = .fail causes) ∧
      ∀ text, ¬ Emits s r w.files text) ∨
    ∃ text, Emits s r w.files text ∧
      (s.plan r ((w.files.read r.grammar).mapError (·.message))).result =
        if s.outDir = "-" then .display text
        else .save s.outDir (s.outPath r.category) text := by
  cases hread : w.files.read r.grammar with
  | error fault =>
    refine .inl ⟨⟨_, rfl⟩, fun text given => ?_⟩
    obtain ⟨source, hsource, _⟩ := given
    rw [hread] at hsource
    cases hsource
  | ok source =>
    have hgrammar : (Except.ok source : Except Fault String).mapError (·.message) = .ok source := rfl
    rw [hgrammar]
    unfold Settings.plan
    simp only [Traced.andThen_result]
    cases hemit : (emitSource s.printer r.category source).result with
    | error rejection =>
      refine .inl ⟨⟨_, rfl⟩, fun text given => ?_⟩
      obtain ⟨source', hsource, htext⟩ := given
      rw [hread] at hsource
      cases hsource
      rw [hemit] at htext
      cases htext
    | ok text =>
      refine .inr ⟨text, ⟨source, hread, hemit⟩, ?_⟩
      by_cases hout : s.outDir = "-"
      · simp only [if_pos hout, Traced.silent_result]
      · simp only [if_neg hout, Traced.silent_result]

/-- **Every turn ends in one of these ways.** -/
theorem turn_ending (s : Settings) (filter : LogFilter) (r : Request) (w : World) :
    Ending s r w (turn s filter r w).1 (turn s filter r w).2.files (turn s filter r w).2.stdout := by
  unfold turn
  rcases plan_cases s r w with ⟨⟨causes, hplan⟩, hnone⟩ | ⟨text, hemits, hplan⟩
  · simp only [hplan, Turn.perform, World.report_files, World.report_stdout]
    exact .refused hnone
  · by_cases hout : s.outDir = "-"
    · simp only [hplan, if_pos hout, Turn.perform, World.report_files, World.report_stdout]
      exact .shown hemits hout
    · simp only [hplan, if_neg hout, Turn.perform, World.report_files]
      rcases hmake : w.files.makeDirs s.outDir with ⟨fault | _, made⟩
      · exact .unmade hemits hout hmake
      · cases hwrite : made.write (s.outPath r.category) text with
        | error fault =>
          simp only [hwrite]
          exact .unwritten hemits hout hmake hwrite
        | ok files =>
          simp only [hwrite]
          exact .written hemits hout hmake hwrite

/-- The files grow at the place of the request, however its turn ends. -/
theorem Ending.grows {succeeded : Bool} {files : FileTree} {out : String}
    (h : Ending s r w succeeded files out) :
    Grows (· = w.files.place (s.outPath r.category)) w.files files := by
  have hmade := growsDirs_makeDirs w.files s.outDir
  cases h with
  | refused => exact .refl _ _
  | shown => exact .refl _ _
  | unmade _ _ hmake =>
    rw [hmake] at hmade
    exact hmade.mono fun _ => False.elim
  | unwritten _ _ hmake _ =>
    rw [hmake] at hmade
    exact hmade.mono fun _ => False.elim
  | written _ _ hmake hwrite =>
    rw [hmake] at hmade
    have hwritten := grows_write hwrite
    rw [hmade.place] at hwritten
    exact (hmade.mono fun _ => False.elim).trans hwritten

/-- A turn that succeeds on a directory leaves the module in the file of the category. -/
theorem Ending.saved {files : FileTree} {out : String} (h : Ending s r w true files out)
    (hout : s.outDir ≠ "-") :
    ∃ text, Emits s r w.files text ∧ files.read (s.outPath r.category) = .ok text := by
  cases h with
  | shown _ hdash => exact absurd hdash hout
  | written hemits _ _ hwrite => exact ⟨_, hemits, read_of_write hwrite⟩

end Turn

/-! ## 2. Several turns -/

variable (s : Settings) (filter : LogFilter)

theorem turns_cons (r : Request) (rs : List Request) (w : World) :
    turns s filter (r :: rs) w =
      ((if (turn s filter r w).1 then (turns s filter rs (turn s filter r w).2).1
        else (turns s filter rs (turn s filter r w).2).1 + 1),
        (turns s filter rs (turn s filter r w).2).2) := rfl

/-- Later turns are taken on what the earlier ones left. -/
theorem turns_append (before after : List Request) (w : World) :
    turns s filter (before ++ after) w =
      ((turns s filter before w).1 + (turns s filter after (turns s filter before w).2).1,
        (turns s filter after (turns s filter before w).2).2) := by
  induction before generalizing w with
  | nil => simp [turns]
  | cons r rs ih =>
    rw [List.cons_append, turns_cons, turns_cons, ih]
    split
    · rfl
    · simp only [Prod.mk.injEq, and_true]
      omega

/-- **Over turns the files grow at the places of their requests.** -/
theorem turns_grows (rs : List Request) (w : World) :
    Grows (fun p => ∃ r ∈ rs, p = w.files.place (s.outPath r.category)) w.files
      (turns s filter rs w).2.files := by
  induction rs generalizing w with
  | nil => exact .refl _ _
  | cons r rs ih =>
    have hfirst := (turn_ending s filter r w).grows
    have hrest := ih (turn s filter r w).2
    simp only [hfirst.place] at hrest
    rw [turns_cons]
    refine (hfirst.mono fun p hp => ⟨r, List.mem_cons_self, hp⟩).trans (hrest.mono fun p hp => ?_)
    obtain ⟨r', hr', hp⟩ := hp
    exact ⟨r', List.mem_cons_of_mem _ hr', hp⟩

theorem run_eq_generate {arguments : List String} {s : Settings}
    (h : Invocation.parse arguments = .ok (.generate s)) (filter : LogFilter) (w : World) :
    run filter arguments w = generate s filter w := by
  unfold run
  rw [h]

/-- A run with requests takes all their turns, and tells how many failed if any did. -/
theorem generate_eq {s : Settings} {filter : LogFilter} {w : World} (h : s.requests ≠ []) :
    generate s filter w =
      if (turns s filter s.requests w).1 = 0 then (0, (turns s filter s.requests w).2)
      else (1, (turns s filter s.requests w).2.report
        [summary (turns s filter s.requests w).1 s.requests.length]) := by
  unfold generate
  rw [if_neg h]
  rcases turns s filter s.requests w with ⟨_ | failed, after⟩
  · rfl
  · rw [if_neg (Nat.succ_ne_zero failed)]
    rfl

/-- A run exits with 0 when no turn failed, and reports nothing more. -/
theorem generate_of_exit_zero {s : Settings} {filter : LogFilter} {w : World}
    (h : (generate s filter w).1 = 0) :
    (turns s filter s.requests w).1 = 0 ∧
      (generate s filter w).2 = (turns s filter s.requests w).2 := by
  by_cases hnone : s.requests = []
  · rw [generate, if_pos hnone] at h
    cases h
  · rw [generate_eq hnone] at h ⊢
    split at h
    · rename_i hzero
      rw [if_pos hzero]
      exact ⟨hzero, rfl⟩
    · cases h

end VisitorNodes.Command
