import VisitorNodes.Proofs.Command.Ending
import VisitorNodes.Proofs.Command.Refusal
import VisitorNodes.Proofs.Command.Saved
import VisitorNodes.Proofs.Command.Shown
import VisitorNodes.Proofs.FileTree.Directories
import Mathlib.Data.List.Infix
/-!
# The order of requests

Requests are independent in a world if they write to different files and neither's turn changes how
the grammar of the other reads (`Settings.Independent`). What turns of such requests leave is said
without their order (`Reached`): the files of before, if no request has a module; else the directories
as far as they could be made, and in them the modules that could be written. Every turn keeps it
(`Reached.step`), as making the directories again changes nothing. So independent requests can be
taken in any order (`run_reordered`).
-/

namespace VisitorNodes.Command

open FileTree

/-! ## 1. Independent requests -/

/-- Two requests do not meet in a world: they have different files, and each one's grammar reads the
same, with the same fault if it has one, before and after the turn of the other. -/
structure Settings.Independent (s : Settings) (filter : LogFilter) (w : World) (a b : Request) :
    Prop where
  apart : w.files.place (s.outPath a.category) ≠ w.files.place (s.outPath b.category)
  first : (turn s filter b w).2.files.read a.grammar = w.files.read a.grammar
  second : (turn s filter a w).2.files.read b.grammar = w.files.read b.grammar

/-- The requests whose turns fail. -/
def failed (s : Settings) (filter : LogFilter) : List Request → World → List Request
  | [], _ => []
  | r :: rs, w =>
    if (turn s filter r w).1 then failed s filter rs (turn s filter r w).2
    else r :: failed s filter rs (turn s filter r w).2

section Failed

variable (s : Settings) (filter : LogFilter)

theorem failed_append (before after : List Request) (w : World) :
    failed s filter (before ++ after) w
      = failed s filter before w ++ failed s filter after (turns s filter before w).2 := by
  induction before generalizing w with
  | nil => rfl
  | cons r rs ih =>
    rw [List.cons_append, failed, failed, turns_cons, ih]
    split
    · rfl
    · rw [List.cons_append]

theorem length_failed (rs : List Request) (w : World) :
    (failed s filter rs w).length = (turns s filter rs w).1 := by
  induction rs generalizing w with
  | nil => rfl
  | cons r rs ih =>
    rw [failed, turns_cons]
    split
    · exact ih _
    · rw [List.length_cons, ih]

end Failed

variable {s : Settings} {filter : LogFilter}

theorem Settings.Independent.symm {w : World} {a b : Request} (h : s.Independent filter w a b) :
    s.Independent filter w b a := ⟨h.apart.symm, h.second, h.first⟩

/-! ## 2. What a turn comes to -/

/-- The module of a request, which can be written to its file among the directories made. -/
def Settings.Writes (s : Settings) (r : Request) (files made : FileTree) (text : String) : Prop :=
  Emits s r files text ∧ ∃ written, made.write (s.outPath r.category) text = .ok written

/-- The directories can be made, and the module can be written. -/
def Settings.Succeeds (s : Settings) (r : Request) (files : FileTree) : Prop :=
  ∃ made text, files.makeDirs s.outDir = (.ok (), made) ∧ s.Writes r files made text

theorem emits_unique {r : Request} {files : FileTree} {text text' : String}
    (h : Emits s r files text) (h' : Emits s r files text') : text' = text := by
  rw [← text?_eq_some_iff] at h h'
  exact Option.some.inj (h'.symm.trans h)

/-- A module depends on what the grammar reads as. -/
theorem emits_of_read {r : Request} {files files' : FileTree} {text : String}
    (hread : files'.read r.grammar = files.read r.grammar) (h : Emits s r files text) :
    Emits s r files' text := by
  obtain ⟨source, hsource, hemit⟩ := h
  exact ⟨source, hread.trans hsource, hemit⟩

theorem turn_succeeds_iff (filter : LogFilter) (hout : s.outDir ≠ "-") {r : Request} {w : World} :
    (turn s filter r w).1 = true ↔ s.Succeeds r w.files := by
  have hending := turn_ending s filter r w
  generalize (turn s filter r w).1 = succeeded at hending ⊢
  generalize (turn s filter r w).2.files = files at hending
  generalize (turn s filter r w).2.stdout = out at hending
  cases hending with
  | refused hnone =>
    refine iff_of_false Bool.false_ne_true fun given => ?_
    obtain ⟨made, text, -, hemits, -⟩ := given
    exact hnone text hemits
  | shown _ hdash => exact absurd hdash hout
  | unmade _ _ hmake =>
    refine iff_of_false Bool.false_ne_true fun given => ?_
    obtain ⟨made, text, hmake', -⟩ := given
    rw [hmake] at hmake'
    cases hmake'
  | unwritten hemits _ hmake hwrite =>
    refine iff_of_false Bool.false_ne_true fun given => ?_
    obtain ⟨made, text, hmake', hemits', written, hwritten⟩ := given
    rw [hmake] at hmake'
    cases hmake'
    rw [emits_unique hemits hemits', hwrite] at hwritten
    cases hwritten
  | written hemits _ hmake hwrite =>
    exact iff_of_true rfl ⟨_, _, hmake, hemits, _, hwrite⟩

/-! ## 3. What turns come to, in any order -/

/-- The directories that were made, with the modules of requests in their files. -/
structure Filled (s : Settings) (files made : FileTree) (done : List Request) (t : FileTree) :
    Prop where
  here : t.here = made.here
  written : ∀ r ∈ done, ∀ text, s.Writes r files made text →
    t.node? (made.place (s.outPath r.category)) = some (.file (.text text))
  kept : ∀ p, (∀ r ∈ done, ∀ text, s.Writes r files made text →
    made.place (s.outPath r.category) ≠ p) → t.node? p = made.node? p

namespace Filled

variable {files made t t' : FileTree} {done : List Request} {r : Request}

/-- No module was written yet. -/
theorem start (h : ∀ r ∈ done, ∀ text, ¬ Emits s r files text) : Filled s files made done made where
  here := rfl
  written r hr text hwrites := absurd hwrites.1 (h r hr text)
  kept _ _ := rfl

/-- Modules take the place of no directory. -/
theorem sameDirs (h : Filled s files made done t) : SameDirs made t where
  here := h.here
  dir_iff p := by
    by_cases hp : ∃ r ∈ done, ∃ text, s.Writes r files made text ∧
        made.place (s.outPath r.category) = p
    · obtain ⟨r, hr, text, hwrites, rfl⟩ := hp
      obtain ⟨-, -, hfile, -⟩ := store_eq_ok hwrites.2.choose_spec
      rw [h.written r hr text hwrites]
      exact iff_of_false (fun e => nomatch e) hfile
    · rw [h.kept p fun r hr text hwrites hplace => hp ⟨r, hr, text, hwrites, hplace⟩]

/-- A request without a module to write changes nothing. -/
theorem skip (h : Filled s files made done t) (hr : ∀ text, ¬ s.Writes r files made text) :
    Filled s files made (done ++ [r]) t where
  here := h.here
  written r' hr' text hwrites := by
    rcases List.mem_append.mp hr' with hr' | hr'
    · exact h.written r' hr' text hwrites
    · cases List.mem_singleton.mp hr'
      exact absurd hwrites (hr text)
  kept p hp := h.kept p fun r' hr' => hp r' (List.mem_append_left _ hr')

/-- **A module is written to its file**, where no request before it has its own. -/
theorem write (h : Filled s files made done t) {text : String}
    (hwrites : s.Writes r files made text)
    (hapart : ∀ r' ∈ done,
      made.place (s.outPath r'.category) ≠ made.place (s.outPath r.category))
    (hwrite : t.write (s.outPath r.category) text = .ok t') :
    Filled s files made (done ++ [r]) t' := by
  obtain ⟨-, hroot, -, rfl⟩ := store_eq_ok hwrite
  rw [place_of_here_eq h.here] at hroot ⊢
  refine ⟨h.here, fun r' hr' text' hwrites' => ?written, fun p hp => ?kept⟩
  case written =>
    rw [node?_put t hroot]
    rcases List.mem_append.mp hr' with hr' | hr'
    · rw [if_neg (hapart r' hr').symm]
      exact h.written r' hr' text' hwrites'
    · cases List.mem_singleton.mp hr'
      rw [if_pos rfl, emits_unique hwrites.1 hwrites'.1]
  case kept =>
    have hself := hp r (List.mem_append_right _ (List.mem_singleton_self r)) text hwrites
    rw [node?_put t hroot, if_neg hself]
    exact h.kept p fun r' hr' => hp r' (List.mem_append_left _ hr')

theorem congr {done' : List Request} (h : Filled s files made done t)
    (hmem : ∀ r, r ∈ done' ↔ r ∈ done) : Filled s files made done' t where
  here := h.here
  written r hr := h.written r ((hmem r).mp hr)
  kept p hp := h.kept p fun r hr => hp r ((hmem r).mpr hr)

/-- What is filled alike looks the same. -/
theorem same (h : Filled s files made done t) (h' : Filled s files made done t') : Same t t' where
  here := h'.here.trans h.here.symm
  node? p := by
    by_cases hp : ∃ r ∈ done, ∃ text, s.Writes r files made text ∧
        made.place (s.outPath r.category) = p
    · obtain ⟨r, hr, text, hwrites, rfl⟩ := hp
      rw [h'.written r hr text hwrites, h.written r hr text hwrites]
    · have hnone : ∀ r ∈ done, ∀ text, s.Writes r files made text →
          made.place (s.outPath r.category) ≠ p :=
        fun r hr text hwrites hplace => hp ⟨r, hr, text, hwrites, hplace⟩
      rw [h'.kept p hnone, h.kept p hnone]

end Filled

/-- **What the turns of requests come to**, whatever their order was. -/
inductive Reached (s : Settings) (files : FileTree) (done : List Request) : FileTree → Prop where
  | untouched (h : ∀ r ∈ done, ∀ text, ¬ Emits s r files text) : Reached s files done files
  | unmade {fault : Fault} {made : FileTree} (h : ∃ r ∈ done, ∃ text, Emits s r files text)
      (hmake : files.makeDirs s.outDir = (.error fault, made)) : Reached s files done made
  | filled {made t : FileTree} (h : ∃ r ∈ done, ∃ text, Emits s r files text)
      (hmake : files.makeDirs s.outDir = (.ok (), made)) (hfilled : Filled s files made done t) :
      Reached s files done t

namespace Reached

variable {files t t' made : FileTree} {done done' : List Request} {r : Request}

/-- If directories can be made now, they could be made at first and stand as they were made. -/
theorem makeDirs_ok (h : Reached s files done t) (hmake : t.makeDirs s.outDir = (.ok (), t')) :
    ∃ made, files.makeDirs s.outDir = (.ok (), made) ∧ Filled s files made done t' := by
  cases h with
  | untouched hnone => exact ⟨t', hmake, .start hnone⟩
  | unmade _ hmake' =>
    obtain ⟨fault, hagain⟩ := makeDirs_failed hmake'
    rw [hagain] at hmake
    cases hmake
  | filled _ hmake' hfilled =>
    rw [FileTree.makeDirs_ok hmake' hfilled.sameDirs] at hmake
    cases hmake
    exact ⟨_, hmake', hfilled⟩

/-- If they cannot be made now, they could not be made at first. -/
theorem makeDirs_error {fault : Fault} (h : Reached s files done t)
    (hmake : t.makeDirs s.outDir = (.error fault, t')) :
    ∃ fault', files.makeDirs s.outDir = (.error fault', t') := by
  cases h with
  | untouched hnone => exact ⟨fault, hmake⟩
  | unmade _ hmake' =>
    obtain ⟨fault', hagain⟩ := makeDirs_failed hmake'
    rw [hagain] at hmake
    cases hmake
    exact ⟨_, hmake'⟩
  | filled _ hmake' hfilled =>
    rw [FileTree.makeDirs_ok hmake' hfilled.sameDirs] at hmake
    cases hmake

/-- A request without a module changes nothing. -/
theorem skip (h : Reached s files done t) (hnone : ∀ text, ¬ Emits s r files text) :
    Reached s files (done ++ [r]) t := by
  have hmem : ∀ r' ∈ done ++ [r], r' ∈ done ∨ r' = r := fun r' hr' =>
    (List.mem_append.mp hr').imp_right List.mem_singleton.mp
  have hsome : (∃ r ∈ done, ∃ text, Emits s r files text) →
      ∃ r' ∈ done ++ [r], ∃ text, Emits s r' files text :=
    fun ⟨r', hr', hemits⟩ => ⟨r', List.mem_append_left _ hr', hemits⟩
  cases h with
  | untouched h =>
    refine .untouched fun r' hr' => ?_
    rcases hmem r' hr' with hr' | rfl
    · exact h r' hr'
    · exact hnone
  | unmade h hmake => exact .unmade (hsome h) hmake
  | filled h hmake hfilled =>
    exact .filled (hsome h) hmake (hfilled.skip fun text hwrites => hnone text hwrites.1)

/-- **One more turn.** A request whose grammar reads as at first, and whose file none of the others
has, succeeds or fails as it would at first. -/
theorem step (filter : LogFilter) (hout : s.outDir ≠ "-") {w : World}
    (h : Reached s files done w.files)
    (hread : w.files.read r.grammar = files.read r.grammar)
    (hapart : ∀ r' ∈ done,
      files.place (s.outPath r'.category) ≠ files.place (s.outPath r.category)) :
    Reached s files (done ++ [r]) (turn s filter r w).2.files ∧
      ((turn s filter r w).1 = true ↔ s.Succeeds r files) := by
  have hlast : r ∈ done ++ [r] := List.mem_append_right _ (List.mem_singleton_self r)
  have hending := turn_ending s filter r w
  generalize (turn s filter r w).1 = succeeded at hending ⊢
  generalize (turn s filter r w).2.files = after at hending ⊢
  generalize (turn s filter r w).2.stdout = out at hending
  cases hending with
  | refused hnone =>
    have hnone : ∀ text, ¬ Emits s r files text := fun text hemits =>
      hnone text (emits_of_read hread hemits)
    refine ⟨h.skip hnone, iff_of_false Bool.false_ne_true fun given => ?_⟩
    obtain ⟨made, text, -, hemits, -⟩ := given
    exact hnone text hemits
  | shown _ hdash => exact absurd hdash hout
  | unmade hemits _ hmake =>
    obtain ⟨fault', hmake'⟩ := h.makeDirs_error hmake
    refine ⟨.unmade ⟨r, hlast, _, emits_of_read hread.symm hemits⟩ hmake',
      iff_of_false Bool.false_ne_true fun given => ?_⟩
    obtain ⟨made, text, hmade, -⟩ := given
    rw [hmake'] at hmade
    cases hmade
  | @unwritten text _ _ hemits _ hmake hwrite =>
    obtain ⟨made, hmake', hfilled⟩ := h.makeDirs_ok hmake
    have hemits : Emits s r files text := emits_of_read hread.symm hemits
    have hunwritten : ∀ text', ¬ s.Writes r files made text' := by
      intro text' hwrites
      obtain ⟨hemits', written, hwritten⟩ := hwrites
      rw [emits_unique hemits hemits'] at hwritten
      obtain ⟨written', hwritten'⟩ := hfilled.sameDirs.store hwritten
      exact nomatch hwrite.symm.trans hwritten'
    refine ⟨.filled ⟨r, hlast, _, hemits⟩ hmake' (hfilled.skip hunwritten),
      iff_of_false Bool.false_ne_true fun given => ?_⟩
    obtain ⟨made', text', hmade, hwrites⟩ := given
    rw [hmake'] at hmade
    cases hmade
    exact hunwritten text' hwrites
  | @written text _ _ hemits _ hmake hwrite =>
    obtain ⟨made, hmake', hfilled⟩ := h.makeDirs_ok hmake
    have hwrites : s.Writes r files made text :=
      ⟨emits_of_read hread.symm hemits, hfilled.sameDirs.symm.store hwrite⟩
    have hplace : ∀ path, made.place path = files.place path := by
      have hgrows := growsDirs_makeDirs files s.outDir
      rw [hmake'] at hgrows
      exact hgrows.place
    simp only [← hplace] at hapart
    exact ⟨.filled ⟨r, hlast, _, hwrites.1⟩ hmake' (hfilled.write hwrites hapart hwrite),
      iff_of_true rfl ⟨made, text, hmake', hwrites⟩⟩

/-- Only which requests were taken matters. -/
theorem congr (h : Reached s files done t) (hmem : ∀ r, r ∈ done' ↔ r ∈ done) :
    Reached s files done' t := by
  have hsome : (∃ r ∈ done, ∃ text, Emits s r files text) →
      ∃ r ∈ done', ∃ text, Emits s r files text :=
    fun ⟨r, hr, hemits⟩ => ⟨r, (hmem r).mpr hr, hemits⟩
  cases h with
  | untouched h => exact .untouched fun r hr => h r ((hmem r).mp hr)
  | unmade h hmake => exact .unmade (hsome h) hmake
  | filled h hmake hfilled => exact .filled (hsome h) hmake (hfilled.congr hmem)

/-- **Files that are reached look the same.** -/
theorem same (h : Reached s files done t) (h' : Reached s files done t') : Same t t' := by
  cases h with
  | untouched hnone =>
    cases h' with
    | untouched => exact .refl _
    | unmade hsome | filled hsome =>
      obtain ⟨r, hr, text, hemits⟩ := hsome
      exact absurd hemits (hnone r hr text)
  | unmade hsome hmake =>
    cases h' with
    | untouched hnone =>
      obtain ⟨r, hr, text, hemits⟩ := hsome
      exact absurd hemits (hnone r hr text)
    | unmade _ hmake' =>
      cases hmake.symm.trans hmake'
      exact .refl _
    | filled _ hmake' => cases hmake.symm.trans hmake'
  | filled hsome hmake hfilled =>
    cases h' with
    | untouched hnone =>
      obtain ⟨r, hr, text, hemits⟩ := hsome
      exact absurd hemits (hnone r hr text)
    | unmade _ hmake' => cases hmake.symm.trans hmake'
    | filled _ hmake' hfilled' =>
      cases hmake.symm.trans hmake'
      exact hfilled.same hfilled'

end Reached

/-! ## 4. Several turns -/

/-- At its turn each grammar reads as it did at first. -/
def KeepsGrammars (s : Settings) (filter : LogFilter) (rs : List Request) (w : World) : Prop :=
  ∀ before r after, rs = before ++ r :: after →
    (turns s filter before w).2.files.read r.grammar = w.files.read r.grammar

/-- **What turns come to.** If each grammar reads at its turn as it did at first and all files are
different, then what the requests come to is reached, and those fail that would fail at first. -/
theorem turns_reached (hout : s.outDir ≠ "-") {w : World} {rs : List Request}
    (hreads : KeepsGrammars s filter rs w)
    (hapart : rs.Pairwise fun a b =>
      w.files.place (s.outPath a.category) ≠ w.files.place (s.outPath b.category)) :
    Reached s w.files rs (turns s filter rs w).2.files ∧
      failed s filter rs w = rs.filter fun r => !(turn s filter r w).1 := by
  induction rs using List.reverseRecOn with
  | nil => exact ⟨.untouched fun r hr => absurd hr List.not_mem_nil, rfl⟩
  | append_singleton front r ih =>
    obtain ⟨hfront, -, hlast⟩ := List.pairwise_append.mp hapart
    obtain ⟨hreached, hfailed⟩ := ih
      (fun before r' after hsplit => hreads before r' (after ++ [r]) (by simp [hsplit])) hfront
    obtain ⟨hturn, hsucceeds⟩ := hreached.step filter hout (hreads front r [] rfl)
      fun r' hr' => hlast r' hr' r (List.mem_singleton_self r)
    rw [← turn_succeeds_iff filter hout, ← Bool.eq_iff_iff] at hsucceeds
    refine ⟨?reached, ?failed⟩
    case reached =>
      rw [turns_append]
      exact hturn
    case failed =>
      rw [failed_append, hfailed, List.filter_append, List.filter_singleton, failed, hsucceeds]
      cases (turn s filter r w).1 <;> rfl

/-- **Turns of requests in two orders**, in both of which the grammars read as at first, come to the
same. -/
theorem turns_reordered (hout : s.outDir ≠ "-") {rs rs' : List Request} {w : World}
    (hperm : rs.Perm rs') (hreads : KeepsGrammars s filter rs w)
    (hreads' : KeepsGrammars s filter rs' w)
    (hapart : rs.Pairwise fun a b =>
      w.files.place (s.outPath a.category) ≠ w.files.place (s.outPath b.category)) :
    Same (turns s filter rs w).2.files (turns s filter rs' w).2.files ∧
      (failed s filter rs w).Perm (failed s filter rs' w) := by
  obtain ⟨hreached, hfailed⟩ := turns_reached hout hreads hapart
  obtain ⟨hreached', hfailed'⟩ := turns_reached hout hreads'
    ((hperm.pairwise_iff fun h => h.symm).mp hapart)
  rw [hfailed, hfailed']
  exact ⟨hreached.same (hreached'.congr fun r => hperm.mem_iff), hperm.filter _⟩

/-- The turns of two independent requests leave the grammar of the second one as it was. -/
theorem Settings.Independent.keepsGrammars {w : World} {a b : Request}
    (h : s.Independent filter w a b) : KeepsGrammars s filter [a, b] w := by
  intro before r after hsplit
  cases before with
  | nil => rfl
  | cons a' before =>
    cases before with
    | nil =>
      cases hsplit
      exact h.second
    | cons b' before => exact absurd (congrArg List.length hsplit) (by simp)

/-- So do the turns of requests that are independent all the way. -/
theorem keepsGrammars_of_independent {rs : List Request} {w : World}
    (h : ∀ before, before <+: rs →
      rs.Pairwise (s.Independent filter (turns s filter before w).2)) :
    KeepsGrammars s filter rs w := by
  suffices hlater : ∀ before after, rs = before ++ after → ∀ r ∈ after,
      (turns s filter before w).2.files.read r.grammar = w.files.read r.grammar from
    fun before r after hsplit => hlater before (r :: after) hsplit r List.mem_cons_self
  intro before
  induction before using List.reverseRecOn with
  | nil => exact fun _ _ _ _ => rfl
  | append_singleton front b ih =>
    intro after hsplit r hr
    rw [List.append_assoc, List.singleton_append] at hsplit
    have hpairs := h front ⟨b :: after, hsplit.symm⟩
    rw [hsplit] at hpairs
    have hpair := List.rel_of_pairwise_cons (List.pairwise_append.mp hpairs).2.1 hr
    rw [turns_append]
    exact hpair.second.trans (ih (b :: after) hsplit r (List.mem_cons_of_mem b hr))

/-! ## 5. Runs -/

/-- A run exits with 0 if it has requests and none of them failed. -/
theorem generate_exit (s : Settings) (filter : LogFilter) (w : World) :
    (generate s filter w).1 =
      if s.requests = [] ∨ (turns s filter s.requests w).1 ≠ 0 then 1 else 0 := by
  by_cases hnone : s.requests = []
  · rw [generate, if_pos hnone, if_pos (.inl hnone)]
  · rw [generate_eq hnone]
    by_cases hzero : (turns s filter s.requests w).1 = 0
    · rw [if_pos hzero, if_neg (not_or.mpr ⟨hnone, not_not_intro hzero⟩)]
    · rw [if_neg hzero, if_pos (.inr hzero)]

/-- **The order of independent requests does not matter**, in a run that writes into a directory.
Two requests that are independent in a world can change places: the files look the same after both
turns, and the same turns fail. If the requests of a run are independent in every world that it goes
through, and that the run with reordered requests goes through, then both runs leave the same files
and end with the same exit code, and the same requests fail. Requests whose categories hold no slash
are apart if their paths of output are. -/
theorem run_reordered (hout : s.outDir ≠ "-") :
    (∀ w a b, s.Independent filter w a b →
      Same (turns s filter [a, b] w).2.files (turns s filter [b, a] w).2.files ∧
      (failed s filter [a, b] w).Perm (failed s filter [b, a] w)) ∧
    (∀ arguments arguments' requests w,
      Invocation.parse arguments = .ok (.generate s) →
      Invocation.parse arguments' = .ok (.generate { s with requests := requests }) →
      s.requests.Perm requests →
      (∀ before, before <+: s.requests ∨ before <+: requests →
        s.requests.Pairwise (s.Independent filter (turns s filter before w).2)) →
      Same (run filter arguments w).2.files (run filter arguments' w).2.files ∧
      (run filter arguments w).1 = (run filter arguments' w).1 ∧
      (failed s filter s.requests w).Perm (failed s filter requests w)) ∧
    (∀ (files : FileTree) a b, '/' ∉ a.toList → '/' ∉ b.toList → s.outPath a ≠ s.outPath b →
      files.place (s.outPath a) ≠ files.place (s.outPath b)) := by
  refine ⟨fun w a b hpair => ?pair, fun arguments arguments' requests w hargs hargs' hperm h => ?run,
    fun files a b ha hb hpaths => ?apart⟩
  case pair =>
    exact turns_reordered hout (.swap b a []) hpair.keepsGrammars hpair.symm.keepsGrammars
      (List.pairwise_pair.mpr hpair.apart)
  case run =>
    have hreads := keepsGrammars_of_independent fun before hbegins => h before (.inl hbegins)
    have hreads' : KeepsGrammars s filter requests w :=
      keepsGrammars_of_independent fun before hbegins =>
        (hperm.pairwise_iff Settings.Independent.symm).mp (h before (.inr hbegins))
    obtain ⟨hfiles, hfailed⟩ := turns_reordered hout hperm hreads hreads'
      ((h [] (.inl List.nil_prefix)).imp fun hpair => hpair.apart)
    have hcount := hfailed.length_eq
    rw [length_failed, length_failed] at hcount
    have hnone : s.requests = [] ↔ requests = [] := by
      rw [← List.length_eq_zero_iff, ← List.length_eq_zero_iff, hperm.length_eq]
    have hend := turns_agrees_generate s filter w
    have hend' := turns_agrees_generate { s with requests := requests } filter w
    rw [turns_requests] at hend'
    rw [run_eq_generate hargs, run_eq_generate hargs', hend.files, hend'.files]
    refine ⟨hfiles, ?_, hfailed⟩
    simp only [generate_exit, turns_requests, hcount, hnone]
  case apart =>
    refine place_outPath_ne ha hb fun hnames => hpaths ?_
    rw [Settings.outPath, hnames, Settings.outPath]

instance (s : Settings) (filter : LogFilter) (w : World) (a b : Request) :
    Decidable (s.Independent filter w a b) :=
  decidable_of_iff
    (w.files.place (s.outPath a.category) ≠ w.files.place (s.outPath b.category) ∧
      (turn s filter b w).2.files.read a.grammar = w.files.read a.grammar ∧
      (turn s filter a w).2.files.read b.grammar = w.files.read b.grammar)
    ⟨fun h => ⟨h.1, h.2.1, h.2.2⟩, fun h => ⟨h.apart, h.first, h.second⟩⟩

/-- Three categories, one of them with a malformed line, from the last to the first. -/
theorem run_reordered_malformed :
    ∃ s requests,
      Invocation.parse ["-o", "out", "Expr=e.ast", "Stmt=s.ast", "Type=t.ast"]
        = .ok (.generate s) ∧
      Invocation.parse ["-o", "out", "Type=t.ast", "Stmt=s.ast", "Expr=e.ast"]
        = .ok (.generate { s with requests := requests }) ∧
      s.outDir ≠ "-" ∧ s.requests.Perm requests ∧
      (∀ before, before <+: s.requests ∨ before <+: requests →
        s.requests.Pairwise (s.Independent .off (turns s .off before ⟨threeGrammars, "", ""⟩).2)) ∧
      Same
        (run .off ["-o", "out", "Expr=e.ast", "Stmt=s.ast", "Type=t.ast"]
          ⟨threeGrammars, "", ""⟩).2.files
        (run .off ["-o", "out", "Type=t.ast", "Stmt=s.ast", "Expr=e.ast"]
          ⟨threeGrammars, "", ""⟩).2.files := by
  obtain ⟨s, hs, hargs⟩ : ∃ s : Settings, s = ⟨.csharp, "Lox", [], "out",
      [⟨"Expr", "e.ast"⟩, ⟨"Stmt", "s.ast"⟩, ⟨"Type", "t.ast"⟩]⟩ ∧
      Invocation.parse ["-o", "out", "Expr=e.ast", "Stmt=s.ast", "Type=t.ast"]
        = .ok (.generate s) :=
    ⟨_, rfl, by decide +kernel⟩
  have hargs' : Invocation.parse ["-o", "out", "Type=t.ast", "Stmt=s.ast", "Expr=e.ast"]
      = .ok (.generate { s with requests := s.requests.reverse }) := by
    rw [hs]
    decide +kernel
  have hout : s.outDir ≠ "-" := by
    rw [hs]
    decide
  have hworlds : ∀ before ∈ s.requests.inits ++ s.requests.reverse.inits,
      s.requests.Pairwise (s.Independent .off (turns s .off before ⟨threeGrammars, "", ""⟩).2) := by
    rw [hs]
    decide +kernel
  have hindependent : ∀ before, before <+: s.requests ∨ before <+: s.requests.reverse →
      s.requests.Pairwise (s.Independent .off (turns s .off before ⟨threeGrammars, "", ""⟩).2) := by
    intro before hbefore
    refine hworlds before (List.mem_append.mpr ?_)
    rwa [List.mem_inits, List.mem_inits]
  have hperm : s.requests.Perm s.requests.reverse := (List.reverse_perm _).symm
  exact ⟨s, s.requests.reverse, hargs, hargs', hout, hperm, hindependent,
    ((run_reordered hout).2.1 _ _ _ _ hargs hargs' hperm hindependent).1⟩

end VisitorNodes.Command
