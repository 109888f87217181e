import VisitorNodes.Proofs.FileTree.Growth
import Mathlib.Data.List.Basic
import Mathlib.Data.List.Induction
/-!
# Directories made again

Whether a path leads to a directory, and whether a file can be stored at it, is said by the
directories of a tree alone (`SameDirs`): files that were stored elsewhere do not matter. Making the
directories of a path again changes nothing. If all could be made, they are there (`makeDirs_ok`); if
one could not, the others stay and it still cannot (`makeDirs_failed`).

The second fact rests on how a path goes on from its parents: whatever can be entered by the names of
a path but the last can be entered by those of its parent (`Requires`), although only the path itself
keeps the `.` in it.
-/

namespace VisitorNodes.FileTree

variable {t t' made : FileTree} {p : Place} {names : List String}

/-! ## 1. Leading to a directory -/

theorem leadsToDir_iff :
    t.leadsToDir p names = true ↔
      ∃ found, t.walk p names = .ok found ∧ t.node? found = some .dir := by
  unfold leadsToDir
  cases t.walk p names <;> simp

theorem leadsToDir_nil : t.leadsToDir p [] = true ↔ t.node? p = some .dir :=
  decide_eq_true_iff

/-- The first name is looked up in a directory, and the others lead on from where it leads. -/
theorem leadsToDir_cons {name : String} :
    t.leadsToDir p (name :: names) = true ↔ t.node? p = some .dir ∧
      (name = "." ∨ name = ".." ∨ Path.isLongName name = false) ∧
      t.leadsToDir (Path.follow p name) names = true := by
  simp only [leadsToDir_iff]
  constructor
  · intro given
    obtain ⟨found, hwalk, hfound⟩ := given
    obtain ⟨hdir, hname, hrest⟩ := walk_cons hwalk
    exact ⟨hdir, hname, found, hrest, hfound⟩
  · intro given
    obtain ⟨hdir, hname, found, hrest, hfound⟩ := given
    exact ⟨found, (walk_cons_of hdir hname).trans hrest, hfound⟩

/-- Names that lead to a directory do so all the way. -/
theorem leadsToDir_of_append {back : List String} (h : t.leadsToDir p (names ++ back) = true) :
    t.leadsToDir p names = true := by
  induction names generalizing p with
  | nil =>
    cases back with
    | nil => exact h
    | cons name back => exact leadsToDir_nil.mpr (leadsToDir_cons.mp h).1
  | cons name names ih =>
    obtain ⟨hdir, hname, hrest⟩ := leadsToDir_cons.mp h
    exact leadsToDir_cons.mpr ⟨hdir, hname, ih hrest⟩

theorem leadsToDir_dropLast (h : t.leadsToDir p names = true) :
    t.leadsToDir p names.dropLast = true := by
  obtain ⟨back, hback⟩ := List.dropLast_prefix names
  rw [← hback] at h
  exact leadsToDir_of_append h

/-- A name `.` can be left out. -/
theorem leadsToDir_filter (h : t.leadsToDir p names = true) :
    t.leadsToDir p (names.filter (· ≠ ".")) = true := by
  induction names generalizing p with
  | nil => exact h
  | cons name names ih =>
    obtain ⟨hdir, hname, hrest⟩ := leadsToDir_cons.mp h
    by_cases hhere : name = "."
    · rw [List.filter_cons_of_neg (by simpa using hhere)]
      rw [hhere] at hrest
      exact ih hrest
    · rw [List.filter_cons_of_pos (by simpa using hhere)]
      exact leadsToDir_cons.mpr ⟨hdir, hname, ih hrest⟩

/-! ## 2. Trees compared -/

/-- The same directories stand in both trees, whatever files do. -/
structure SameDirs (t t' : FileTree) : Prop where
  here : t'.here = t.here
  dir_iff (p : Place) : t'.node? p = some .dir ↔ t.node? p = some .dir

namespace SameDirs

theorem symm (h : SameDirs t t') : SameDirs t' t := ⟨h.here.symm, fun p => (h.dir_iff p).symm⟩

theorem leadsToDir (h : SameDirs t t') (hl : t.leadsToDir p names = true) :
    t'.leadsToDir p names = true := by
  obtain ⟨found, hwalk, hfound⟩ := leadsToDir_iff.mp hl
  exact leadsToDir_iff.mpr
    ⟨found, walk_of_dirs (fun p => (h.dir_iff p).mpr) hwalk, (h.dir_iff found).mpr hfound⟩

theorem walkParent (h : SameDirs t t') {last : String} {parent : Place}
    (hw : t.walkParent p names last = .ok parent) : t'.walkParent p names last = .ok parent := by
  obtain ⟨hwalk, hdir, hshort⟩ := walkParent_eq_ok hw
  unfold FileTree.walkParent
  simp only [walk_of_dirs (fun p => (h.dir_iff p).mpr) hwalk,
    checkDir_eq_ok_iff.mpr ((h.dir_iff parent).mpr hdir), hshort, if_neg Bool.false_ne_true]

/-- **Where a file can be stored, it can be stored among the same directories.** -/
theorem store (h : SameDirs t t') {path : String} {content : Content} {stored : FileTree}
    (hs : t.store path content = .ok stored) : ∃ stored', t'.store path content = .ok stored' := by
  unfold FileTree.store at hs ⊢
  split at hs
  · cases hs
  · rename_i hshort
    rw [if_neg hshort]
    split at hs
    · split at hs <;> cases hs
    · split at hs
      · cases hs
      · rename_i parent hparent
        rw [start_of_here_eq h.here, h.walkParent hparent]
        split at hs
        · cases hs
        · rename_i hfile
          rw [← h.dir_iff] at hfile
          exact ⟨_, if_neg hfile⟩

end SameDirs

/-- Trees that look the same: from one working directory, the same stands everywhere. The order in
which entries are kept is not seen. -/
structure Same (t t' : FileTree) : Prop where
  here : t'.here = t.here
  node? (p : Place) : t'.node? p = t.node? p

theorem Same.refl (t : FileTree) : Same t t := ⟨rfl, fun _ => rfl⟩

/-! ## 3. One directory -/

/-- Where names lead to a directory, none is made. -/
theorem makeDir_of_leads (h : t.leadsToDir p names = true) :
    t.makeDir p names = .error .exists := by
  obtain ⟨found, hwalk, hfound⟩ := leadsToDir_iff.mp h
  rcases List.eq_nil_or_concat' names with rfl | ⟨front, last, rfl⟩
  · rfl
  · obtain ⟨parent, hparent, hparentDir⟩ := leadsToDir_iff.mp (leadsToDir_of_append h)
    rw [walk_append hparent] at hwalk
    obtain ⟨-, hname, hlast⟩ := walk_cons hwalk
    have hshort : Path.isLongName last = false := by
      rcases hname with rfl | rfl | hshort
      · decide
      · decide
      · exact hshort
    have hplace : last = "." ∨ last = ".." ∨ (t.node? (parent ++ [last])).isSome = true := by
      by_cases hhere : last = "."
      · exact .inl hhere
      · by_cases hup : last = ".."
        · exact .inr (.inl hup)
        · cases hlast
          rw [Path.follow, if_neg hhere, if_neg hup] at hfound
          rw [hfound]
          exact .inr (.inr rfl)
    unfold makeDir walkParent
    simp only [List.getLast?_concat, List.dropLast_concat, hparent,
      checkDir_eq_ok_iff.mpr hparentDir, hshort, if_neg Bool.false_ne_true, if_pos hplace]

/-- A directory is made in one, and its names lead to it then. -/
theorem makeDir_eq_ok (h : t.makeDir p names = .ok made) :
    t.leadsToDir p names.dropLast = true ∧ made.leadsToDir p names = true := by
  have hgrows := growsDirs_makeDir h
  unfold makeDir at h
  split at h
  · cases h
  · rename_i last hlast
    obtain ⟨front, rfl⟩ := List.getLast?_eq_some_iff.mp hlast
    rw [List.dropLast_concat] at h ⊢
    split at h
    · cases h
    · rename_i parent hparent
      obtain ⟨hwalk, hdir, hshort⟩ := walkParent_eq_ok hparent
      split at h
      · cases h
      · rename_i hnew
        simp only [not_or] at hnew
        obtain ⟨hhere, hup, -⟩ := hnew
        have hroot : parent ++ [last] ≠ [] :=
          List.append_ne_nil_of_right_ne_nil _ (List.cons_ne_nil _ _)
        have hfollow : Path.follow parent last = parent ++ [last] := by
          rw [Path.follow, if_neg hhere, if_neg hup]
        refine ⟨leadsToDir_iff.mpr ⟨parent, hwalk, hdir⟩,
          leadsToDir_iff.mpr ⟨parent ++ [last], ?_, ?_⟩⟩
        · rw [walk_append (hgrows.walk hwalk), walk_cons_of (hgrows.dir hdir) (.inr (.inr hshort)),
            hfollow]
          rfl
        · cases h
          rw [node?_put t hroot, if_pos rfl]

/-! ## 4. A directory and its parents -/

theorem makeLineage_of_leads (h : t.leadsToDir p names = true) (parents : List (List String)) :
    t.makeLineage p (names :: parents) = (.ok (), t) := by
  unfold makeLineage
  simp only [makeDir_of_leads h, if_pos h]

/-- Once a lineage was made, its first names lead to a directory. -/
theorem leads_of_makeLineage {parents : List (List String)}
    (h : t.makeLineage p (names :: parents) = (.ok (), made)) :
    made.leadsToDir p names = true := by
  unfold makeLineage at h
  split at h
  · rename_i hmade
    cases h
    exact (makeDir_eq_ok hmade).2
  · split at h
    · cases h
    · split at h
      · rename_i hmade
        cases h
        exact (makeDir_eq_ok hmade).2
      · split at h
        · rename_i hleads
          cases h
          exact hleads
        · cases h
  · split at h
    · rename_i hleads
      cases h
      exact hleads
    · cases h

/-- A lineage that was made is not made again. -/
theorem makeLineage_ok {lineage : List (List String)}
    (h : t.makeLineage p lineage = (.ok (), made)) : made.makeLineage p lineage = (.ok (), made) := by
  cases lineage with
  | nil => rfl
  | cons names parents => exact makeLineage_of_leads (leads_of_makeLineage h) parents

/-- Names that lead into a directory only if the parent's names lead to one. -/
def Requires (names parent : List String) : Prop :=
  ∀ (t : FileTree) (p : Place), t.leadsToDir p names.dropLast = true → t.leadsToDir p parent = true

/-- Where names lead to no directory and none can be made, none can be made with its parents either,
which are there already or cannot be made. -/
theorem makeLineage_of_not_leads {parents : List (List String)} {fault : Fault}
    (hnot : t.leadsToDir p names = false) (hdir : t.makeDir p names = .error fault)
    (hparents : fault = .missing →
      (∃ fault', t.makeLineage p parents = (.error fault', t)) ∨
        t.makeLineage p parents = (.ok (), t)) :
    ∃ fault', t.makeLineage p (names :: parents) = (.error fault', t) := by
  unfold makeLineage
  rw [hdir]
  by_cases hmissing : fault = .missing
  · subst hmissing
    rcases hparents rfl with ⟨fault', hfailed⟩ | hmade
    · simp only [hfailed]
      exact ⟨fault', rfl⟩
    · simp only [hmade, hdir, hnot, if_neg Bool.false_ne_true]
      exact ⟨.missing, rfl⟩
  · exact ⟨fault, by simp [hnot]⟩

/-- **What could not be made cannot be made after that either**, although parents may have been made
in between. -/
theorem makeLineage_failed {lineage : List (List String)} (hlineage : lineage.IsChain Requires)
    {fault : Fault} (h : t.makeLineage p lineage = (.error fault, made)) :
    (∀ names ∈ lineage.head?, made.leadsToDir p names = false) ∧
      ∃ fault', made.makeLineage p lineage = (.error fault', made) := by
  induction lineage generalizing fault made with
  | nil => cases h
  | cons names parents ih =>
    suffices hnames : made.leadsToDir p names = false ∧
        ∃ fault', made.makeDir p names = .error fault' ∧
          (fault' = .missing → (∃ fault', made.makeLineage p parents = (.error fault', made)) ∨
            made.makeLineage p parents = (.ok (), made)) by
      obtain ⟨hnot, fault', hdir, hparents⟩ := hnames
      refine ⟨fun names' hhead => ?_, makeLineage_of_not_leads hnot hdir hparents⟩
      cases hhead
      exact hnot
    unfold makeLineage at h
    split at h
    case h_1 => cases h
    case h_2 hmissing =>
      split at h
      · -- a parent could not be made, so there is nothing to enter for the last name
        rename_i fault' after hafter
        cases h
        obtain ⟨hhead, hagain⟩ := ih hlineage.of_cons hafter
        cases parents with
        | nil => cases hafter
        | cons parent parents =>
          have hparent := hhead parent rfl
          have hrequires := (List.isChain_cons_cons.mp hlineage).1 made p
          have hlast : ¬ made.leadsToDir p names.dropLast = true := fun hl =>
            Bool.false_ne_true (hparent.symm.trans (hrequires hl))
          refine ⟨Bool.eq_false_iff.mpr fun hl => hlast (leadsToDir_dropLast hl), ?_⟩
          cases hdir : made.makeDir p names with
          | ok again => exact absurd (makeDir_eq_ok hdir).1 hlast
          | error fault'' => exact ⟨fault'', rfl, fun _ => .inl hagain⟩
      · rename_i after hafter
        split at h
        · cases h
        · rename_i fault' hdir
          split at h
          · cases h
          · rename_i hnot
            cases h
            exact ⟨Bool.eq_false_iff.mpr hnot, fault, hdir, fun _ => .inr (makeLineage_ok hafter)⟩
    case h_3 fault' hother hdir =>
      split at h
      · cases h
      · rename_i hnot
        cases h
        exact ⟨Bool.eq_false_iff.mpr hnot, fault, hdir, fun e => absurd e hother⟩

/-! ## 5. The directories of a path -/

theorem beginnings_concat {front : List String} (h : front ≠ []) (last : String) :
    Path.beginnings (front ++ [last]) = front :: Path.beginnings front := by
  induction front with
  | nil => exact absurd rfl h
  | cons name names ih =>
    cases names with
    | nil => rfl
    | cons next names =>
      change (Path.beginnings (next :: names ++ [last])).map (name :: ·) ++ [[name]] = _
      rw [ih (List.cons_ne_nil _ _)]
      rfl

/-- Names and all their beginnings require one another. -/
theorem isChain_beginnings (names : List String) :
    (names :: Path.beginnings names).IsChain Requires := by
  induction names using List.reverseRecOn with
  | nil => exact .singleton _
  | append_singleton front last ih =>
    by_cases hfront : front = []
    · rw [hfront]
      exact .singleton _
    · rw [beginnings_concat hfront]
      refine .cons_cons (fun t p hl => ?_) ih
      rwa [List.dropLast_concat] at hl

/-- What is left of a path without its last name, `.` aside, is a beginning of its other names. -/
theorem prefix_of_concat_eq {front more : List String} {last name : String}
    (h : front ++ [last] = more ++ [name].filter (· ≠ ".")) : front <+: more := by
  by_cases hhere : name = "."
  · rw [List.filter_cons_of_neg (by simpa using hhere), List.filter_nil, List.append_nil] at h
    exact ⟨[last], h⟩
  · rw [List.filter_cons_of_pos (by simpa using hhere), List.filter_nil] at h
    exact ⟨[], (List.append_nil front).trans (List.append_inj' h rfl).1⟩

/-- A path requires its parent, in which `.` counts only at the start. -/
theorem requires_plainNames {path last : String} {front : List String} (hfront : front ≠ [])
    (h : Path.plainNames path = front ++ [last]) : Requires (Path.names path) front := by
  intro t p hl
  suffices hmore : ∃ more, t.leadsToDir p more = true ∧ front <+: more by
    obtain ⟨more, hmore, back, rfl⟩ := hmore
    exact leadsToDir_of_append hmore
  unfold Path.plainNames at h
  rcases List.eq_nil_or_concat' (Path.names path) with hnames | ⟨init, name, hnames⟩
  · rw [hnames] at h
    exact absurd h.symm (List.append_ne_nil_of_right_ne_nil _ (List.cons_ne_nil _ _))
  · rw [hnames] at h hl
    rw [List.dropLast_concat] at hl
    cases init with
    | nil =>
      -- one name has no parent
      have hlength := congrArg List.length h
      have hsome : 0 < front.length := List.length_pos_iff.mpr hfront
      simp only [List.nil_append, List.filter_nil, List.length_append, List.length_singleton]
        at hlength
      split at hlength
      · cases hlength
      · rw [List.length_singleton] at hlength
        omega
    | cons first init =>
      have hplain := leadsToDir_filter hl
      simp only [List.cons_append, List.filter_append] at h
      split at h
      · rename_i hroot
        have hhere : first = "." := by simpa using (Bool.and_eq_true_iff.mp hroot).1
        rw [List.filter_cons_of_neg (by simpa using hhere)] at hplain
        exact ⟨_, hplain, prefix_of_concat_eq h.symm⟩
      · obtain ⟨hdir, hname, hrest⟩ := leadsToDir_cons.mp hl
        refine ⟨_, leadsToDir_cons.mpr ⟨hdir, hname, leadsToDir_filter hrest⟩,
          prefix_of_concat_eq h.symm⟩

theorem isChain_lineage (path : String) : (Path.lineage path).IsChain Requires := by
  unfold Path.lineage
  rcases List.eq_nil_or_concat' (Path.plainNames path) with hplain | ⟨front, last, hplain⟩
  · rw [hplain]
    exact .singleton _
  · rw [hplain]
    by_cases hfront : front = []
    · rw [hfront]
      exact .singleton _
    · rw [beginnings_concat hfront]
      exact .cons_cons (requires_plainNames hfront hplain) (isChain_beginnings front)

/-- **Directories that could not be made cannot be made again, and nothing more is made.** -/
theorem makeDirs_failed {path : String} {fault : Fault}
    (h : t.makeDirs path = (.error fault, made)) :
    ∃ fault', made.makeDirs path = (.error fault', made) := by
  have hstart : made.start path = t.start path := by
    have hgrows := growsDirs_makeDirs t path
    rw [h] at hgrows
    exact start_of_here_eq hgrows.here path
  unfold makeDirs at h ⊢
  split at h
  · cases h
  · rename_i hempty
    split at h
    · rename_i hlong
      exact ⟨.tooLong, by rw [if_neg hempty, if_pos hlong]⟩
    · rename_i hshort
      rw [if_neg hempty, if_neg hshort, hstart]
      exact (makeLineage_failed (isChain_lineage path) h).2

/-- **Directories that were made need not be made**, in any tree with the same directories. -/
theorem makeDirs_ok {path : String} (h : t.makeDirs path = (.ok (), made)) (hs : SameDirs made t') :
    t'.makeDirs path = (.ok (), t') := by
  have hstart : t'.start path = t.start path := by
    have hgrows := growsDirs_makeDirs t path
    rw [h] at hgrows
    exact start_of_here_eq (hs.here.trans hgrows.here) path
  unfold makeDirs at h ⊢
  split at h
  · rename_i hempty
    rw [if_pos hempty]
  · rename_i hempty
    split at h
    · cases h
    · rename_i hshort
      rw [if_neg hempty, if_neg hshort, hstart]
      exact makeLineage_of_leads (hs.leadsToDir (leads_of_makeLineage h)) _

end VisitorNodes.FileTree
