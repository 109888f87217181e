import VisitorNodes.Proofs.FileTree.Place
/-!
# What operations leave of a tree

Making directories adds directories where nothing was, and storing puts a file at one place. Nothing
is ever removed, and no directory becomes a file (`FileTree.Grows`). So a path that could be followed
still can, and what was read at a place where nothing was stored is read again (`Grows.read`).
-/

namespace VisitorNodes.FileTree

/-! ## 1. Growth -/

/-- The second tree comes from the first by making directories and storing files at some places. -/
structure Grows (stored : Place → Prop) (t t' : FileTree) : Prop where
  here : t'.here = t.here
  node? (p : Place) : t'.node? p = t.node? p ∨ (t.node? p = none ∧ t'.node? p = some .dir) ∨
    (stored p ∧ t.node? p ≠ some .dir ∧ ∃ content, t'.node? p = some (.file content))

namespace Grows

variable {stored stored' : Place → Prop} {t t' t'' : FileTree}

theorem refl (stored : Place → Prop) (t : FileTree) : Grows stored t t := ⟨rfl, fun _ => .inl rfl⟩

theorem mono (h : Grows stored t t') (hs : ∀ p, stored p → stored' p) : Grows stored' t t' where
  here := h.here
  node? p := (h.node? p).imp_right (Or.imp_right (And.imp_left (hs p)))

theorem dir (h : Grows stored t t') {p : Place} (hp : t.node? p = some .dir) :
    t'.node? p = some .dir := by
  rcases h.node? p with hsame | ⟨hnone, _⟩ | ⟨_, hfile, _⟩
  · rw [hsame, hp]
  · rw [hp] at hnone
    cases hnone
  · exact absurd hp hfile

/-- Growing goes on: the places of both parts are stored at. -/
theorem trans (h : Grows stored t t') (h' : Grows stored t' t'') : Grows stored t t'' where
  here := h'.here.trans h.here
  node? p := by
    rcases h'.node? p with hsame | ⟨hnone, hdir⟩ | ⟨hs, hfile, hcontent⟩
    · rw [hsame]
      exact h.node? p
    · -- nothing was at the place before either
      rcases h.node? p with hsame | ⟨_, hdir'⟩ | ⟨_, _, content, hfile⟩
      · exact .inr (.inl ⟨hsame ▸ hnone, hdir⟩)
      · rw [hnone] at hdir'
        cases hdir'
      · rw [hnone] at hfile
        cases hfile
    · exact .inr (.inr ⟨hs, fun hdir => hfile (h.dir hdir), hcontent⟩)

/-- **A file is the same before and after where nothing was stored.** -/
theorem file_iff (h : Grows stored t t') {p : Place} (hp : ¬ stored p) {content : Content} :
    t'.node? p = some (.file content) ↔ t.node? p = some (.file content) := by
  rcases h.node? p with hsame | ⟨hnone, hdir⟩ | ⟨hs, _⟩
  · rw [hsame]
  · rw [hnone, hdir]
    simp
  · exact absurd hs hp

theorem place (h : Grows stored t t') (path : String) : t'.place path = t.place path :=
  place_of_here_eq h.here path

theorem walk (h : Grows stored t t') {names : List String} {p found : Place}
    (hw : t.walk p names = .ok found) : t'.walk p names = .ok found :=
  walk_of_dirs (fun _ => h.dir) hw

theorem leads (h : Grows stored t t') {path : String} (hl : t.Leads path) : t'.Leads path where
  ne_empty := hl.ne_empty
  short := hl.short
  plain := hl.plain
  walk := by
    rw [start_of_here_eq h.here, h.place]
    exact h.walk hl.walk

/-- **What was read at a place where nothing was stored is read again.** -/
theorem read (h : Grows stored t t') {path s : String} (hp : ¬ stored (t.place path))
    (hr : t.read path = .ok s) : t'.read path = .ok s := by
  obtain ⟨hleads, hnode⟩ := read_eq_ok_iff.mp hr
  refine read_eq_ok_iff.mpr ⟨h.leads hleads, ?_⟩
  rw [h.place]
  exact (h.file_iff hp).mpr hnode

end Grows

/-! ## 2. Making directories -/

variable {t t' : FileTree}

/-- Making directories stores nothing. -/
abbrev GrowsDirs (t t' : FileTree) : Prop := Grows (fun _ => False) t t'

theorem growsDirs_makeDir {place : Place} {names : List String}
    (h : t.makeDir place names = .ok t') : GrowsDirs t t' := by
  unfold makeDir at h
  split at h
  · cases h
  · rename_i last _
    split at h
    · cases h
    · rename_i parent _
      split at h
      · cases h
      · rename_i hnew
        cases h
        simp only [not_or, Bool.not_eq_true, Option.isSome_eq_false_iff, Option.isNone_iff_eq_none]
          at hnew
        obtain ⟨-, -, hnone⟩ := hnew
        have hroot : parent ++ [last] ≠ [] :=
          List.append_ne_nil_of_right_ne_nil _ (List.cons_ne_nil _ _)
        refine ⟨rfl, fun p => ?_⟩
        rw [node?_put t hroot]
        split
        · rename_i hp
          exact .inr (.inl ⟨hp ▸ hnone, rfl⟩)
        · exact .inl rfl

theorem growsDirs_makeLineage (place : Place) (lineage : List (List String)) (t : FileTree) :
    GrowsDirs t (t.makeLineage place lineage).2 := by
  induction lineage generalizing t with
  | nil => exact .refl _ _
  | cons names parents ih =>
    unfold makeLineage
    split
    · rename_i made hmade
      exact growsDirs_makeDir hmade
    · -- the parents are made first, and stay whatever comes then
      have hparents := ih t
      split
      · rename_i fault after hafter
        rw [hafter] at hparents
        exact hparents
      · rename_i after hafter
        rw [hafter] at hparents
        split
        · rename_i made hmade
          exact hparents.trans (growsDirs_makeDir hmade)
        · split <;> exact hparents
    · split <;> exact .refl _ _

/-- **Making directories adds directories and nothing else**, also when it fails. -/
theorem growsDirs_makeDirs (t : FileTree) (path : String) : GrowsDirs t (t.makeDirs path).2 := by
  unfold makeDirs
  split
  · exact .refl _ _
  · split
    · exact .refl _ _
    · exact growsDirs_makeLineage _ _ t

/-! ## 3. Writing -/

/-- **Writing changes one place.** -/
theorem grows_write {path text : String} (h : t.write path text = .ok t') :
    Grows (· = t.place path) t t' := by
  obtain ⟨-, hroot, hfile, rfl⟩ := store_eq_ok h
  refine ⟨rfl, fun p => ?_⟩
  rw [node?_put t hroot]
  split
  · rename_i hp
    subst hp
    exact .inr (.inr ⟨rfl, hfile, _, rfl⟩)
  · exact .inl rfl

/-- **What was written is read.** -/
theorem read_of_write {path text : String} (h : t.write path text = .ok t') :
    t'.read path = .ok text := by
  have hgrows := grows_write h
  obtain ⟨hleads, hroot, -, rfl⟩ := store_eq_ok h
  refine read_eq_ok_iff.mpr ⟨hgrows.leads hleads, ?_⟩
  rw [hgrows.place, node?_put t hroot, if_pos rfl]

end VisitorNodes.FileTree
