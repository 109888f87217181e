import VisitorNodes.FileTree
/-!
# Where paths lead

A path that can be followed leads to one place, and which one is said by its names alone: each name
goes one step down, `..` one step up and `.` nowhere (`FileTree.place`). What the tree decides is
whether the path can be followed (`FileTree.Leads`). So reading a path is looking at its place
(`read_eq_ok_iff`), and storing at a path puts a file there (`store_eq_ok`).
-/

namespace VisitorNodes

/-! ## 1. Names -/

namespace Path

/-- The place that a name leads to. -/
def follow (place : Place) (name : String) : Place :=
  if name = "." then place else if name = ".." then place.dropLast else place ++ [name]

/-- A name of its own, of which directories can have an entry. -/
structure IsEntry (name : String) : Prop where
  ne_here : name ≠ "."
  ne_parent : name ≠ ".."
  ne_empty : name ≠ ""
  slash : '/' ∉ name.toList

theorem IsEntry.follow {name : String} (h : IsEntry name) (place : Place) :
    follow place name = place ++ [name] := by
  unfold Path.follow
  rw [if_neg h.ne_here, if_neg h.ne_parent]

/-- The names on both sides of a slash. -/
theorem names_append_slash (directory path : List Char) :
    names (.ofList (directory ++ '/' :: path))
      = names (.ofList directory) ++ names (.ofList path) := by
  unfold names
  simp only [String.toList_ofList, List.splitOn_append_cons_self, List.filter_append, List.map_append]

theorem names_of_isEntry {name : String} (h : IsEntry name) : names name = [name] := by
  unfold names
  have hne : name.toList ≠ [] := fun e => h.ne_empty (String.toList_inj.mp e)
  rw [List.splitOn_eq_singleton h.slash, List.filter_cons_of_pos (by simpa using hne)]
  simp

theorem not_isAbsolute_of_isEntry {name : String} (h : IsEntry name) : isAbsolute name = false := by
  unfold isAbsolute
  rw [decide_eq_false_iff_not]
  exact fun hhead => h.slash (List.mem_of_head? hhead)

/-- An entry of a directory has the names of the directory before its own. -/
theorem names_join {directory name : String} (h : IsEntry name) :
    names (join directory name) = names directory ++ [name] := by
  unfold join
  rw [not_isAbsolute_of_isEntry h, if_neg Bool.false_ne_true, ← names_of_isEntry h]
  split
  · rename_i hend
    rcases hend with rfl | hslash
    · rw [String.empty_append]
      rfl
    · obtain ⟨front, hfront⟩ : ∃ front, directory.toList = front ++ ['/'] :=
        List.getLast?_eq_some_iff.mp (of_decide_eq_true hslash)
      have hdir : directory = .ofList (front ++ '/' :: []) := by
        rw [← hfront, String.ofList_toList]
      have hjoined : directory ++ name = .ofList (front ++ '/' :: name.toList) := by
        rw [← String.toList_inj, String.toList_append, hfront, String.toList_ofList,
          List.append_assoc, List.singleton_append]
      rw [hjoined, hdir, names_append_slash, names_append_slash, String.ofList_toList]
      simp [names]
  · have hjoined : directory ++ "/" ++ name
        = .ofList (directory.toList ++ '/' :: name.toList) := by
      simp [← String.toList_inj]
    rw [hjoined, names_append_slash, String.ofList_toList, String.ofList_toList]

theorem isAbsolute_join {directory name : String} (h : IsEntry name) :
    isAbsolute (join directory name) = isAbsolute directory := by
  unfold join
  rw [not_isAbsolute_of_isEntry h, if_neg Bool.false_ne_true]
  by_cases hempty : directory = ""
  · rw [if_pos (.inl hempty), hempty, String.empty_append]
    exact not_isAbsolute_of_isEntry h
  · obtain ⟨c, cs, hcs⟩ :=
      List.exists_cons_of_ne_nil fun e => hempty (String.toList_inj.mp e)
    unfold isAbsolute
    split <;> simp only [String.toList_append, hcs, List.cons_append, List.head?_cons]

end Path

/-! ## 2. Places -/

namespace FileTree

variable {t t' : FileTree}

/-- The place that a path leads to if it can be followed. -/
def place (t : FileTree) (path : String) : Place :=
  (Path.names path).foldl Path.follow (t.start path)

/-- A path can be followed: every place before its last is that of a directory. -/
structure Leads (t : FileTree) (path : String) : Prop where
  ne_empty : path ≠ ""
  short : Path.isLong path = false
  plain : Path.endsInSlash path = false
  walk : t.walk (t.start path) (Path.names path) = .ok (t.place path)

theorem start_of_here_eq (h : t'.here = t.here) (path : String) : t'.start path = t.start path := by
  unfold start
  rw [h]

theorem place_of_here_eq (h : t'.here = t.here) (path : String) : t'.place path = t.place path := by
  unfold place
  rw [start_of_here_eq h]

/-- The place of an entry is below that of its directory. -/
theorem place_join (t : FileTree) {directory name : String} (h : Path.IsEntry name) :
    t.place (Path.join directory name) = t.place directory ++ [name] := by
  unfold place start
  rw [Path.names_join h, Path.isAbsolute_join h, List.foldl_append, List.foldl_cons,
    List.foldl_nil, h.follow]

theorem checkDir_eq_ok_iff {p : Place} : t.checkDir p = .ok () ↔ t.node? p = some .dir := by
  unfold checkDir
  split <;> simp [*]

/-- One step of a walk. -/
theorem walk_cons {p found : Place} {name : String} {names : List String}
    (h : t.walk p (name :: names) = .ok found) : t.node? p = some .dir ∧
      (name = "." ∨ name = ".." ∨ Path.isLongName name = false) ∧
      t.walk (Path.follow p name) names = .ok found := by
  unfold walk at h
  unfold Path.follow
  split at h
  · cases h
  · rename_i hdir
    refine ⟨checkDir_eq_ok_iff.mp hdir, ?_⟩
    split at h
    · rename_i hhere
      exact ⟨.inl hhere, by rwa [if_pos hhere]⟩
    · rename_i hhere
      split at h
      · rename_i hparent
        exact ⟨.inr (.inl hparent), by rwa [if_neg hhere, if_pos hparent]⟩
      · rename_i hparent
        split at h
        · cases h
        · rename_i hshort
          exact ⟨.inr (.inr (Bool.eq_false_iff.mpr hshort)),
            by rwa [if_neg hhere, if_neg hparent]⟩

theorem walk_cons_of {p : Place} {name : String} {names : List String}
    (hdir : t.node? p = some .dir)
    (hname : name = "." ∨ name = ".." ∨ Path.isLongName name = false) :
    t.walk p (name :: names) = t.walk (Path.follow p name) names := by
  rw [walk, checkDir_eq_ok_iff.mpr hdir]
  unfold Path.follow
  by_cases hhere : name = "."
  · simp only [if_pos hhere]
  · by_cases hparent : name = ".."
    · simp only [if_neg hhere, if_pos hparent]
    · simp only [if_neg hhere, if_neg hparent, (hname.resolve_left hhere).resolve_left hparent,
        if_neg Bool.false_ne_true]

/-- A walk only looks at directories: it goes as far in a tree that has all of them. -/
theorem walk_of_dirs (h : ∀ p, t.node? p = some .dir → t'.node? p = some .dir)
    {names : List String} {p found : Place} (hw : t.walk p names = .ok found) :
    t'.walk p names = .ok found := by
  induction names generalizing p with
  | nil => exact hw
  | cons name names ih =>
    obtain ⟨hdir, hname, hrest⟩ := walk_cons hw
    rw [walk_cons_of (h p hdir) hname]
    exact ih hrest

/-- **Where a walk ends is said by the names.** -/
theorem walk_eq_ok {names : List String} {p found : Place} (h : t.walk p names = .ok found) :
    found = names.foldl Path.follow p := by
  induction names generalizing p with
  | nil => exact (Except.ok.inj h).symm
  | cons name names ih => exact ih (walk_cons h).2.2

/-- A walk goes on where the walk along the first names ended. -/
theorem walk_append {front back : List String} {p middle : Place}
    (h : t.walk p front = .ok middle) : t.walk p (front ++ back) = t.walk middle back := by
  induction front generalizing p with
  | nil =>
    cases h
    rfl
  | cons name names ih =>
    obtain ⟨hdir, hname, hrest⟩ := walk_cons h
    rw [List.cons_append, walk_cons_of hdir hname, ih hrest]

/-- What can be said once the directory of a last name was found. -/
theorem walkParent_eq_ok {names : List String} {last : String} {p parent : Place}
    (h : t.walkParent p names last = .ok parent) :
    t.walk p names = .ok parent ∧ t.node? parent = some .dir ∧ Path.isLongName last = false := by
  unfold walkParent at h
  split at h
  · cases h
  · rename_i found hfound
    split at h
    · cases h
    · rename_i hdir
      split at h
      · cases h
      · rename_i hshort
        cases h
        exact ⟨hfound, checkDir_eq_ok_iff.mp hdir, Bool.eq_false_iff.mpr hshort⟩

/-! ## 3. Reading and storing -/

/-- **Reading a path gives the text at its place.** -/
theorem read_eq_ok_iff {path s : String} :
    t.read path = .ok s ↔ t.Leads path ∧ t.node? (t.place path) = some (.file (.text s)) := by
  constructor
  · intro h
    unfold read at h
    split at h
    · cases h
    · rename_i hempty
      split at h
      · cases h
      · rename_i hshort
        split at h
        · cases h
        · rename_i found hfound
          have hplace : found = t.place path := walk_eq_ok hfound
          subst hplace
          split at h
          · cases h
          · cases h
          · rename_i content hnode
            split at h
            · cases h
            · rename_i hplain
              split at h
              · rename_i text
                cases h
                exact ⟨⟨hempty, Bool.eq_false_iff.mpr hshort, Bool.eq_false_iff.mpr hplain, hfound⟩,
                  hnode⟩
              · cases h
  · intro ⟨hleads, hnode⟩
    unfold read
    simp only [if_neg hleads.ne_empty, hleads.short, if_neg Bool.false_ne_true, hleads.walk, hnode,
      hleads.plain]

/-- **Storing at a path puts a file at its place**, where no directory is. -/
theorem store_eq_ok {path : String} {content : Content} (h : t.store path content = .ok t') :
    t.Leads path ∧ t.place path ≠ [] ∧ t.node? (t.place path) ≠ some .dir ∧
      t' = t.put (t.place path) (.file content) := by
  unfold store at h
  split at h
  · cases h
  · rename_i hshort
    split at h
    · split at h <;> cases h
    · rename_i last hlast
      split at h
      · cases h
      · rename_i parent hparent
        obtain ⟨hwalk, hdir, hname⟩ := walkParent_eq_ok hparent
        split at h
        · cases h
        · rename_i hfile
          simp only [not_or] at hfile
          obtain ⟨hhere, hup, hplain, hnode⟩ := hfile
          have hnames : Path.names path = (Path.names path).dropLast ++ [last] := by
            obtain ⟨front, hfront⟩ := List.getLast?_eq_some_iff.mp hlast
            rw [hfront, List.dropLast_concat]
          have hfollow : Path.follow parent last = parent ++ [last] := by
            unfold Path.follow
            rw [if_neg hhere, if_neg hup]
          have hfound : t.walk (t.start path) (Path.names path) = .ok (parent ++ [last]) := by
            rw [hnames, walk_append hwalk, walk_cons_of hdir (.inr (.inr hname)), hfollow]
            rfl
          have hplace : parent ++ [last] = t.place path := walk_eq_ok hfound
          rw [hplace] at hfound hnode h
          refine ⟨⟨?_, Bool.eq_false_iff.mpr hshort, Bool.eq_false_iff.mpr hplain, hfound⟩, ?_, hnode,
            (Except.ok.inj h).symm⟩
          · rintro rfl
            cases hlast
          · rw [← hplace]
            exact List.append_ne_nil_of_right_ne_nil _ (List.cons_ne_nil _ _)

end FileTree

end VisitorNodes
