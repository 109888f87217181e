import VisitorNodes.Proofs.Calculator.Evaluation
/-!
# The course of a run

What a statement does from a given state can be told as a list of effects, variables set and values
printed, and the place where it stopped on a fault, if it did (`Stmt.course`). Running the statement
is having these effects, up to the fault (`Stmt.course_records`).

Nothing enters the course but the names that the statement reads or sets: two states in which these
have the same values have one course (`Stmt.course_eq`). So what a run ends with, where it stops and
what it adds to the record of printed values is the same from both (`Stmt.exec_of_agreement`).
-/

namespace VisitorNodes.Calculator

variable {F : Type}

/-! ## 1. What a statement is made of -/

namespace Stmt

/-- Induction over statements, with a hypothesis for each element of a block. -/
@[elab_as_elim]
theorem induction {P : Stmt F → Prop} (p : Stmt F)
    (assign : ∀ name value, P (.assign name value)) (print : ∀ value, P (.print value))
    (cond : ∀ condition thenBranch elseBranch, P thenBranch → (∀ q ∈ elseBranch, P q) →
      P (.cond condition thenBranch elseBranch))
    (block : ∀ body, (∀ q ∈ body, P q) → P (.block body)) : P p :=
  @Stmt.rec F P (fun elseBranch => ∀ q ∈ elseBranch, P q) (fun body => ∀ q ∈ body, P q)
    assign print cond block
    (fun _ h => by cases h)
    (fun _ hbranch _ h => by cases h; exact hbranch)
    (fun _ h => absurd h List.not_mem_nil)
    (fun _ _ hfirst hrest => List.forall_mem_cons.mpr ⟨hfirst, hrest⟩) p

/-- The expression of a statement itself: what it sets, prints or decides by. -/
def expr? : Stmt F → Option (Expr F)
  | .assign _ value => some value
  | .print value => some value
  | .cond condition _ _ => some condition
  | .block _ => none

/-- The statements right below a statement: the elements of a block by their numbers, and the
branches of a condition by 0 and 1. -/
def child? : Stmt F → Nat → Option (Stmt F)
  | .cond _ thenBranch _, 0 => some thenBranch
  | .cond _ _ elseBranch, 1 => elseBranch
  | .block body, i => body[i]?
  | _, _ => none

/-- The expression of the statement at the end of a path downwards. -/
def exprAt? : List Nat → Stmt F → Option (Expr F)
  | [], p => p.expr?
  | i :: path, p => (p.child? i).bind (exprAt? path)

/-- A variable is read somewhere in a statement. -/
def Reads (name : String) (p : Stmt F) : Prop :=
  ∃ path e, p.exprAt? path = some e ∧ Expr.Occurs (.var name) e

/-- A variable is set somewhere in a statement. -/
inductive Sets (name : String) : Stmt F → Prop where
  | assign {value : Expr F} : Sets name (.assign name value)
  | child {p q : Stmt F} {i : Nat} (hchild : p.child? i = some q) (h : Sets name q) : Sets name p

/-- The names of a statement. -/
def Names (name : String) (p : Stmt F) : Prop := Reads name p ∨ Sets name p

theorem exprAt?_of_child {p q : Stmt F} {i : Nat} (hchild : p.child? i = some q) (path : List Nat) :
    p.exprAt? (i :: path) = q.exprAt? path := by
  rw [exprAt?, hchild, Option.bind_some]

/-- A name stands in the expression of a statement itself, is the one that it sets, or is a name of
a statement below it. -/
theorem names_iff {name : String} {p : Stmt F} :
    Names name p ↔ (∃ e, p.expr? = some e ∧ Expr.Occurs (.var name) e) ∨
      (∃ value, p = .assign name value) ∨ ∃ i q, p.child? i = some q ∧ Names name q := by
  constructor
  · rintro (⟨path, e, hat, hoccurs⟩ | hsets)
    · cases path with
      | nil => exact .inl ⟨e, hat, hoccurs⟩
      | cons i path =>
        obtain ⟨q, hchild, hat⟩ := Option.bind_eq_some_iff.mp hat
        exact .inr (.inr ⟨i, q, hchild, .inl ⟨path, e, hat, hoccurs⟩⟩)
    · cases hsets with
      | assign => exact .inr (.inl ⟨_, rfl⟩)
      | child hchild h => exact .inr (.inr ⟨_, _, hchild, .inr h⟩)
  · rintro (⟨e, he, hoccurs⟩ | ⟨value, rfl⟩ | ⟨i, q, hchild, ⟨path, e, hat, hoccurs⟩ | hsets⟩)
    · exact .inl ⟨[], e, he, hoccurs⟩
    · exact .inr .assign
    · exact .inl ⟨i :: path, e, (exprAt?_of_child hchild path).trans hat, hoccurs⟩
    · exact .inr (.child hchild hsets)

theorem names_assign_iff {name x : String} {value : Expr F} :
    Names name (.assign x value) ↔ Expr.Occurs (.var name) value ∨ name = x := by
  rw [names_iff]
  simp [expr?, child?, eq_comm]

theorem names_print_iff {name : String} {value : Expr F} :
    Names name (.print value) ↔ Expr.Occurs (.var name) value := by
  rw [names_iff]
  simp [expr?, child?]

theorem names_block_iff {name : String} {body : List (Stmt F)} :
    Names name (.block body) ↔ ∃ q ∈ body, Names name q := by
  rw [names_iff]
  constructor
  · rintro (⟨e, he, -⟩ | ⟨value, he⟩ | ⟨i, q, hi, hname⟩)
    · cases he
    · cases he
    · exact ⟨q, List.mem_of_getElem? hi, hname⟩
  · rintro ⟨q, hmem, hname⟩
    obtain ⟨i, hi⟩ := List.mem_iff_getElem?.mp hmem
    exact .inr (.inr ⟨i, q, hi, hname⟩)

end Stmt

/-! ## 2. Effects -/

/-- What a statement does to a state. -/
inductive Effect (F : Type) where
  | set (name : String) (value : F)
  | print (value : F)

/-- The state after an effect. -/
def Effect.apply (s : State F) : Effect F → State F
  | .set name value => { s with vars := Dictionary.set name value s.vars }
  | .print value => { s with printed := s.printed ++ [value] }

/-- The value that an effect sets a variable to. -/
def Effect.value? (name : String) : Effect F → Option F
  | .set other value => if other = name then some value else none
  | .print _ => none

/-- The value that an effect prints. -/
def Effect.printed? : Effect F → Option F
  | .set .. => none
  | .print value => some value

/-- The state after several effects. -/
def after (effects : List (Effect F)) (s : State F) : State F := effects.foldl Effect.apply s

theorem after_append (effects more : List (Effect F)) (s : State F) :
    after (effects ++ more) s = after more (after effects s) := List.foldl_append

/-- An effect sets a variable to a value, or leaves it as it is. -/
theorem look_apply (effect : Effect F) (s : State F) (name : String) :
    (effect.apply s).look name = (effect.value? name).or (s.look name) := by
  cases effect with
  | print value => rfl
  | set other value =>
    refine (Dictionary.get?_set other name value s.vars).trans ?_
    rw [Effect.value?]
    split <;> rfl

/-- **A variable has the value that was set last**, or otherwise the one that it had. -/
theorem look_after (effects : List (Effect F)) (s : State F) (name : String) :
    (after effects s).look name =
      (effects.reverse.findSome? (·.value? name)).or (s.look name) := by
  induction effects generalizing s with
  | nil => rfl
  | cons effect effects ih =>
    rw [List.reverse_cons, List.findSome?_append, List.findSome?_singleton, Option.or_assoc,
      ← look_apply]
    exact ih (effect.apply s)

theorem look_after_of_unset {name : String} {effects : List (Effect F)} (s : State F)
    (h : ∀ value, .set name value ∉ effects) : (after effects s).look name = s.look name := by
  have hnone : effects.reverse.findSome? (·.value? name) = none := by
    rw [List.findSome?_eq_none_iff]
    intro effect hmem
    cases effect with
    | print value => rfl
    | set other value =>
      refine if_neg ?_
      rintro rfl
      exact h value (List.mem_reverse.mp hmem)
  rw [look_after, hnone, Option.none_or]

/-- After the last effect that sets a variable, the variable has that value. -/
theorem look_after_set {name : String} {x : F} {before more : List (Effect F)} (s : State F)
    (hlast : ∀ y, .set name y ∉ more) :
    (after (before ++ .set name x :: more) s).look name = some x := by
  rw [after_append]
  refine (look_after_of_unset _ hlast).trans ?_
  rw [look_apply, Effect.value?, if_pos rfl, Option.some_or]

theorem look_after_ne_none {name : String} (effects : List (Effect F)) {s : State F}
    (h : s.look name ≠ none) : (after effects s).look name ≠ none := by
  rw [look_after]
  cases effects.reverse.findSome? (·.value? name) with
  | none => exact h
  | some value => exact Option.some_ne_none value

theorem printed_after (effects : List (Effect F)) (s : State F) :
    (after effects s).printed = s.printed ++ effects.filterMap Effect.printed? := by
  induction effects generalizing s with
  | nil => exact (List.append_nil _).symm
  | cons effect effects ih =>
    refine (ih (effect.apply s)).trans ?_
    cases effect with
    | set name value => rfl
    | print value => exact List.append_assoc ..

/-! ## 3. Courses -/

/-- Where and why a run stopped: at the expression at the end of `path`, at its node of number
`index` in the order in which nodes run. -/
structure Stop where
  path : List Nat
  index : Nat
  fault : Fault

/-- What a run did, and where it stopped, if it did not finish. -/
structure Course (F : Type) where
  effects : List (Effect F)
  stop? : Option Stop

namespace Course

/-- The end of a run with this course: what it did before it stopped stays. -/
def result (c : Course F) (s : State F) : EStateM.Result Fault (State F) Unit :=
  match c.stop? with
  | none => .ok () (after c.effects s)
  | some stop => .error stop.fault (after c.effects s)

/-- The values that a run prints. -/
def printed (c : Course F) : List F := c.effects.filterMap Effect.printed?

/-- The course of an element or a branch as a part of the statement that has it as number `i`. -/
def within (i : Nat) (c : Course F) : Course F :=
  { c with stop? := c.stop?.map fun stop => { stop with path := i :: stop.path } }

/-- A course that goes on, if it did not stop, with what comes next in the state after it. -/
def andThen (c : Course F) (s : State F) (next : State F → Course F) : Course F :=
  match c.stop? with
  | some _ => c
  | none =>
    let rest := next (after c.effects s)
    ⟨c.effects ++ rest.effects, rest.stop?⟩

theorem result_within (i : Nat) (c : Course F) (s : State F) :
    (c.within i).result s = c.result s := by
  unfold result within
  cases c.stop? <;> rfl

variable [Arithmetic F]

/-- A course that starts with an expression, and goes on with its value. -/
def ofExpr (e : Expr F) (s : State F) (next : F → Course F) : Course F :=
  match e.eval s with
  | .ok x _ => next x
  | .error f _ => ⟨[], some ⟨[], e.nodes.findIdx fun node => (node.fault? s).isSome, f⟩⟩

end Course

namespace Stmt

variable [Arithmetic F]

mutual

/-- The course of a statement from a state. -/
def course : Stmt F → State F → Course F
  | .assign name value, s => .ofExpr value s fun x => ⟨[.set name x], none⟩
  | .print value, s => .ofExpr value s fun x => ⟨[.print x], none⟩
  | .cond condition thenBranch elseBranch, s => .ofExpr condition s fun x =>
    if Arithmetic.holds x then (thenBranch.course s).within 0 else courseElse elseBranch s
  | .block body, s => courseAll 0 body s

/-- The course of the second branch of a condition. -/
def courseElse : Option (Stmt F) → State F → Course F
  | none, _ => ⟨[], none⟩
  | some branch, s => (branch.course s).within 1

/-- The course of the elements of a block from number `i` on. -/
def courseAll : Nat → List (Stmt F) → State F → Course F
  | _, [], _ => ⟨[], none⟩
  | i, stmt :: stmts, s => ((stmt.course s).within i).andThen s fun s => courseAll (i + 1) stmts s

end

end Stmt

/-! ## 4. One run and its course -/

/-- What a course `c` tells of a run `m` from a state: its end, that it sets no variables but those
in `sets`, and that it stops where a fault is. The expressions of what runs are found by
`exprAt`. -/
structure Course.Records (c : Course F) (m : Run F Unit) (s : State F) (sets : String → Prop)
    (exprAt : List Nat → Option (Expr F)) : Prop where
  run_eq : m s = c.result s
  sets : ∀ name value, .set name value ∈ c.effects → sets name
  stop : ∀ stop, c.stop? = some stop → ∃ e, exprAt stop.path = some e ∧
    FirstFault (after c.effects s) e.nodes stop.index stop.fault

namespace Course.Records

variable {m k : Run F Unit} {c : Course F} {s : State F} {sets : String → Prop}
  {exprAt : List Nat → Option (Expr F)}

/-- A run that finishes at once, with these effects. -/
theorem finished {effects : List (Effect F)} (hrun : m s = .ok () (after effects s))
    (hsets : ∀ name value, .set name value ∈ effects → sets name) :
    Records ⟨effects, none⟩ m s sets exprAt :=
  ⟨hrun, hsets, fun _ h => by cases h⟩

theorem mono {sets' : String → Prop} (h : Records c m s sets exprAt)
    (hsets : ∀ name, sets name → sets' name) : Records c m s sets' exprAt :=
  { h with sets := fun name value hmem => hsets name (h.sets name value hmem) }

theorem within {i : Nat} (h : Records c m s sets fun path => exprAt (i :: path)) :
    Records (c.within i) m s sets exprAt where
  run_eq := h.run_eq.trans (result_within i c s).symm
  sets := h.sets
  stop stop hstop := by
    obtain ⟨inner, hinner, rfl⟩ := Option.map_eq_some_iff.mp hstop
    exact h.stop inner hinner

/-- The second run starts in the state after the effects of the first. -/
theorem andThen {next : State F → Course F} (h : Records c m s sets exprAt)
    (hnext : Records (next (after c.effects s)) k (after c.effects s) sets exprAt) :
    Records (c.andThen s next) (m >>= fun _ => k) s sets exprAt := by
  have hrun := h.run_eq
  unfold Course.result at hrun
  unfold Course.andThen
  cases hstop : c.stop? with
  | some stop =>
    -- the second run is never reached, so nothing of it is in the course
    rw [hstop] at hrun
    refine ⟨?_, h.sets, h.stop⟩
    simp only [Bind.bind, EStateM.bind, hrun, Course.result, hstop]
  | none =>
    rw [hstop] at hrun
    refine ⟨?_, fun name value hmem => ?_, fun stop hs => ?_⟩
    · simp only [Bind.bind, EStateM.bind, hrun, hnext.run_eq, Course.result, after_append]
    · rcases List.mem_append.mp hmem with hmem | hmem
      · exact h.sets name value hmem
      · exact hnext.sets name value hmem
    · rw [after_append]
      exact hnext.stop stop hs

variable [Arithmetic F]

theorem ofExpr {e : Expr F} {k : F → Run F Unit} {next : F → Course F} (he : exprAt [] = some e)
    (h : ∀ x, Records (next x) (k x) s sets exprAt) :
    Records (.ofExpr e s next) (e.eval >>= k) s sets exprAt := by
  obtain ⟨r, hs, -, hr⟩ := Walks.eval e s s fun _ _ => rfl
  unfold Course.ofExpr
  rw [hs]
  cases r with
  | ok x => exact { h x with run_eq := (bind_of_value hs).trans (h x).run_eq }
  | error f =>
    refine ⟨bind_of_fault hs, fun _ _ hmem => absurd hmem List.not_mem_nil, fun stop hstop => ?_⟩
    cases hstop
    obtain ⟨k, hk⟩ := exists_firstFault_iff.mpr hr.symm
    exact ⟨e, he, hk.index_eq.symm ▸ hk⟩

end Course.Records

namespace Stmt

variable [Arithmetic F]

theorem courseAll_records {body : List (Stmt F)} {sets : String → Prop}
    {exprAt : List Nat → Option (Expr F)} {i : Nat}
    (h : ∀ k (q : Stmt F), body[k]? = some q → ∀ s,
      (q.course s).Records q.exec s sets fun path => exprAt ((i + k) :: path)) (s : State F) :
    (courseAll i body s).Records (execAll body) s sets exprAt := by
  induction body generalizing i s with
  | nil => exact .finished rfl fun _ _ hmem => absurd hmem List.not_mem_nil
  | cons stmt body ih =>
    refine .andThen (.within (h 0 stmt rfl s)) (ih (fun k q hk s => ?_) _)
    rw [Nat.add_right_comm]
    exact h (k + 1) q hk s

/-- What the course of a statement tells of its run, it tells of it as a part of another one. -/
theorem child_records {p q : Stmt F} {i : Nat} {s : State F} {c : Course F}
    (hchild : p.child? i = some q)
    (h : c.Records q.exec s (fun name => Sets name q) fun path => q.exprAt? path) :
    c.Records q.exec s (fun name => Sets name p) fun path => p.exprAt? (i :: path) := by
  simp only [exprAt?_of_child hchild]
  exact h.mono fun _ hsets => .child hchild hsets

/-- **Running a statement is having the effects of its course**, which sets no variable that the
statement does not set, and stops at an expression of the statement that has a fault. -/
theorem course_records (p : Stmt F) (s : State F) :
    (p.course s).Records p.exec s (fun name => Sets name p) fun path => p.exprAt? path := by
  induction p using Stmt.induction generalizing s with
  | assign name value =>
    refine .ofExpr rfl fun x => .finished rfl fun other y hmem => ?_
    cases List.mem_singleton.mp hmem
    exact .assign
  | print value =>
    refine .ofExpr rfl fun x => .finished rfl fun other y hmem => ?_
    cases List.mem_singleton.mp hmem
  | cond condition thenBranch elseBranch iht ihe =>
    refine .ofExpr rfl fun x => ?_
    split
    · exact .within (child_records rfl (iht s))
    · cases elseBranch with
      | none => exact .finished rfl fun _ _ hmem => absurd hmem List.not_mem_nil
      | some branch => exact .within (child_records rfl (ihe branch rfl s))
  | block body ih =>
    refine courseAll_records (fun k q hk s => ?_) s
    rw [Nat.zero_add]
    exact child_records hk (ih q (List.mem_of_getElem? hk) s)

end Stmt

/-! ## 5. Two runs -/

/-- Agreement is kept by effects: what they set does not hang on the state that they happen in. -/
theorem AgreeOn.after {names : String → Prop} {s t : State F} (h : AgreeOn names s t)
    (effects : List (Effect F)) : AgreeOn names (after effects s) (after effects t) := by
  intro name hname
  rw [look_after, look_after, h name hname]

/-- States that agree on the names of a statement agree on those of its expression. -/
theorem AgreeOn.expr {p : Stmt F} {e : Expr F} {s t : State F}
    (h : AgreeOn (fun name => Stmt.Names name p) s t) (he : p.expr? = some e) :
    AgreeOn (fun name => Expr.Occurs (.var name) e) s t :=
  fun name hoccurs => h name (Stmt.names_iff.mpr (.inl ⟨e, he, hoccurs⟩))

theorem AgreeOn.child {p q : Stmt F} {i : Nat} {s t : State F}
    (h : AgreeOn (fun name => Stmt.Names name p) s t) (hchild : p.child? i = some q) :
    AgreeOn (fun name => Stmt.Names name q) s t :=
  fun name hname => h name (Stmt.names_iff.mpr (.inr (.inr ⟨i, q, hchild, hname⟩)))

namespace Course

theorem andThen_congr {c : Course F} {s t : State F} {next : State F → Course F}
    (h : next (after c.effects s) = next (after c.effects t)) :
    c.andThen s next = c.andThen t next := by
  unfold andThen
  rw [h]

variable [Arithmetic F]

theorem ofExpr_congr {e : Expr F} {s t : State F} {next next' : F → Course F}
    (h : AgreeOn (fun name => Expr.Occurs (.var name) e) s t) (hnext : ∀ x, next x = next' x) :
    ofExpr e s next = ofExpr e t next' := by
  have hagree : AgreeOn (fun name => .var name ∈ e.nodes) s t :=
    fun name hmem => h name (Expr.mem_nodes_iff.mp hmem)
  obtain ⟨r, hs, ht, hr⟩ := Walks.eval e s t hagree
  obtain rfl : next = next' := funext hnext
  unfold ofExpr
  rw [hs, ht]
  cases r with
  | ok x => rfl
  | error f =>
    obtain ⟨k, hk⟩ := exists_firstFault_iff.mpr hr.symm
    rw [hk.index_eq, (hk.congr hagree).index_eq]
    rfl

end Course

namespace Stmt

variable [Arithmetic F]

theorem courseAll_eq {names : String → Prop} {body : List (Stmt F)}
    (h : ∀ q ∈ body, ∀ s t, AgreeOn names s t → q.course s = q.course t) (i : Nat) {s t : State F}
    (hagree : AgreeOn names s t) : courseAll i body s = courseAll i body t := by
  induction body generalizing i s t with
  | nil => rfl
  | cons stmt body ih =>
    obtain ⟨hfirst, hrest⟩ := List.forall_mem_cons.mp h
    unfold courseAll
    rw [hfirst s t hagree]
    exact Course.andThen_congr (ih hrest (i + 1) (hagree.after _))

/-- **The course of a statement hangs on its names only.** -/
theorem course_eq (p : Stmt F) {s t : State F} (h : AgreeOn (fun name => Names name p) s t) :
    p.course s = p.course t := by
  induction p using Stmt.induction generalizing s t with
  | assign name value => exact Course.ofExpr_congr (h.expr rfl) fun _ => rfl
  | print value => exact Course.ofExpr_congr (h.expr rfl) fun _ => rfl
  | cond condition thenBranch elseBranch iht ihe =>
    refine Course.ofExpr_congr (h.expr rfl) fun x => ?_
    rw [iht (h.child (i := 0) rfl)]
    cases elseBranch with
    | none => rfl
    | some branch =>
      unfold courseElse
      rw [ihe branch rfl (h.child (i := 1) rfl)]
  | block body ih =>
    -- the names are those of the whole block: what one element sets another one may read
    refine courseAll_eq (fun q hmem s t h => ?_) 0 h
    obtain ⟨i, hi⟩ := List.mem_iff_getElem?.mp hmem
    exact ih q hmem (h.child hi)

/-- A run of `p` from `s` has the course `c`: it ends as the course does, in the state after the
effects of the course and no others. If it stops, it does so at the first node with a fault of an
expression of `p`. What was printed before stays in front, variables that `p` does not set keep
their values, and none becomes unbound. -/
structure Runs (p : Stmt F) (s : State F) (c : Course F) : Prop where
  course_eq : p.course s = c
  exec_eq : p.exec s = c.result s
  stop : ∀ stop, c.stop? = some stop → ∃ e, p.exprAt? stop.path = some e ∧
    FirstFault (after c.effects s) e.nodes stop.index stop.fault
  printed_eq : (after c.effects s).printed = s.printed ++ c.printed
  others : ∀ name, ¬ Sets name p → (after c.effects s).look name = s.look name
  bound : ∀ name, s.look name ≠ none → (after c.effects s).look name ≠ none

theorem runs_course (p : Stmt F) (s : State F) : p.Runs s (p.course s) := by
  obtain ⟨hrun, hsets, hstop⟩ := p.course_records s
  refine ⟨rfl, hrun, hstop, printed_after _ s, fun name hname => ?_, fun _ => look_after_ne_none _⟩
  exact look_after_of_unset s fun value hmem => hname (hsets name value hmem)

/-- **A statement hangs on the names that it reads or sets, and touches what it sets.** From two
states that agree on these names its runs have one course, so they stop at the same node or both
finish, and print the same values; and the states after them agree on these names again. -/
theorem exec_of_agreement (p : Stmt F) (s t : State F)
    (h : AgreeOn (fun name => Names name p) s t) :
    ∃ c : Course F, p.Runs s c ∧ p.Runs t c ∧
      AgreeOn (fun name => Names name p) (after c.effects s) (after c.effects t) :=
  ⟨p.course s, p.runs_course s, p.course_eq h ▸ p.runs_course t, h.after _⟩

/-- The third of four statements, a block, stops on a fault after the second one has printed 2. The
first state has a variable that the second lacks, and the second has printed something before. -/
theorem exec_of_agreement_stopped :
    let p : Stmt Float := .block [.assign "x" (.var "y"), .print (.var "x"),
      .block [.print (.unary .neg (.var "z"))], .assign "w" (.number 1.0)]
    let s : State Float := ⟨[("v", 3.0), ("y", 2.0)], []⟩
    let t : State Float := ⟨[("y", 2.0)], [4.0]⟩
    AgreeOn (fun name => Names name p) s t ∧ s.look "v" ≠ t.look "v" ∧
      p.Runs s ⟨[.set "x" 2.0, .print 2.0], some ⟨[2, 0], 0, .unboundVariable "z"⟩⟩ ∧
      p.Runs t ⟨[.set "x" 2.0, .print 2.0], some ⟨[2, 0], 0, .unboundVariable "z"⟩⟩ := by
  intro p s t
  have hagree : AgreeOn (fun name => Names name p) s t := by
    intro name h
    have hname : name ≠ "v" := by
      rintro rfl
      simp [p, names_block_iff, names_assign_iff, names_print_iff, ← Expr.mem_nodes_iff,
        Expr.nodes] at h
    simp [s, t, State.look, Dictionary.get?, hname.symm]
  obtain ⟨c, hs, ht, -⟩ := exec_of_agreement p s t hagree
  obtain rfl : _ = c := hs.course_eq
  exact ⟨hagree, by simp [s, t, State.look, Dictionary.get?], hs, ht⟩

end Stmt

end VisitorNodes.Calculator
