import Mathlib.Logic.Relation
import VisitorNodes.Proofs.Calculator.Course
/-!
# Flat programs

A block that is an element of a block can be spliced into it, and a condition without a second
branch can be given an empty one (`Splice`). A program in which nothing of this is left to do is
flat. Whichever steps are taken, and in whichever order, a program leads to one flat program only,
and `Stmt.flatten` gives it (`splices_flat_iff`).

No step changes what is seen of a run: its effects in their order, and the node where it stops
(`observe_of_splice`). So a program and its flat form have the same runs (`exec_flatten`).
-/

namespace VisitorNodes.Calculator

variable {F : Type}

namespace Stmt

/-! ## 1. Splicing -/

/-- Somewhere in a statement one block is spliced into the block that it is an element of, or one
condition is given an empty second branch. -/
inductive Splice : Stmt F → Stmt F → Prop where
  | inner {before body rest : List (Stmt F)} :
      Splice (.block (before ++ .block body :: rest)) (.block (before ++ (body ++ rest)))
  | noElse {condition : Expr F} {thenBranch : Stmt F} :
      Splice (.cond condition thenBranch none) (.cond condition thenBranch (some (.block [])))
  | element {before rest : List (Stmt F)} {p q : Stmt F} (h : Splice p q) :
      Splice (.block (before ++ p :: rest)) (.block (before ++ q :: rest))
  | thenBranch {condition : Expr F} {p q : Stmt F} {elseBranch : Option (Stmt F)}
      (h : Splice p q) : Splice (.cond condition p elseBranch) (.cond condition q elseBranch)
  | elseBranch {condition : Expr F} {thenBranch p q : Stmt F} (h : Splice p q) :
      Splice (.cond condition thenBranch (some p)) (.cond condition thenBranch (some q))

/-- Any number of steps. -/
def Splices : Stmt F → Stmt F → Prop := Relation.ReflTransGen Splice

/-- Nothing is left to be spliced or added. -/
def Flat (p : Stmt F) : Prop := ∀ q, ¬ Splice p q

/-- A block is flat if its elements are, and none of them is a block. -/
theorem flat_block_iff {body : List (Stmt F)} :
    Flat (.block body) ↔ ∀ q ∈ body, Flat q ∧ ∀ inner, q ≠ .block inner := by
  constructor
  · intro h q hmem
    obtain ⟨before, rest, rfl⟩ := List.append_of_mem hmem
    refine ⟨fun q' hq => h _ (.element hq), ?_⟩
    rintro inner rfl
    exact h _ .inner
  · intro h q hq
    cases hq with
    | inner => exact (h _ List.mem_append_cons_self).2 _ rfl
    | element hq => exact (h _ List.mem_append_cons_self).1 _ hq

/-- A condition is flat if it has both branches and they are. -/
theorem flat_cond_iff {condition : Expr F} {thenBranch : Stmt F} {elseBranch : Option (Stmt F)} :
    Flat (.cond condition thenBranch elseBranch) ↔
      Flat thenBranch ∧ ∃ branch, elseBranch = some branch ∧ Flat branch := by
  constructor
  · intro h
    refine ⟨fun q hq => h _ (.thenBranch hq), ?_⟩
    cases elseBranch with
    | none => exact absurd .noElse (h _)
    | some branch => exact ⟨branch, rfl, fun q hq => h _ (.elseBranch hq)⟩
  · rintro ⟨hthen, branch, rfl, helse⟩ q hq
    cases hq with
    | thenBranch hq => exact hthen _ hq
    | elseBranch hq => exact helse _ hq

/-! ## 2. Flattening -/

/-- What stands for a statement in the block that it is an element of: for a block, its elements. -/
def elements : Stmt F → List (Stmt F)
  | .block body => body
  | p => [p]

mutual

/-- The statement with all blocks in blocks spliced, and with an empty second branch where a
condition has none. -/
def flatten : Stmt F → Stmt F
  | .assign name value => .assign name value
  | .print value => .print value
  | .cond condition thenBranch elseBranch =>
    .cond condition thenBranch.flatten (some (flattenElse elseBranch))
  | .block body => .block (flattenAll body)

/-- The second branch of a condition, flattened. -/
def flattenElse : Option (Stmt F) → Stmt F
  | none => .block []
  | some branch => branch.flatten

/-- The elements of a block, flattened. -/
def flattenAll : List (Stmt F) → List (Stmt F)
  | [] => []
  | stmt :: stmts => stmt.flatten.elements ++ flattenAll stmts

end

theorem elements_of_ne {p : Stmt F} (h : ∀ body, p ≠ .block body) : p.elements = [p] := by
  cases p with
  | block body => exact absurd rfl (h body)
  | assign | print | cond => rfl

theorem flat_of_mem_elements {p q : Stmt F} (h : Flat p) (hmem : q ∈ p.elements) :
    Flat q ∧ ∀ inner, q ≠ .block inner := by
  cases p with
  | block body => exact flat_block_iff.mp h q hmem
  | assign | print | cond =>
    rw [List.mem_singleton.mp hmem]
    exact ⟨h, fun inner e => by cases e⟩

theorem mem_flattenAll {q : Stmt F} {body : List (Stmt F)} (h : q ∈ flattenAll body) :
    ∃ p ∈ body, q ∈ p.flatten.elements := by
  induction body with
  | nil => exact absurd h List.not_mem_nil
  | cons stmt body ih =>
    rcases List.mem_append.mp h with h | h
    · exact ⟨stmt, List.mem_cons_self, h⟩
    · obtain ⟨p, hp, hq⟩ := ih h
      exact ⟨p, List.mem_cons_of_mem _ hp, hq⟩

theorem flattenAll_append (xs ys : List (Stmt F)) :
    flattenAll (xs ++ ys) = flattenAll xs ++ flattenAll ys := by
  induction xs with
  | nil => rfl
  | cons x xs ih =>
    rw [List.cons_append, flattenAll, flattenAll, ih, List.append_assoc]

/-- **Flattening leaves nothing to do.** -/
theorem flat_flatten (p : Stmt F) : Flat p.flatten := by
  induction p using Stmt.induction with
  | assign name value => exact fun q hq => by cases hq
  | print value => exact fun q hq => by cases hq
  | cond condition thenBranch elseBranch iht ihe =>
    refine flat_cond_iff.mpr ⟨iht, _, rfl, ?_⟩
    cases elseBranch with
    | none => exact flat_block_iff.mpr fun q hmem => absurd hmem List.not_mem_nil
    | some branch => exact ihe branch rfl
  | block body ih =>
    refine flat_block_iff.mpr fun q hmem => ?_
    obtain ⟨p, hp, hq⟩ := mem_flattenAll hmem
    exact flat_of_mem_elements (ih p hp) hq

/-- A flat program is its own flat form. -/
theorem flatten_of_flat {p : Stmt F} (h : Flat p) : p.flatten = p := by
  induction p using Stmt.induction with
  | assign | print => rfl
  | cond condition thenBranch elseBranch iht ihe =>
    obtain ⟨hthen, branch, rfl, helse⟩ := flat_cond_iff.mp h
    rw [flatten, flattenElse, iht hthen, ihe branch rfl helse]
  | block body ih =>
    rw [flat_block_iff] at h
    suffices hbody : flattenAll body = body by rw [flatten, hbody]
    induction body with
    | nil => rfl
    | cons stmt body ihbody =>
      obtain ⟨⟨hflat, hne⟩, hrest⟩ := List.forall_mem_cons.mp h
      obtain ⟨hstmt, ihrest⟩ := List.forall_mem_cons.mp ih
      rw [flattenAll, hstmt hflat, elements_of_ne hne, ihbody ihrest hrest]
      rfl

/-- **No step changes the flat form.** -/
theorem flatten_of_splice {p q : Stmt F} (h : Splice p q) : p.flatten = q.flatten := by
  induction h with
  | inner =>
    simp only [flatten, flattenAll_append, flattenAll]
    rfl
  | noElse => rfl
  | element _ ih => simp only [flatten, flattenAll_append, flattenAll, ih]
  | thenBranch _ ih => simp only [flatten, ih]
  | elseBranch _ ih => simp only [flatten, flattenElse, ih]

/-- What no step changes, no number of steps changes. -/
theorem Splices.map_eq {α : Type} {f : Stmt F → α} (hf : ∀ p q, Splice p q → f p = f q)
    {p q : Stmt F} (h : Splices p q) : f p = f q := by
  induction h with
  | refl => rfl
  | tail _ hstep ih => exact ih.trans (hf _ _ hstep)

/-- Steps within a part of a statement are steps of the statement. -/
theorem Splices.within {p q : Stmt F} (h : Splices p q) (f : Stmt F → Stmt F)
    (hf : ∀ p q, Splice p q → Splice (f p) (f q)) : Splices (f p) (f q) :=
  Relation.ReflTransGen.lift f hf p q h

theorem splices_elements (before rest : List (Stmt F)) (p : Stmt F) :
    Splices (.block (before ++ p :: rest)) (.block (before ++ (p.elements ++ rest))) := by
  cases p with
  | block body => exact .single .inner
  | assign | print | cond => exact .refl

theorem splices_flattenAll {body : List (Stmt F)} (h : ∀ p ∈ body, Splices p p.flatten)
    (before : List (Stmt F)) :
    Splices (.block (before ++ body)) (.block (before ++ flattenAll body)) := by
  induction body generalizing before with
  | nil => exact .refl
  | cons stmt body ih =>
    obtain ⟨hstmt, hrest⟩ := List.forall_mem_cons.mp h
    -- the first element is flattened and spliced; what it leaves stands before the others
    have hflat : Splices (.block (before ++ stmt :: body))
        (.block (before ++ stmt.flatten :: body)) :=
      hstmt.within (fun p => .block (before ++ p :: body)) fun _ _ => .element
    have hothers := ih hrest (before ++ stmt.flatten.elements)
    rw [List.append_assoc, List.append_assoc] at hothers
    exact (hflat.trans (splices_elements before body stmt.flatten)).trans hothers

/-- **Steps lead to the flat form.** -/
theorem splices_flatten (p : Stmt F) : Splices p p.flatten := by
  induction p using Stmt.induction with
  | assign | print => exact .refl
  | cond condition thenBranch elseBranch iht ihe =>
    have hthen : Splices (.cond condition thenBranch elseBranch)
        (.cond condition thenBranch.flatten elseBranch) :=
      iht.within (fun p => .cond condition p elseBranch) fun _ _ => .thenBranch
    refine hthen.trans ?_
    cases elseBranch with
    | none => exact .single .noElse
    | some branch =>
      exact (ihe branch rfl).within (fun p => .cond condition thenBranch.flatten (some p))
        fun _ _ => .elseBranch
  | block body ih => exact splices_flattenAll ih []

/-- **The flat form is the one flat program that a program leads to.** -/
theorem splices_flat_iff {p q : Stmt F} : Splices p q ∧ Flat q ↔ q = p.flatten := by
  constructor
  · rintro ⟨hsteps, hflat⟩
    rw [hsteps.map_eq fun _ _ => flatten_of_splice, flatten_of_flat hflat]
  · rintro rfl
    exact ⟨splices_flatten p, flat_flatten p⟩

end Stmt

/-! ## 3. What is seen of a run -/

/-- Where and why a run stopped: in this expression, at its node of number `index`. -/
structure Halt (F : Type) where
  expr? : Option (Expr F)
  index : Nat
  fault : Fault

/-- What is seen of a run, wherever its expressions stand in a program: the effects in their order,
and where it stopped, if it did. -/
structure Observation (F : Type) where
  effects : List (Effect F)
  halt? : Option (Halt F)

namespace Observation

/-- The end of a run with this observation. -/
def result (o : Observation F) (s : State F) : EStateM.Result Fault (State F) Unit :=
  match o.halt? with
  | none => .ok () (after o.effects s)
  | some halt => .error halt.fault (after o.effects s)

/-- Nothing is seen. -/
def nothing : Observation F := ⟨[], none⟩

/-- What is seen of a run that goes on, if it did not stop, in the state after it. -/
def andThen (o : Observation F) (s : State F) (next : State F → Observation F) : Observation F :=
  match o.halt? with
  | some _ => o
  | none =>
    let rest := next (after o.effects s)
    ⟨o.effects ++ rest.effects, rest.halt?⟩

theorem andThen_assoc (o : Observation F) (s : State F) (next more : State F → Observation F) :
    (o.andThen s next).andThen s more = o.andThen s fun t => (next t).andThen t more := by
  unfold andThen
  cases ho : o.halt? with
  | some halt => simp only [ho]
  | none =>
    simp only
    cases hnext : (next (after o.effects s)).halt? with
    | some halt => simp only [hnext]
    | none => simp only [after_append, List.append_assoc]

end Observation

namespace Course

/-- What is seen of a course, if `exprAt` finds the expressions. -/
def observe (exprAt : List Nat → Option (Expr F)) (c : Course F) : Observation F :=
  ⟨c.effects, c.stop?.map fun stop => ⟨exprAt stop.path, stop.index, stop.fault⟩⟩

theorem result_observe (exprAt : List Nat → Option (Expr F)) (c : Course F) (s : State F) :
    (c.observe exprAt).result s = c.result s := by
  unfold Observation.result result observe
  cases c.stop? <;> rfl

theorem observe_within (exprAt : List Nat → Option (Expr F)) (i : Nat) (c : Course F) :
    (c.within i).observe exprAt = c.observe fun path => exprAt (i :: path) := by
  unfold observe within
  cases c.stop? <;> rfl

theorem observe_andThen (exprAt : List Nat → Option (Expr F)) (c : Course F) (s : State F)
    (next : State F → Course F) : (c.andThen s next).observe exprAt =
      (c.observe exprAt).andThen s fun t => (next t).observe exprAt := by
  unfold observe andThen Observation.andThen
  cases hc : c.stop? with
  | some stop => simp only [hc, Option.map_some]
  | none => rfl

end Course

namespace Stmt

variable [Arithmetic F]

/-- What is seen of a statement that runs from a state. -/
def observe (p : Stmt F) (s : State F) : Observation F :=
  (p.course s).observe fun path => p.exprAt? path

/-- What is seen of the second branch of a condition. -/
def observeElse : Option (Stmt F) → State F → Observation F
  | none, _ => .nothing
  | some branch, s => branch.observe s

/-- What is seen of statements that run one after the other. -/
def observeAll : List (Stmt F) → State F → Observation F
  | [], _ => .nothing
  | stmt :: stmts, s => (stmt.observe s).andThen s (observeAll stmts)

/-- A run ends as what is seen of it says. -/
theorem exec_eq_result (p : Stmt F) (s : State F) : p.exec s = (p.observe s).result s :=
  (p.course_records s).run_eq.trans (Course.result_observe _ _ s).symm

theorem observe_courseAll {body : List (Stmt F)} {exprAt : List Nat → Option (Expr F)} {i : Nat}
    (h : ∀ (k : Nat) (q : Stmt F), body[k]? = some q → ∀ path,
      exprAt ((i + k) :: path) = q.exprAt? path)
    (s : State F) : (courseAll i body s).observe exprAt = observeAll body s := by
  induction body generalizing i s with
  | nil => rfl
  | cons stmt body ih =>
    have hfirst : ((stmt.course s).within i).observe exprAt = stmt.observe s := by
      rw [Course.observe_within]
      exact congrArg (Course.observe · _) (funext fun path => h 0 stmt rfl path)
    have hrest : ∀ t, (courseAll (i + 1) body t).observe exprAt = observeAll body t := by
      refine fun t => ih (fun k q hk path => ?_) t
      rw [Nat.add_right_comm]
      exact h (k + 1) q hk path
    rw [courseAll, Course.observe_andThen, hfirst, funext hrest]
    rfl

/-- Of a block is seen what is seen of its elements. -/
theorem observe_block (body : List (Stmt F)) (s : State F) :
    (block body).observe s = observeAll body s := by
  refine observe_courseAll (fun k q hk path => ?_) s
  rw [Nat.zero_add]
  exact exprAt?_of_child (p := .block body) hk path

/-- Of a condition is seen what is seen of the branch that runs, or that its expression failed. -/
theorem observe_cond (condition : Expr F) (thenBranch : Stmt F) (elseBranch : Option (Stmt F))
    (s : State F) : (cond condition thenBranch elseBranch).observe s =
      match condition.eval s with
      | .ok x _ =>
        if Arithmetic.holds x then thenBranch.observe s else observeElse elseBranch s
      | .error f _ =>
        let index := condition.nodes.findIdx fun node => (node.fault? s).isSome
        ⟨[], some ⟨some condition, index, f⟩⟩ := by
  have hcourse : (cond condition thenBranch elseBranch).course s =
      .ofExpr condition s fun x =>
        if Arithmetic.holds x then (thenBranch.course s).within 0 else courseElse elseBranch s := by
    rw [course]
  rw [observe, hcourse, Course.ofExpr]
  cases condition.eval s with
  | error f t => rfl
  | ok x t =>
    simp only
    split
    · exact Course.observe_within _ 0 _
    · cases elseBranch with
      | none => rfl
      | some branch => exact Course.observe_within _ 1 _

theorem observeAll_append (xs ys : List (Stmt F)) (s : State F) :
    observeAll (xs ++ ys) s = (observeAll xs s).andThen s (observeAll ys) := by
  induction xs generalizing s with
  | nil => rfl
  | cons x xs ih =>
    rw [List.cons_append, observeAll, observeAll, Observation.andThen_assoc]
    exact congrArg _ (funext ih)

/-- **No step changes what is seen of a run.** -/
theorem observe_of_splice {p q : Stmt F} (h : Splice p q) (s : State F) :
    p.observe s = q.observe s := by
  induction h generalizing s with
  | @inner before body rest =>
    have hinner : observeAll (block body :: rest) = observeAll (body ++ rest) := by
      funext t
      rw [observeAll, observe_block, observeAll_append]
    rw [observe_block, observe_block, observeAll_append, observeAll_append, hinner]
  | noElse => rw [observe_cond, observe_cond, observeElse, observeElse, observe_block, observeAll]
  | @element before rest p q _ ih =>
    have helement : observeAll (p :: rest) = observeAll (q :: rest) := by
      funext t
      rw [observeAll, observeAll, ih]
    rw [observe_block, observe_block, observeAll_append, observeAll_append, helement]
  | thenBranch _ ih => rw [observe_cond, observe_cond, ih]
  | elseBranch _ ih => rw [observe_cond, observe_cond, observeElse, observeElse, ih]

theorem observe_of_splices {p q : Stmt F} (h : Splices p q) (s : State F) :
    p.observe s = q.observe s :=
  h.map_eq fun _ _ hstep => observe_of_splice hstep s

/-! ## 4. Runs -/

/-- **A step changes no run**, and so no number of steps does. -/
theorem exec_of_splices {p q : Stmt F} (h : Splices p q) (s : State F) : p.exec s = q.exec s := by
  rw [exec_eq_result, exec_eq_result, observe_of_splices h]

theorem exec_block_cons (p : Stmt F) (rest : List (Stmt F)) (s : State F) :
    (block (p :: rest)).exec s =
      match p.exec s with
      | .ok () t => (block rest).exec t
      | .error f t => .error f t := by
  rw [exec, execAll]
  simp only [Bind.bind, EStateM.bind]
  cases p.exec s with
  | ok u t => rw [exec]
  | error f t => rfl

/-- Two parts of a block run one after the other, the second one if the first did not stop. -/
theorem exec_block_append (xs ys : List (Stmt F)) (s : State F) :
    (block (xs ++ ys)).exec s =
      match (block xs).exec s with
      | .ok () t => (block ys).exec t
      | .error f t => .error f t := by
  induction xs generalizing s with
  | nil => rfl
  | cons x xs ih =>
    rw [List.cons_append, exec_block_cons, exec_block_cons]
    cases x.exec s with
    | ok u t => exact ih t
    | error f t => rfl

theorem eq_after_of_exec {p : Stmt F} {s t : State F} (h : p.exec s = .ok () t) :
    t = after (p.observe s).effects s := by
  rw [exec_eq_result, Observation.result] at h
  split at h
  · cases h
    rfl
  · cases h

/-- A finished run unbinds no variable. -/
theorem look_ne_none_of_exec {p : Stmt F} {s t : State F} (h : p.exec s = .ok () t) {name : String}
    (hname : s.look name ≠ none) : t.look name ≠ none := by
  rw [eq_after_of_exec h]
  exact look_after_ne_none _ hname

theorem look_ne_none_of_assign {name : String} {value : Expr F} {s t : State F}
    (h : (assign name value).exec s = .ok () t) : t.look name ≠ none := by
  obtain ⟨r, hvalue, -⟩ := Walks.eval value s s fun _ _ => rfl
  rw [exec] at h
  cases r with
  | ok x =>
    rw [bind_of_value hvalue] at h
    cases h
    rw [State.look, Dictionary.get?_set, if_pos rfl]
    exact Option.some_ne_none x
  | error f =>
    rw [bind_of_fault hvalue] at h
    cases h

/-- **What a block sets is bound when the block has finished.** -/
theorem look_ne_none_of_mem {name : String} {value : Expr F} {body : List (Stmt F)} {s t : State F}
    (h : (block body).exec s = .ok () t) (hmem : assign name value ∈ body) :
    t.look name ≠ none := by
  induction body generalizing s with
  | nil => exact absurd hmem List.not_mem_nil
  | cons p body ih =>
    rw [exec_block_cons] at h
    cases hp : p.exec s with
    | error f u => rw [hp] at h; cases h
    | ok _ u =>
      rw [hp] at h
      rcases List.mem_cons.mp hmem with rfl | hmem
      · exact look_ne_none_of_exec h (look_ne_none_of_assign hp)
      · exact ih h hmem

/-- **Flattening preserves programs.** The flat form is the one flat program that splicing leads to.
It runs from each state as the program does: it has the same effects in the same order, ends in the
same state, and if it stops, it does so at the same node with the same fault. Of a block in two
parts the first part runs and then, if that did not stop, the second. And what follows an inner
block runs in the state that it ended in: there each variable that an element of the inner block
sets is bound, and what was set in it at all is read with the value that was set last. -/
theorem exec_flatten :
    (∀ p q : Stmt F, Splices p q ∧ Flat q ↔ q = p.flatten) ∧
    (∀ (p : Stmt F) (s : State F),
      p.flatten.exec s = p.exec s ∧ p.flatten.observe s = p.observe s) ∧
    (∀ (xs ys : List (Stmt F)) (s : State F), (block (xs ++ ys)).exec s =
      match (block xs).exec s with
      | .ok () t => (block ys).exec t
      | .error f t => .error f t) ∧
    ∀ (body rest : List (Stmt F)) (s t : State F), (block body).exec s = .ok () t →
      (block (block body :: rest)).exec s = (block rest).exec t ∧
      (∀ name value, assign name value ∈ body → ∃ x, (Expr.var name).eval t = .ok x t) ∧
      ∀ name x before more,
        ((block body).observe s).effects = before ++ .set name x :: more →
        (∀ y, .set name y ∉ more) → (Expr.var name).eval t = .ok x t := by
  refine ⟨fun p q => splices_flat_iff, fun p s => ?_, exec_block_append,
    fun body rest s t h => ?_⟩
  · exact ⟨(exec_of_splices (splices_flatten p) s).symm,
      (observe_of_splices (splices_flatten p) s).symm⟩
  · refine ⟨?_, fun name value hmem => ?_, fun name x before more heffects hlast => ?_⟩
    · rw [exec_block_cons, h]
    · obtain ⟨x, hx⟩ := Option.ne_none_iff_exists'.mp (look_ne_none_of_mem h hmem)
      exact ⟨x, Expr.eval_var hx⟩
    · rw [eq_after_of_exec h, heffects]
      exact Expr.eval_var (look_after_set s hlast)

/-- An inner block sets a variable and has an empty block in it, a condition lacks its second
branch, and the run stops within the third element. -/
theorem exec_flatten_stopped :
    let inner : List (Stmt Float) := [.assign "x" (.number 1.0), .block []]
    let p : Stmt Float := .block [.block inner,
      .cond (.var "x") (.block [.block [.print (.var "x")]]) none,
      .block [.print (.var "y"), .assign "z" (.number 2.0)]]
    let q : Stmt Float := .block [.assign "x" (.number 1.0),
      .cond (.var "x") (.block [.print (.var "x")]) (some (.block [])),
      .print (.var "y"), .assign "z" (.number 2.0)]
    (Splices p q ∧ Flat q) ∧
      q.exec ⟨[], []⟩ = .error (.unboundVariable "y") ⟨[("x", 1.0)], [1.0]⟩ ∧
      p.exec ⟨[], []⟩ = .error (.unboundVariable "y") ⟨[("x", 1.0)], [1.0]⟩ ∧
      (block inner).exec ⟨[], []⟩ = .ok () ⟨[("x", 1.0)], []⟩ ∧
      assign "x" (.number 1.0) ∈ inner ∧
      (∃ x, (Expr.var "x").eval ⟨[("x", 1.0)], []⟩ = .ok x ⟨[("x", 1.0)], []⟩) ∧
      (Expr.var "x").eval ⟨[("x", 1.0)], []⟩ = .ok 1.0 ⟨[("x", 1.0)], []⟩ := by
  intro inner p q
  obtain ⟨hflat, hsame, -, hinner⟩ := exec_flatten (F := Float)
  have hq : q.exec ⟨[], []⟩ = .error (.unboundVariable "y") ⟨[("x", 1.0)], [1.0]⟩ := rfl
  have hrun : (block inner).exec ⟨[], []⟩ = .ok () ⟨[("x", 1.0)], []⟩ := rfl
  have hmem : assign "x" (.number 1.0) ∈ inner := List.mem_cons_self
  obtain ⟨-, hbound, hlast⟩ := hinner inner [] _ _ hrun
  refine ⟨(hflat p q).mpr rfl, hq, (hsame p ⟨[], []⟩).1.symm.trans hq, hrun, hmem, ?_, ?_⟩
  · exact hbound "x" _ hmem
  · exact hlast "x" 1.0 [] [] rfl fun _ => List.not_mem_nil

end Stmt

end VisitorNodes.Calculator
