import VisitorNodes.Calculator.Run
/-!
# Evaluating expressions

Evaluation changes nothing, also where it fails, and it fails only at two kinds of nodes: a variable
that is not bound, and a call of a function other than `max` (`Expr.fault?`). Whether a node fails
does not hang on what was evaluated before it. So the outcome can be told from the list of all nodes
in the order in which they run (`Expr.nodes`): it is the fault of the first node that has one, and
otherwise a value (`Expr.eval_outcome`).

The proof is about any run that walks over a list of nodes (`Walks`). Walks can be put one behind
the other, and their lists are put together in the same way.
-/

namespace VisitorNodes.Calculator

variable {F α β : Type}

/-! ## 1. What an expression is made of -/

namespace Expr

/-- Induction over expressions, with a hypothesis for each argument of a call. -/
@[elab_as_elim]
theorem induction {P : Expr F → Prop} (e : Expr F)
    (number : ∀ value, P (.number value)) (var : ∀ name, P (.var name))
    (unary : ∀ op operand, P operand → P (.unary op operand))
    (binary : ∀ left op right, P left → P right → P (.binary left op right))
    (call : ∀ callee args, (∀ arg ∈ args, P arg) → P (.call callee args))
    (cast : ∀ value type, P value → P (.cast value type)) : P e :=
  @Expr.rec F P (fun args => ∀ arg ∈ args, P arg) number var unary binary call cast
    (fun _ h => absurd h List.not_mem_nil)
    (fun _ _ hfirst hrest => List.forall_mem_cons.mpr ⟨hfirst, hrest⟩) e

mutual

/-- All nodes of an expression in the order in which they run: what stands further left goes first,
and a node comes after everything it is made of. -/
def nodes : Expr F → List (Expr F)
  | .number value => [.number value]
  | .var name => [.var name]
  | .unary op operand => operand.nodes ++ [.unary op operand]
  | .binary left op right => left.nodes ++ (right.nodes ++ [.binary left op right])
  | .call callee args => nodesAll args ++ [.call callee args]
  | .cast value type => value.nodes ++ [.cast value type]

/-- The nodes of several expressions, one after the other. -/
def nodesAll : List (Expr F) → List (Expr F)
  | [] => []
  | arg :: args => arg.nodes ++ nodesAll args

end

/-- A node stands in an expression, anywhere. -/
inductive Occurs (node : Expr F) : Expr F → Prop where
  | self : Occurs node node
  | operand {op : UnaryOp} {e : Expr F} (h : Occurs node e) : Occurs node (.unary op e)
  | left {l r : Expr F} {op : BinaryOp} (h : Occurs node l) : Occurs node (.binary l op r)
  | right {l r : Expr F} {op : BinaryOp} (h : Occurs node r) : Occurs node (.binary l op r)
  | arg {callee : String} {args : List (Expr F)} {e : Expr F} (hmem : e ∈ args)
      (h : Occurs node e) : Occurs node (.call callee args)
  | value {e : Expr F} {type : String} (h : Occurs node e) : Occurs node (.cast e type)

theorem mem_nodesAll_iff {node : Expr F} {args : List (Expr F)} :
    node ∈ nodesAll args ↔ ∃ arg ∈ args, node ∈ arg.nodes := by
  induction args with
  | nil => simp [nodesAll]
  | cons arg args ih => simp [nodesAll, ih]

/-- The list of nodes holds what stands in the expression, and nothing else. -/
theorem mem_nodes_iff {node e : Expr F} : node ∈ e.nodes ↔ Occurs node e := by
  constructor
  · induction e using Expr.induction with
    | number value | var name =>
      intro h
      rw [List.mem_singleton.mp h]
      exact .self
    | unary op operand ih =>
      intro h
      simp only [nodes, List.mem_append, List.mem_singleton] at h
      rcases h with h | rfl
      · exact .operand (ih h)
      · exact .self
    | binary left op right ihl ihr =>
      intro h
      simp only [nodes, List.mem_append, List.mem_singleton] at h
      rcases h with h | h | rfl
      · exact .left (ihl h)
      · exact .right (ihr h)
      · exact .self
    | call callee args ih =>
      intro h
      simp only [nodes, List.mem_append, List.mem_singleton, mem_nodesAll_iff] at h
      rcases h with ⟨arg, harg, h⟩ | rfl
      · exact .arg harg (ih arg harg h)
      · exact .self
    | cast value type ih =>
      intro h
      simp only [nodes, List.mem_append, List.mem_singleton] at h
      rcases h with h | rfl
      · exact .value (ih h)
      · exact .self
  · intro h
    induction h with
    | self => cases node <;> simp [nodes]
    | operand _ ih => exact List.mem_append_left _ ih
    | left _ ih => exact List.mem_append_left _ ih
    | right _ ih => exact List.mem_append_right _ (List.mem_append_left _ ih)
    | arg hmem _ ih => exact List.mem_append_left _ (mem_nodesAll_iff.mpr ⟨_, hmem, ih⟩)
    | value _ ih => exact List.mem_append_left _ ih

end Expr

/-! ## 2. Where an evaluation can fail -/

/-- The value of a variable, if it is bound. -/
def State.look (s : State F) (name : String) : Option F := Dictionary.get? name s.vars

/-- What goes wrong at a node itself when all that it is made of has a value. -/
def Expr.fault? (s : State F) : Expr F → Option Fault
  | .var name => if s.look name = none then some (.unboundVariable name) else none
  | .call callee _ => if callee = "max" then none else some (.unknownFunction callee)
  | .number _ | .unary .. | .binary .. | .cast .. => none

/-- A node has a fault exactly if it is a variable that is not bound, or a call of a function other
than `max`. -/
theorem Expr.fault?_ne_none_iff {s : State F} {node : Expr F} :
    node.fault? s ≠ none ↔
      (∃ name, node = .var name ∧ s.look name = none) ∨
        ∃ callee args, node = .call callee args ∧ callee ≠ "max" := by
  cases node <;> simp [fault?]

/-- The node of number `k`, counted from 0, is the first one of the list with a fault, and `f` is
its fault. -/
structure FirstFault (s : State F) (nodes : List (Expr F)) (k : Nat) (f : Fault) : Prop where
  found : ∃ node, nodes[k]? = some node ∧ node.fault? s = some f
  least : ∀ j < k, ∀ earlier, nodes[j]? = some earlier → earlier.fault? s = none

theorem exists_firstFault_iff {s : State F} {nodes : List (Expr F)} {f : Fault} :
    (∃ k, FirstFault s nodes k f) ↔ nodes.findSome? (·.fault? s) = some f := by
  rw [List.findSome?_eq_some_iff]
  constructor
  · rintro ⟨k, ⟨node, hk, hf⟩, hleast⟩
    obtain ⟨hlt, rfl⟩ := List.getElem?_eq_some_iff.mp hk
    refine ⟨nodes.take k, nodes[k], nodes.drop (k + 1), ?_, hf, fun earlier hmem => ?_⟩
    · rw [← List.drop_eq_getElem_cons hlt, List.take_append_drop]
    · obtain ⟨j, hj, rfl⟩ := List.mem_take_iff_getElem.mp hmem
      exact hleast j (by omega) _ (List.getElem?_eq_getElem _)
  · rintro ⟨before, node, rest, rfl, hf, hnone⟩
    refine ⟨before.length, ⟨node, by simp, hf⟩, fun j hj earlier he => ?_⟩
    rw [List.getElem?_append_left hj] at he
    exact hnone earlier (List.mem_of_getElem? he)

theorem FirstFault.index_eq {s : State F} {nodes : List (Expr F)} {k : Nat} {f : Fault}
    (h : FirstFault s nodes k f) : nodes.findIdx (fun node => (node.fault? s).isSome) = k := by
  obtain ⟨node, hk, hf⟩ := h.found
  obtain ⟨hlt, rfl⟩ := List.getElem?_eq_some_iff.mp hk
  rw [List.findIdx_eq hlt]
  refine ⟨by rw [hf]; rfl, fun j hj => ?_⟩
  rw [h.least j hj _ (List.getElem?_eq_getElem _)]
  rfl

/-! ## 3. Runs that walk over nodes -/

/-- The end of a run that leaves its state alone: with a value, or with a fault. -/
def leave (s : State F) : Except Fault α → EStateM.Result Fault (State F) α
  | .ok x => .ok x s
  | .error f => .error f s

theorem bind_of_value {m : Run F α} {k : α → Run F β} {s : State F} {x : α}
    (h : m s = leave s (.ok x)) : (m >>= k) s = k x s := by
  simp only [Bind.bind, EStateM.bind, h, leave]

theorem bind_of_fault {m : Run F α} {k : α → Run F β} {s : State F} {f : Fault}
    (h : m s = leave s (.error f)) : (m >>= k) s = leave s (.error f) := by
  simp only [Bind.bind, EStateM.bind, h, leave]

/-- The fault of an outcome, unless it is a value. -/
def failure? : Except Fault α → Option Fault
  | .ok _ => none
  | .error f => some f

/-- Two states have the same values for some variables, or none in either. -/
def AgreeOn (names : String → Prop) (s t : State F) : Prop :=
  ∀ name, names name → s.look name = t.look name

theorem FirstFault.congr {s t : State F} {nodes : List (Expr F)} {k : Nat} {f : Fault}
    (h : FirstFault s nodes k f) (hagree : AgreeOn (fun name => .var name ∈ nodes) s t) :
    FirstFault t nodes k f := by
  have hfault : ∀ node ∈ nodes, node.fault? t = node.fault? s := by
    intro node hmem
    cases node with
    | var name => rw [Expr.fault?, Expr.fault?, hagree name hmem]
    | number | unary | binary | call | cast => rfl
  obtain ⟨node, hk, hf⟩ := h.found
  refine ⟨⟨node, hk, (hfault node (List.mem_of_getElem? hk)).trans hf⟩, fun j hj earlier he => ?_⟩
  exact (hfault earlier (List.mem_of_getElem? he)).trans (h.least j hj earlier he)

/-- **A run walks over nodes**: from states in which their variables agree it has one outcome, a
value or the fault of the first node that has one, and it leaves both states alone. -/
def Walks (nodes : List (Expr F)) (m : Run F α) : Prop :=
  ∀ s t, AgreeOn (fun name => .var name ∈ nodes) s t → ∃ r : Except Fault α,
    m s = leave s r ∧ m t = leave t r ∧ failure? r = nodes.findSome? (·.fault? s)

theorem readVar_apply (name : String) (s : State F) :
    readVar name s = leave s (match s.look name with
      | some x => .ok x
      | none => .error (.unboundVariable name)) := by
  unfold readVar State.look
  cases Dictionary.get? name s.vars <;> rfl

theorem applyFunction_apply [Arithmetic F] (callee : String) (values : List F) (s : State F) :
    applyFunction callee values s = leave s (if callee = "max" then
      .ok (values.foldl Arithmetic.larger Arithmetic.lowest)
      else .error (.unknownFunction callee)) := by
  unfold applyFunction
  split <;> rfl

namespace Walks

theorem pure (x : α) : Walks [] (Pure.pure x : Run F α) :=
  fun _ _ _ => ⟨.ok x, rfl, rfl, rfl⟩

/-- Without a fault at its nodes a walk is followed by the next one. -/
theorem bind {nodes rest : List (Expr F)} {m : Run F α} {k : α → Run F β} (hm : Walks nodes m)
    (hk : ∀ x, Walks rest (k x)) : Walks (nodes ++ rest) (m >>= k) := by
  intro s t h
  obtain ⟨r, hs, ht, hr⟩ := hm s t fun name hmem => h name (List.mem_append_left _ hmem)
  rw [List.findSome?_append, ← hr]
  -- a walk without a fault is back in the two states it started from, so they still agree
  cases r with
  | error f => exact ⟨.error f, bind_of_fault hs, bind_of_fault ht, rfl⟩
  | ok x =>
    rw [bind_of_value hs, bind_of_value ht]
    exact hk x s t fun name hmem => h name (List.mem_append_right _ hmem)

/-- A node that has a fault in no state and leaves everything alone. -/
theorem node {node : Expr F} (hnone : ∀ s, node.fault? s = none) (x : α) :
    Walks [node] (Pure.pure x : Run F α) :=
  fun s _ _ => ⟨.ok x, rfl, rfl, by rw [List.findSome?_singleton, hnone]; rfl⟩

theorem readVar (name : String) : Walks [.var name] (readVar name : Run F F) := by
  intro s t h
  have hst : t.look name = s.look name := (h name List.mem_cons_self).symm
  refine ⟨_, readVar_apply name s, by rw [readVar_apply, hst], ?_⟩
  cases hs : s.look name <;> simp [failure?, Expr.fault?, hs]

theorem applyFunction [Arithmetic F] (callee : String) (args : List (Expr F)) (values : List F) :
    Walks [.call callee args] (applyFunction callee values) := by
  intro s t _
  refine ⟨_, applyFunction_apply callee values s, applyFunction_apply callee values t, ?_⟩
  by_cases h : callee = "max" <;> simp [failure?, Expr.fault?, h]

variable [Arithmetic F]

theorem evalAll {args : List (Expr F)} (h : ∀ arg ∈ args, Walks arg.nodes arg.eval) :
    Walks (Expr.nodesAll args) (Expr.evalAll args) := by
  induction args with
  | nil => exact .pure []
  | cons arg args ih =>
    obtain ⟨hfirst, hrest⟩ := List.forall_mem_cons.mp h
    have hthen (x : F) : Walks (Expr.nodesAll args) (do
        let xs ← Expr.evalAll args
        Pure.pure (x :: xs)) := by
      simpa using (ih hrest).bind fun xs => .pure (x :: xs)
    exact hfirst.bind hthen

/-- **Evaluation walks over the nodes of the expression** in their order. -/
theorem eval (e : Expr F) : Walks e.nodes e.eval := by
  induction e using Expr.induction with
  | number value => exact .node (fun _ => rfl) value
  | var name => exact .readVar name
  | unary op operand ih => exact ih.bind fun x => .node (fun _ => rfl) (op.apply x)
  | binary left op right ihl ihr =>
    exact ihl.bind fun x => ihr.bind fun y => .node (fun _ => rfl) (op.apply x y)
  | call callee args ih => exact (evalAll ih).bind fun values => .applyFunction callee args values
  | cast value type ih => exact ih.bind fun x => .node (fun _ => rfl) (castTo type x)

end Walks

/-! ## 4. Expressions -/

variable [Arithmetic F]

/-- A variable that has a value is read with it. -/
theorem Expr.eval_var {name : String} {x : F} {s : State F} (h : s.look name = some x) :
    (Expr.var name).eval s = .ok x s := by
  rw [Expr.eval, readVar_apply, h]
  rfl

theorem Expr.eval_eq_error_iff {e : Expr F} {s s' : State F} {f : Fault} :
    e.eval s = .error f s' ↔ s' = s ∧ e.nodes.findSome? (·.fault? s) = some f := by
  obtain ⟨r, hs, -, hr⟩ := Walks.eval e s s fun _ _ => rfl
  rw [hs, ← hr]
  cases r with
  | ok x => simp [leave, failure?]
  | error g => simp [leave, failure?, and_comm, eq_comm]

/-- An evaluation fails if any node of the expression has a fault. -/
theorem Expr.eval_fails_iff {e : Expr F} {s : State F} :
    (∃ f s', e.eval s = .error f s') ↔ ∃ node ∈ e.nodes, node.fault? s ≠ none := by
  have hfault : (∃ f s', e.eval s = .error f s') ↔
      ∃ f, e.nodes.findSome? (·.fault? s) = some f := by
    simp only [eval_eq_error_iff, exists_eq_left]
  rw [hfault, ← Option.isSome_iff_exists, List.findSome?_isSome_iff]
  simp only [Option.isSome_iff_ne_none]

/-- **Evaluation is pure, and it fails exactly when it must.** It leaves every state alone. It ends
with the fault of the first node that has one, in the order in which nodes run; so it fails exactly
if somewhere in the expression stands a variable that is not bound or a call of a function other
than `max`. And nothing but the values of its variables makes a difference. -/
theorem Expr.eval_outcome (e : Expr F) :
    (∀ s, ∃ r, e.eval s = leave s r) ∧
    (∀ s f, e.eval s = .error f s ↔ ∃ k, FirstFault s e.nodes k f) ∧
    (∀ s, (∃ f s', e.eval s = .error f s') ↔
      (∃ name, Occurs (.var name) e ∧ s.look name = none) ∨
        ∃ callee args, Occurs (.call callee args) e ∧ callee ≠ "max") ∧
    ∀ s t, AgreeOn (fun name => Occurs (.var name) e) s t →
      ∃ r, e.eval s = leave s r ∧ e.eval t = leave t r := by
  refine ⟨fun s => ?_, fun s f => ?_, fun s => ?_, fun s t h => ?_⟩
  · obtain ⟨r, hs, -, -⟩ := Walks.eval e s s fun _ _ => rfl
    exact ⟨r, hs⟩
  · rw [eval_eq_error_iff, exists_firstFault_iff]
    exact and_iff_right rfl
  · rw [eval_fails_iff]
    constructor
    · rintro ⟨node, hmem, hf⟩
      rw [mem_nodes_iff] at hmem
      rcases fault?_ne_none_iff.mp hf with ⟨name, rfl, hunbound⟩ | ⟨callee, args, rfl, hunknown⟩
      · exact .inl ⟨name, hmem, hunbound⟩
      · exact .inr ⟨callee, args, hmem, hunknown⟩
    · rintro (⟨name, hoccurs, hunbound⟩ | ⟨callee, args, hoccurs, hunknown⟩)
      · exact ⟨_, mem_nodes_iff.mpr hoccurs, fault?_ne_none_iff.mpr (.inl ⟨name, rfl, hunbound⟩)⟩
      · exact ⟨_, mem_nodes_iff.mpr hoccurs,
          fault?_ne_none_iff.mpr (.inr ⟨callee, args, rfl, hunknown⟩)⟩
  · obtain ⟨r, hs, ht, -⟩ := Walks.eval e s t fun name hmem => h name (mem_nodes_iff.mp hmem)
    exact ⟨r, hs, ht⟩

/-- The arguments of a call run before its function is looked up, so of the two faults in
`x + min(1, y)` the one of `y` is reported. What is printed and what `z` is has no part in it. -/
theorem Expr.eval_outcome_before_callee :
    let e : Expr Float := .binary (.var "x") .add (.call "min" [.number 1.0, .var "y"])
    let s : State Float := ⟨[("x", 2.0)], []⟩
    let t : State Float := ⟨[("z", 3.0), ("x", 2.0)], [4.0]⟩
    AgreeOn (fun name => Occurs (.var name) e) s t ∧
      FirstFault s e.nodes 2 (.unboundVariable "y") ∧
      e.eval s = .error (.unboundVariable "y") s ∧ e.eval t = .error (.unboundVariable "y") t := by
  intro e s t
  have hagree : AgreeOn (fun name => Occurs (.var name) e) s t := by
    intro name h
    rcases (by simpa [e, nodes, nodesAll] using mem_nodes_iff.mpr h : name = "x" ∨ name = "y") with
      rfl | rfl
    · rfl
    · rfl
  have hfirst : FirstFault s e.nodes 2 (.unboundVariable "y") := by
    refine ⟨⟨.var "y", rfl, rfl⟩, fun j hj earlier he => ?_⟩
    have : j = 0 ∨ j = 1 := by omega
    rcases this with rfl | rfl <;> cases he <;> rfl
  have hs : e.eval s = .error (.unboundVariable "y") s :=
    ((eval_outcome e).2.1 s _).mpr ⟨2, hfirst⟩
  obtain ⟨r, hs', ht⟩ := (eval_outcome e).2.2.2 s t hagree
  rw [hs] at hs'
  cases r with
  | ok x => cases hs'
  | error f =>
    cases hs'
    exact ⟨hagree, hfirst, hs, ht⟩

end VisitorNodes.Calculator
