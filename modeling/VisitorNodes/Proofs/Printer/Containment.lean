import VisitorNodes.Printer.Rust
import VisitorNodes.Proofs.Printer.Mentions
import VisitorNodes.Proofs.Reading
import Mathlib.Logic.Relation
/-!
# What the types of a Rust text hold by value

A Rust text declares the enumeration of a category and a structure per node type. The enumeration
holds each structure by value, and a structure holds what stands in its fields' stored types behind
no pointer (`Holds`). A cycle among these types would leave them without a finite size.

Boxing looks at the category only. It keeps every cycle away from the enumeration, because no
structure holds that by value (`not_holds_base`); what is left are cycles of structures that name
one another in their fields (`holds_cycle_mutual`). So the graph has no cycle as long as the
variants do not name one another in a cycle, and none is named like the box itself
(`cycles_avoid_enumeration`).
-/

namespace VisitorNodes.Rust

open Boxing Relation

/-! ## 1. The types of a text -/

/-- The types that a text declares: the enumeration, and a structure per node type. -/
inductive Declared where
  | base
  | node (name : String)
  deriving Repr, DecidableEq

/-- The name under which a type is declared. -/
def Declared.name (m : Module) : Declared → String
  | .base => m.base
  | .node name => name

/-- The type is declared by the text of the module. -/
def Declared.IsIn (m : Module) : Declared → Prop
  | .base => True
  | .node name => ∃ node ∈ m.nodes, node.name = name

/-- A name stands in a type by value: as a whole word somewhere, and there behind no pointer. -/
def ByValue (name type : String) : Prop :=
  ∃ before after, type.toList = before ++ name.toList ++ after ∧
    IsWholeWord before name.toList after ∧ ¬ BehindPointer before

/-- **Containment by value.** The enumeration holds every structure. A structure holds every
declared type that stands by value in the stored type of one of its fields. -/
inductive Holds (m : Module) : Declared → Declared → Prop where
  | variant {node : NodeType} (hn : node ∈ m.nodes) : Holds m .base (.node node.name)
  | field {node : NodeType} {member : Member} {x : Declared} (hn : node ∈ m.nodes)
      (hm : member ∈ node.members) (hx : x.IsIn m)
      (hv : ByValue (x.name m) (storedType m member)) : Holds m (.node node.name) x

/-- A structure holds another by value. -/
def StructHolds (m : Module) (a b : String) : Prop := Holds m (.node a) (.node b)

/-! ## 2. The enumeration is held by nothing -/

variable {m : Module}

/-- The category stands by value in no stored type. -/
theorem not_byValue_base (hbox : m.base ≠ "Box") (member : Member) :
    ¬ ByValue m.base (storedType m member) := by
  intro given
  obtain ⟨before, after, e, hword, hfree⟩ := given
  rcases wholeWord_box e hword with hname | ⟨_, hguard⟩
  · exact hbox (String.toList_inj.mp hname)
  · exact hfree (hguard rfl)

theorem not_holds_base (hbox : m.base ≠ "Box") (x : Declared) : ¬ Holds m x .base := by
  intro h
  cases h with
  | field _ _ _ hv => exact not_byValue_base hbox _ hv

/-- What is reached is a structure, and from a structure it is reached through structures. -/
theorem transGen_structHolds (hbox : m.base ≠ "Box") {a : String} {y : Declared}
    (h : TransGen (Holds m) (.node a) y) : ∃ b, y = .node b ∧ TransGen (StructHolds m) a b := by
  induction h with
  | @single y hy =>
    cases y with
    | base => exact absurd hy (not_holds_base hbox _)
    | node b => exact ⟨b, rfl, .single hy⟩
  | @tail y z _ hz ih =>
    obtain ⟨b, rfl, hb⟩ := ih
    cases z with
    | base => exact absurd hz (not_holds_base hbox _)
    | node c => exact ⟨c, rfl, hb.tail hz⟩

/-- **Every cycle is a cycle of structures.** -/
theorem cycle_structHolds (hbox : m.base ≠ "Box") {x : Declared} (h : TransGen (Holds m) x x) :
    ∃ a, x = .node a ∧ TransGen (StructHolds m) a a := by
  cases x with
  | base =>
    obtain ⟨y, _, hy⟩ := TransGen.tail'_iff.mp h
    exact absurd hy (not_holds_base hbox y)
  | node a =>
    obtain ⟨b, e, hb⟩ := transGen_structHolds hbox h
    cases e
    exact ⟨a, rfl, hb⟩

end VisitorNodes.Rust

namespace VisitorNodes

open Boxing Relation Rust

/-! ## 3. Structures of a category -/

/-- A structure holds another when a field of the one's variant holds the other's name. -/
theorem structHolds_iff {c : Category} {a b : String} :
    StructHolds c.toModule a b ↔ ∃ v ∈ c.variants, ∃ v' ∈ c.variants, v.name = a ∧ v'.name = b ∧
      ∃ f ∈ v.fields, ByValue b (Boxing.box f.type c.name) := by
  constructor
  · intro h
    cases h with
    | field hn hm hx hv =>
      obtain ⟨v, hvar, rfl⟩ := List.mem_map.mp hn
      obtain ⟨f, hf, rfl⟩ := List.mem_map.mp hm
      obtain ⟨node, hnode, hname⟩ := hx
      obtain ⟨v', hvar', rfl⟩ := List.mem_map.mp hnode
      exact ⟨v, hvar, v', hvar', rfl, hname, f, hf, hv⟩
  · intro given
    obtain ⟨v, hvar, v', hvar', rfl, rfl, f, hf, hv⟩ := given
    have hx : Declared.IsIn c.toModule (.node v'.name) :=
      ⟨.ofVariant c.name v', List.mem_map_of_mem hvar', rfl⟩
    have hn : NodeType.ofVariant c.name v ∈ c.toModule.nodes := List.mem_map_of_mem hvar
    have hm : Member.ofField f ∈ (NodeType.ofVariant c.name v).members := List.mem_map_of_mem hf
    exact Holds.field hn hm hx hv

/-- Two variants that hold each other: only the category is boxed. -/
theorem holds_cycle_mutual :
    IsWholeWord [] "Expr".toList [] ∧ "Expr" ≠ "Box" ∧
      ∃ c, (Category.read "Expr" ["Neg : Not operand", "Not : Neg operand"]).result = .ok c ∧
        TransGen (Holds c.toModule) (.node "Neg") (.node "Neg") := by
  have hname : ¬ Category.Unnamed "Expr" := by decide
  obtain ⟨c, hread, hc⟩ : ∃ c : Category, (Category.read "Expr"
      ["Neg : Not operand", "Not : Neg operand"]).result = .ok c ∧
      c = ⟨"Expr", [⟨"Neg", [⟨"Not", "operand"⟩]⟩, ⟨"Not", [⟨"Neg", "operand"⟩]⟩]⟩ := by
    refine ⟨_, ?_, rfl⟩
    exact Category.read_eq_ok_iff.mpr ⟨hname, rfl, .cons rfl (.cons rfl .nil)⟩
  have hneg : ByValue "Neg" (Boxing.box "Neg" "Expr") :=
    ⟨[], [], by decide +kernel, isWholeWord_alone (by decide) (by decide), by decide⟩
  have hnot : ByValue "Not" (Boxing.box "Not" "Expr") :=
    ⟨[], [], by decide +kernel, isWholeWord_alone (by decide) (by decide), by decide⟩
  have hforth : StructHolds c.toModule "Neg" "Not" := by
    rw [hc]
    exact structHolds_iff.mpr ⟨_, List.mem_cons_self, _, List.mem_cons_of_mem _ List.mem_cons_self,
      rfl, rfl, _, List.mem_cons_self, hnot⟩
  have hback : StructHolds c.toModule "Not" "Neg" := by
    rw [hc]
    exact structHolds_iff.mpr ⟨_, List.mem_cons_of_mem _ List.mem_cons_self, _, List.mem_cons_self,
      rfl, rfl, _, List.mem_cons_self, hneg⟩
  exact ⟨isWholeWord_alone (by decide) (by decide), by decide, c, hread,
    .head hforth (.single hback)⟩

/-! ## 4. Variants that name one another -/

/-- A variant has a field whose type names another variant, as a whole word of the type as it stands
in the grammar. -/
def Category.Names (c : Category) (a b : String) : Prop :=
  ∃ v ∈ c.variants, ∃ v' ∈ c.variants, v.name = a ∧ v'.name = b ∧
    ∃ f ∈ v.fields, IsWordOf b.toList f.type.toList

/-- Boxing adds no name but its own to a type. -/
theorem names_of_structHolds {c : Category} (hbox : ∀ v ∈ c.variants, v.name ≠ "Box") {a b : String}
    (h : StructHolds c.toModule a b) : c.Names a b := by
  obtain ⟨v, hv, v', hv', ha, hb, f, hf, before, after, e, hword, _⟩ := structHolds_iff.mp h
  rcases wholeWord_box e hword with hname | ⟨hword, _⟩
  · exact absurd (hb.trans (String.toList_inj.mp hname)) (hbox v' hv')
  · exact ⟨v, hv, v', hv', ha, hb, f, hf, hword⟩

/-- **No type of a Rust text holds the enumeration by value**, unless the category is named like the
box. So no cycle of containment passes through the enumeration: every cycle is one of structures that
name one another in their stored types. There is no cycle at all if the variants do not name one
another in a cycle in the grammar, and none is named like the box. -/
theorem cycles_avoid_enumeration (c : Category) (hbox : c.name ≠ "Box") :
    (∀ x, ¬ Holds c.toModule x .base) ∧
    (∀ x, TransGen (Holds c.toModule) x x →
      ∃ a, x = .node a ∧ TransGen (StructHolds c.toModule) a a) ∧
    ((∀ v ∈ c.variants, v.name ≠ "Box") → (∀ a, ¬ TransGen c.Names a a) →
      ∀ x, ¬ TransGen (Holds c.toModule) x x) := by
  have hbase : c.toModule.base ≠ "Box" := hbox
  refine ⟨not_holds_base hbase, fun x => cycle_structHolds hbase, fun hnames hacyclic x hx => ?_⟩
  obtain ⟨a, _, ha⟩ := cycle_structHolds hbase hx
  exact hacyclic a (TransGen.mono (fun _ _ => names_of_structHolds hnames) a a ha)

/-- Statements that hold their category in every way, and one another in one direction. -/
theorem cycles_avoid_enumeration_statements :
    "Stmt" ≠ "Box" ∧ ∃ c, (Category.read "Stmt" ["Block : Vec<Stmt> items",
        "If : Stmt then, Option<Else> otherwise", "Else : Box<Stmt> body"]).result = .ok c ∧
      ∀ x, ¬ Holds c.toModule x .base ∧ ¬ TransGen (Holds c.toModule) x x := by
  have hname : ¬ Category.Unnamed "Stmt" := by decide
  obtain ⟨c, hread, hc⟩ : ∃ c : Category, (Category.read "Stmt" ["Block : Vec<Stmt> items",
      "If : Stmt then, Option<Else> otherwise", "Else : Box<Stmt> body"]).result = .ok c ∧
      c = ⟨"Stmt", [⟨"Block", [⟨"Vec<Stmt>", "items"⟩]⟩,
        ⟨"If", [⟨"Stmt", "then"⟩, ⟨"Option<Else>", "otherwise"⟩]⟩,
        ⟨"Else", [⟨"Box<Stmt>", "body"⟩]⟩]⟩ := by
    refine ⟨_, ?_, rfl⟩
    exact Category.read_eq_ok_iff.mpr ⟨hname, rfl, .cons rfl (.cons rfl (.cons rfl .nil))⟩
  -- only `If` names a variant, and that is `Else`
  have honly : ∀ v ∈ c.variants, ∀ v' ∈ c.variants,
      (∃ f ∈ v.fields, IsWordOf v'.name.toList f.type.toList) → v.name = "If" ∧ v'.name = "Else" := by
    rw [hc]
    decide +kernel
  have hnames : ∀ a b, c.Names a b → a = "If" ∧ b = "Else" := by
    intro a b given
    obtain ⟨v, hv, v', hv', rfl, rfl, hword⟩ := given
    exact honly v hv v' hv' hword
  obtain ⟨hbase, _, hacyclic⟩ := cycles_avoid_enumeration c (by rw [hc]; decide)
  refine ⟨by decide, c, hread, fun x => ⟨hbase x, hacyclic (by rw [hc]; decide) (fun a ha => ?_) x⟩⟩
  obtain ⟨b, hfirst, _⟩ := TransGen.head'_iff.mp ha
  obtain ⟨b', _, hlast⟩ := TransGen.tail'_iff.mp ha
  exact absurd ((hnames _ _ hfirst).1.symm.trans (hnames _ _ hlast).2) (by decide)

end VisitorNodes
