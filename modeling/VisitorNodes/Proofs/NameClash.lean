import VisitorNodes.Module
import VisitorNodes.Proofs.Reading
import VisitorNodes.Proofs.Text.Letter
/-!
# Names that clash

Visit methods and accessors are named by words of the grammar with the first character upper-cased.
A warning compares the words as they stand. So a category that is read without a warning has no two
equal words where that matters (`warnings_eq_nil_iff`), and a clash among the derived names is left
only where two different words become equal by capitalizing them (`Naming.Collide`), as `left` and
`Left` do. `clash_iff` says so for methods and for accessors, and that the accessor `Accept`, the
name of the method beside it, comes from the words `accept` and `Accept` alone.
-/

namespace VisitorNodes

open Grammar Text

/-! ## 1. Capitalized words -/

namespace Text

theorem upperExpansions_accept : ∀ e ∈ upperExpansions,
    ¬ e.2.map Char.ofNat <+: "Accept".toList := by decide +kernel

theorem upperShifts_accept : ∀ s ∈ upperShifts, ∀ k ∈ List.range (s.last - s.first + 1),
    ¬ [Char.ofNat (s.target + k)] <+: "Accept".toList := by
  have hmisses : upperShifts.all (Shift.misses [('A'.toNat, 'A'.toNat)]) = true := by decide +kernel
  intro s hs k hk h
  obtain ⟨rest, e⟩ := h
  have hA : Char.ofNat (s.target + k) = 'A' := (List.cons.inj e).1
  refine Shift.not_liesIn (List.all_eq_true.mp hmisses s hs) hk ?_
  rw [hA]
  decide

/-- Beyond ASCII no character is upper-cased to a beginning of `Accept`. -/
theorem upperCase_not_accept {c : Char} (hc : ¬ c.toNat < 0x80) :
    ¬ upperCase c <+: "Accept".toList := by
  rw [upperCase_not_ascii hc]
  refine mapCase_cases (P := fun cs => ¬ cs <+: "Accept".toList) upperExpansions_accept
    upperShifts_accept fun h => hc ?_
  obtain ⟨rest, e⟩ := h
  rw [(List.cons.inj e).1]
  decide

theorem capitalize_cons (c : Char) (cs : List Char) : capitalize (c :: cs) = upperCase c ++ cs := rfl

/-- **Only `accept` and `Accept` are capitalized to `Accept`.** -/
theorem capitalize_eq_accept_iff {cs : List Char} :
    capitalize cs = "Accept".toList ↔ cs = "accept".toList ∨ cs = "Accept".toList := by
  constructor
  · intro h
    cases cs with
    | nil => cases h
    | cons c cs =>
      rw [capitalize_cons] at h
      by_cases hc : c.toNat < 0x80
      · have hascii : ∀ n : Fin 128, (Char.ofNat n).toUpper = 'A' →
            Char.ofNat n = 'a' ∨ Char.ofNat n = 'A' := by decide +kernel
        have hfirst := ascii_induction (P := fun c => c.toUpper = 'A' → c = 'a' ∨ c = 'A') hascii hc
        rw [upperCase_ascii hc] at h
        obtain ⟨hA, hrest⟩ := List.cons.inj h
        change cs = "ccept".toList at hrest
        rw [hrest]
        exact (hfirst hA).imp (congrArg (· :: _)) (congrArg (· :: _))
      · exact absurd ⟨cs, h⟩ (upperCase_not_accept hc)
  · intro h
    rcases h with rfl | rfl <;> decide

/-- ASCII letters in lower case come back from upper case. -/
theorem toLower_toUpper_of_isLower {c : Char} (hc : c.isLower = true) :
    c.toNat < 0x80 ∧ c.toUpper.toLower = c := by
  have hascii : ∀ n : Fin 128, (Char.ofNat n).isLower = true →
      (Char.ofNat n).toUpper.toLower = Char.ofNat n := by decide +kernel
  have hlt : c.toNat < 0x80 := by
    have hz : c.toNat ≤ 'z'.toNat := of_decide_eq_true (Bool.and_eq_true_iff.mp hc).2
    exact Nat.lt_of_le_of_lt hz (by decide)
  exact ⟨hlt, ascii_induction (P := fun c => c.isLower = true → c.toUpper.toLower = c) hascii hlt hc⟩

/-- Words that begin with a small ASCII letter are told apart also when they are capitalized. -/
theorem capitalize_inj_of_isLower {c d : Char} (hc : c.isLower = true) (hd : d.isLower = true)
    {cs ds : List Char} (h : capitalize (c :: cs) = capitalize (d :: ds)) : c :: cs = d :: ds := by
  obtain ⟨hclt, hcback⟩ := toLower_toUpper_of_isLower hc
  obtain ⟨hdlt, hdback⟩ := toLower_toUpper_of_isLower hd
  rw [capitalize_cons, capitalize_cons, upperCase_ascii hclt, upperCase_ascii hdlt] at h
  obtain ⟨hupper, hrest⟩ := List.cons.inj h
  change cs = ds at hrest
  rw [← hcback, ← hdback, hupper, hrest]

end Text

namespace Naming

/-- Two words that differ, but no longer when they are capitalized. -/
def Collide (a b : String) : Prop := a ≠ b ∧ capitalize a = capitalize b

instance (a b : String) : Decidable (Collide a b) := inferInstanceAs (Decidable (_ ∧ _))

theorem capitalize_eq_iff {a b : String} :
    capitalize a = capitalize b ↔ Text.capitalize a.toList = Text.capitalize b.toList :=
  String.ofList_inj

theorem accessor_eq_accept_iff {field : String} :
    accessor field = "Accept" ↔ field = "accept" ∨ field = "Accept" := by
  unfold accessor capitalize
  rw [← String.toList_inj, String.toList_ofList, capitalize_eq_accept_iff, String.toList_inj,
    String.toList_inj]

theorem visitMethod_eq_iff {a b category : String} :
    visitMethod a category = visitMethod b category ↔ capitalize a = capitalize b := by
  unfold visitMethod
  rw [String.append_left_inj, String.append_right_inj]

/-- Among different words, derived names clash where words collide. -/
theorem nodup_map_iff {derive : String → String}
    (hd : ∀ a b, derive a = derive b ↔ capitalize a = capitalize b) {words : List String}
    (h : words.Nodup) :
    (words.map derive).Nodup ↔ words.Pairwise fun a b => ¬ Collide a b := by
  unfold List.Nodup
  rw [List.pairwise_map]
  constructor
  · intro hpair
    exact hpair.imp fun hne hcollide => hne ((hd _ _).mpr hcollide.2)
  · intro hpair
    exact hpair.imp₂ (fun a b hfree hne he => hfree ⟨hne, (hd a b).mp he⟩) h

/-- Words whose first characters are of one case: all begin as they would capitalized, or all with a
small ASCII letter. -/
def OneCase (words : List String) : Prop :=
  (∀ w ∈ words, capitalize w = w) ∨ ∀ w ∈ words, w.toList.head?.any (·.isLower) = true

instance (words : List String) : Decidable (OneCase words) := inferInstanceAs (Decidable (_ ∨ _))

theorem exists_of_head?_any {α : Type} {p : α → Bool} {xs : List α} (h : xs.head?.any p = true) :
    ∃ x xs', xs = x :: xs' ∧ p x = true := by
  cases xs with
  | nil => cases h
  | cons x xs => exact ⟨x, xs, rfl, h⟩

/-- **Words of one case do not collide.** -/
theorem OneCase.pairwise {words : List String} (h : OneCase words) :
    words.Pairwise fun a b => ¬ Collide a b := by
  refine List.pairwise_of_forall_mem_list fun a ha b hb hcollide => hcollide.1 ?_
  rcases h with hfixed | hlower
  · exact (hfixed a ha).symm.trans (hcollide.2.trans (hfixed b hb))
  · obtain ⟨c, cs, hacs, hc⟩ := exists_of_head?_any (hlower a ha)
    obtain ⟨d, ds, hbds, hd⟩ := exists_of_head?_any (hlower b hb)
    have heq := capitalize_eq_iff.mp hcollide.2
    rw [hacs, hbds] at heq
    rw [← String.toList_inj, hacs, hbds, capitalize_inj_of_isLower hc hd heq]

end Naming

/-! ## 2. Warnings -/

namespace Category

/-- Names that differ from one another and from those seen before, one name more in front. -/
theorem fresh_cons_iff {α : Type} {name : α → String} {x : α} {xs : List α} {seen : List String} :
    (x :: xs).Pairwise (fun a b => name a ≠ name b) ∧ (∀ y ∈ x :: xs, name y ∉ seen) ↔
      name x ∉ seen ∧ xs.Pairwise (fun a b => name a ≠ name b) ∧
        ∀ y ∈ xs, name y ∉ name x :: seen := by
  have hmem : (∀ y ∈ xs, name y ∉ name x :: seen) ↔
      (∀ y ∈ xs, name x ≠ name y) ∧ ∀ y ∈ xs, name y ∉ seen := by
    simp only [List.mem_cons, not_or, eq_comm, ← forall_and]
  rw [List.pairwise_cons, List.forall_mem_cons, hmem]
  tauto

theorem ite_singleton_eq_nil_iff {α : Type} {p : Prop} [Decidable p] {a : α} :
    (if p then [a] else []) = [] ↔ ¬ p := by
  split <;> simp [*]

/-- No field is warned about when its names are new. -/
theorem fieldWarnings_eq_nil_iff {category variant : String} {seen : List String}
    {fields : List Field} :
    fieldWarnings category variant seen fields = [] ↔
      fields.Pairwise (fun f g => f.name ≠ g.name) ∧ ∀ f ∈ fields, f.name ∉ seen := by
  induction fields generalizing seen with
  | nil => simp [fieldWarnings]
  | cons f fs ih =>
    rw [fieldWarnings, List.append_eq_nil_iff, ite_singleton_eq_nil_iff, ih, fresh_cons_iff]

/-- No variant is warned about when its name is new and its fields' names differ. -/
theorem variantWarnings_eq_nil_iff {category : String} {seen : List String}
    {variants : List Variant} :
    variantWarnings category seen variants = [] ↔
      (variants.Pairwise (fun v w => v.name ≠ w.name) ∧ ∀ v ∈ variants, v.name ∉ seen) ∧
        ∀ v ∈ variants, v.fields.Pairwise fun f g => f.name ≠ g.name := by
  induction variants generalizing seen with
  | nil => simp [variantWarnings]
  | cons v vs ih =>
    have hfields : fieldWarnings category v.name [] v.fields = [] ↔
        v.fields.Pairwise fun f g => f.name ≠ g.name :=
      fieldWarnings_eq_nil_iff.trans (and_iff_left fun _ _ => List.not_mem_nil)
    rw [variantWarnings, List.append_eq_nil_iff, List.append_eq_nil_iff, ite_singleton_eq_nil_iff,
      hfields, ih, fresh_cons_iff, List.forall_mem_cons]
    tauto

/-- **Nothing is warned about exactly when the names are distinct**, those of the variants, and
within each variant those of its fields. -/
theorem warnings_eq_nil_iff (c : Category) :
    c.warnings = [] ↔ (c.variants.map (·.name)).Nodup ∧
      ∀ v ∈ c.variants, (v.fields.map (·.name)).Nodup := by
  unfold warnings
  rw [variantWarnings_eq_nil_iff]
  simp only [List.Nodup, List.pairwise_map, List.not_mem_nil, not_false_eq_true, implies_true,
    and_true]

/-- Every report on duplicates is a warning. -/
theorem level_of_mem_warnings {c : Category} {e : Event} (h : e ∈ c.warnings) : e.level = .warn := by
  have hfields : ∀ (category variant : String) (seen : List String) (fields : List Field),
      ∀ e ∈ fieldWarnings category variant seen fields, e.level = .warn := by
    intro category variant seen fields
    induction fields generalizing seen with
    | nil => exact fun _ he => absurd he List.not_mem_nil
    | cons f fs ih =>
      unfold fieldWarnings
      rw [List.forall_mem_append]
      refine ⟨?_, ih _⟩
      split <;> simp [Event.level]
  have hvariants : ∀ (category : String) (seen : List String) (variants : List Variant),
      ∀ e ∈ variantWarnings category seen variants, e.level = .warn := by
    intro category seen variants
    induction variants generalizing seen with
    | nil => exact fun _ he => absurd he List.not_mem_nil
    | cons v vs ih =>
      unfold variantWarnings
      rw [List.forall_mem_append, List.forall_mem_append]
      refine ⟨⟨?_, hfields _ _ _ _⟩, ih _⟩
      split <;> simp [Event.level]
  exact hvariants _ _ _ e h

/-- The events of a category that was read end with its warnings. -/
theorem read_events_of_ok {name : String} {lines : List String} {c : Category}
    (h : (read name lines).result = .ok c) :
    (read name lines).events = (readLines lines).events ++ c.warnings := by
  obtain ⟨hname, rfl, hlines⟩ := read_eq_ok_iff.mp h
  have hn : isName c.name = true := by
    rw [← Bool.not_eq_false, isName_eq_false_iff]
    exact hname
  have hresult : (readLines lines).result = .ok c.variants := readLinesFrom_eq_ok_iff.mpr hlines
  unfold read
  rw [if_pos hn, Traced.andThen_events, hresult]

/-- The reading warned about nothing. -/
def ReadQuietly (name : String) (lines : List String) : Prop :=
  ∀ e ∈ (read name lines).events, e.level ≠ .warn

instance (name : String) (lines : List String) : Decidable (ReadQuietly name lines) :=
  inferInstanceAs (Decidable (∀ e ∈ (read name lines).events, e.level ≠ .warn))

theorem warnings_eq_nil_of_readQuietly {name : String} {lines : List String} {c : Category}
    (h : (read name lines).result = .ok c) (hquiet : ReadQuietly name lines) : c.warnings = [] := by
  refine List.eq_nil_iff_forall_not_mem.mpr fun e he => ?_
  refine hquiet e ?_ (level_of_mem_warnings he)
  rw [read_events_of_ok h]
  exact List.mem_append_right _ he

end Category

/-! ## 3. Clashes -/

section Clashes

open Naming

variable (c : Category)

/-- The visit methods are named by the variants, whose names are those of the nodes. -/
theorem methods_map_name : c.toModule.visitor.methods.map (·.name)
    = (c.variants.map (·.name)).map (visitMethod · c.name) := by
  rw [List.map_map]
  exact List.map_map

theorem nodes_map_name : c.toModule.nodes.map (·.name) = c.variants.map (·.name) :=
  List.map_map

/-- Accessors are named by the parameters beside them. -/
theorem members_map_accessor {node : NodeType} (h : node ∈ c.toModule.nodes) :
    node.members.map (·.accessor) = (node.members.map (·.param)).map accessor := by
  obtain ⟨v, _, rfl⟩ := List.mem_map.mp h
  unfold NodeType.ofVariant
  simp only [List.map_map]
  rfl

variable {c}

/-- Distinct field names are distinct parameters. -/
theorem nodup_params (hfields : ∀ v ∈ c.variants, (v.fields.map (·.name)).Nodup) {node : NodeType}
    (h : node ∈ c.toModule.nodes) : (node.members.map (·.param)).Nodup := by
  obtain ⟨v, hv, rfl⟩ := List.mem_map.mp h
  have e : ((NodeType.ofVariant c.name v).members.map (·.param)) = v.fields.map (·.name) :=
    List.map_map
  rw [e]
  exact hfields v hv

/-- **Without warnings, names clash only where words collide.** In the module of a category that was
read without a warning, the visit methods have different names exactly if no two variants collide,
the accessors of a node type exactly if no two of its parameters do, and one of them is named like
the method `Accept` exactly if a parameter is `accept` or `Accept`. In particular nothing clashes
among words whose first characters are of one case. -/
theorem clash_iff {name : String} {lines : List String}
    (h : (Category.read name lines).result = .ok c) (hquiet : Category.ReadQuietly name lines) :
    ((c.toModule.visitor.methods.map (·.name)).Nodup ↔
      (c.toModule.nodes.map (·.name)).Pairwise fun a b => ¬ Collide a b) ∧
    (OneCase (c.toModule.nodes.map (·.name)) → (c.toModule.visitor.methods.map (·.name)).Nodup) ∧
    ∀ node ∈ c.toModule.nodes,
      ((node.members.map (·.accessor)).Nodup ↔
        (node.members.map (·.param)).Pairwise fun a b => ¬ Collide a b) ∧
      (OneCase (node.members.map (·.param)) → (node.members.map (·.accessor)).Nodup) ∧
      ("Accept" ∈ node.members.map (·.accessor) ↔
        "accept" ∈ node.members.map (·.param) ∨ "Accept" ∈ node.members.map (·.param)) := by
  obtain ⟨hvariants, hfields⟩ :=
    c.warnings_eq_nil_iff.mp (Category.warnings_eq_nil_of_readQuietly h hquiet)
  have hmethods : (c.toModule.visitor.methods.map (·.name)).Nodup ↔
      (c.toModule.nodes.map (·.name)).Pairwise fun a b => ¬ Collide a b := by
    rw [methods_map_name, nodes_map_name]
    exact nodup_map_iff (fun _ _ => visitMethod_eq_iff) hvariants
  refine ⟨hmethods, fun hcase => hmethods.mpr hcase.pairwise, fun node hnode => ?_⟩
  have haccessors : (node.members.map (·.accessor)).Nodup ↔
      (node.members.map (·.param)).Pairwise fun a b => ¬ Collide a b := by
    rw [members_map_accessor c hnode]
    exact nodup_map_iff (fun _ _ => Iff.rfl) (nodup_params hfields hnode)
  refine ⟨haccessors, fun hcase => haccessors.mpr hcase.pairwise, ?_⟩
  rw [members_map_accessor c hnode, List.mem_map]
  simp only [accessor_eq_accept_iff, and_or_left, exists_or, exists_eq_right]

/-- **A category without warnings has clashing names**: two methods, two accessors of a node type,
and an accessor of another one with the method beside it. -/
theorem clash_capitalized :
    Category.ReadQuietly "Expr" ["Binary : Expr left, Expr Left", "binary : Visitor accept"] ∧
    ∃ c, (Category.read "Expr" ["Binary : Expr left, Expr Left", "binary : Visitor accept"]).result
        = .ok c ∧
      ¬ (c.toModule.visitor.methods.map (·.name)).Nodup ∧
      (∃ node ∈ c.toModule.nodes, ¬ (node.members.map (·.accessor)).Nodup) ∧
      ∃ node ∈ c.toModule.nodes, "Accept" ∈ node.members.map (·.accessor) := by
  have hname : ¬ Category.Unnamed "Expr" := by decide
  obtain ⟨c, hread, hc⟩ : ∃ c : Category, (Category.read "Expr"
        ["Binary : Expr left, Expr Left", "binary : Visitor accept"]).result = .ok c ∧
      c = ⟨"Expr", [⟨"Binary", [⟨"Expr", "left"⟩, ⟨"Expr", "Left"⟩]⟩,
        ⟨"binary", [⟨"Visitor", "accept"⟩]⟩]⟩ := by
    refine ⟨_, ?_, rfl⟩
    exact Category.read_eq_ok_iff.mpr ⟨hname, rfl, .cons rfl (.cons rfl .nil)⟩
  refine ⟨by decide +kernel, c, hread, ?_⟩
  rw [hc]
  decide +kernel

/-- Names of one case: variants begin with a capital, fields with a small letter. -/
theorem clash_iff_oneCase :
    Category.ReadQuietly "Expr" ["Binary : Expr left, Expr right", "Unary : Expr operand"] ∧
    ∃ c, (Category.read "Expr" ["Binary : Expr left, Expr right", "Unary : Expr operand"]).result
        = .ok c ∧
      (c.toModule.visitor.methods.map (·.name)).Nodup ∧
      ∀ node ∈ c.toModule.nodes,
        (node.members.map (·.accessor)).Nodup ∧ "Accept" ∉ node.members.map (·.accessor) := by
  have hname : ¬ Category.Unnamed "Expr" := by decide
  obtain ⟨c, hread, hc⟩ : ∃ c : Category, (Category.read "Expr"
        ["Binary : Expr left, Expr right", "Unary : Expr operand"]).result = .ok c ∧
      c = ⟨"Expr", [⟨"Binary", [⟨"Expr", "left"⟩, ⟨"Expr", "right"⟩]⟩,
        ⟨"Unary", [⟨"Expr", "operand"⟩]⟩]⟩ := by
    refine ⟨_, ?_, rfl⟩
    exact Category.read_eq_ok_iff.mpr ⟨hname, rfl, .cons rfl (.cons rfl .nil)⟩
  have hquiet : Category.ReadQuietly "Expr"
      ["Binary : Expr left, Expr right", "Unary : Expr operand"] := by
    decide +kernel
  obtain ⟨_, hmethods, hnodes⟩ := clash_iff hread hquiet
  have hvariants : OneCase (c.toModule.nodes.map (·.name)) := by
    rw [hc]
    decide +kernel
  have hparams : ∀ node ∈ c.toModule.nodes, OneCase (node.members.map (·.param)) ∧
      ¬ ("accept" ∈ node.members.map (·.param) ∨ "Accept" ∈ node.members.map (·.param)) := by
    rw [hc]
    decide +kernel
  refine ⟨hquiet, c, hread, hmethods hvariants, fun node hnode => ?_⟩
  obtain ⟨_, haccessors, haccept⟩ := hnodes node hnode
  obtain ⟨hcase, hfree⟩ := hparams node hnode
  exact ⟨haccessors hcase, fun h => hfree (haccept.mp h)⟩

end Clashes

end VisitorNodes
