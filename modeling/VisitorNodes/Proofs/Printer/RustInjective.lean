import VisitorNodes.Proofs.Outcome
import VisitorNodes.Proofs.Printer.RustText
import Mathlib.Data.List.Forall2
/-!
# A Rust text determines its category up to boxing

A Rust text shows a field's type only with the mentions of the category boxed, and whether the type
is the category itself. Categories that differ in nothing else (`Category.SameBoxed`) have the same
text, and no others have (`emit_rust_eq_iff`).

The text is taken apart as it was put together. The enumeration gives the category's name and the
number of its variants. Each node type begins with a structure, which gives its name and the number
of its fields, and with the number of the fields the number of all its lines is known
(`nodeLines_append_inj`). A field's name is read off its accessor and its parameter: each of them
alone forgets something, both together do not (`name_eq`). A box that the initializer makes cannot
be spelled by a parameter, because no grammar word holds a colon.
-/

namespace VisitorNodes

open Grammar Text

/-! ## 1. Same up to boxing -/

/-- Two types of fields that a text of the category does not tell apart: both are the category, or
neither is and they are the same once boxed. -/
def SameBoxedType (category t t' : String) : Prop :=
  (t = category ∧ t' = category) ∨
    (t ≠ category ∧ t' ≠ category ∧ Boxing.box t category = Boxing.box t' category)

/-- Fields of one name, with types that are the same up to boxing. -/
structure Grammar.Field.SameBoxed (category : String) (f f' : Grammar.Field) : Prop where
  name : f.name = f'.name
  type : SameBoxedType category f.type f'.type

/-- Variants of one name, with fields that are the same up to boxing. -/
structure Grammar.Variant.SameBoxed (category : String) (v v' : Variant) : Prop where
  name : v.name = v'.name
  fields : List.Forall₂ (Field.SameBoxed category) v.fields v'.fields

/-- Categories of one name, with variants that are the same up to boxing. -/
structure Category.SameBoxed (c c' : Category) : Prop where
  name : c.name = c'.name
  variants : List.Forall₂ (Variant.SameBoxed c.name) c.variants c'.variants

/-- Lists that are related member by member have equal images under a map that does not tell related
members apart. -/
theorem map_eq_map_of_forall₂ {α β : Type} {R : α → α → Prop} {g : α → β} {xs ys : List α}
    (h : List.Forall₂ R xs ys) (hg : ∀ x y, R x y → g x = g y) : xs.map g = ys.map g := by
  induction h with
  | nil => rfl
  | cons hxy _ ih => rw [List.map_cons, List.map_cons, hg _ _ hxy, ih]

namespace Rust

/-! ## 2. Names -/

/-- **The parameter and the accessor of a field determine its name.** -/
theorem name_eq {name name' : String} (hp : identifier name = identifier name')
    (ha : Naming.accessor name = Naming.accessor name') : name = name' := by
  have hpath : ∀ k ∈ pathKeywords, Naming.accessor k ≠ Naming.accessor (k ++ "_") := by
    decide +kernel
  have hraw : ∀ k ∈ keywords, Naming.accessor k ≠ Naming.accessor ("r#" ++ k) := by
    decide +kernel
  rcases eq_of_identifier_eq hp with h | (⟨hk, rfl⟩ | ⟨hk, rfl⟩) | ⟨hk, rfl⟩ | ⟨hk, rfl⟩
  · exact h
  · exact absurd ha (hpath name hk)
  · exact absurd ha.symm (hpath name' hk)
  · exact absurd ha (hraw name hk)
  · exact absurd ha.symm (hraw name' hk)

/-- Escaping a name brings in no colon. -/
theorem colon_notMem_identifier {name : String} (h : ':' ∉ name.toList) :
    ':' ∉ (identifier name).toList := by
  have hmarks : ':' ∉ "r#_".toList := by decide
  exact fun hc => (mem_identifier hc).elim h hmarks

/-! ## 3. Fields -/

section Fields

variable {m : Module} {f f' : Grammar.Field}

theorem isBase_ofField : isBase m (.ofField f) = true ↔ f.type = m.base := decide_eq_true_iff

/-- A member's line in the structure gives its accessor and the type in which it is stored. -/
theorem fieldLine_inj (h : f.WellFormed) (h' : f'.WellFormed)
    (e : fieldLine m (.ofField f) = fieldLine m (.ofField f')) :
    Naming.accessor f.name = Naming.accessor f'.name ∧
      storedType m (.ofField f) = storedType m (.ofField f') := by
  have hsolid : ∀ {g : Grammar.Field}, g.WellFormed →
      Solid (Naming.accessor g.name ++ ":").toList := fun {g} hg => by
    rw [String.toList_append, solid_append]
    exact ⟨(Member.solidNames_ofField hg).accessor, by decide⟩
  have hcolon : ": " = ":" ++ " " := by decide
  have hwords : Naming.accessor f.name ++ ":" ++ " " ++ (storedType m (.ofField f) ++ ",")
      = Naming.accessor f'.name ++ ":" ++ " " ++ (storedType m (.ofField f') ++ ",") := by
    unfold fieldLine at e
    rw [hcolon] at e
    simpa only [Member.ofField, String.append_assoc, String.append_right_inj] using e
  obtain ⟨ha, hs⟩ := word_append_inj (hsolid h) (hsolid h') hwords
  exact ⟨(String.append_left_inj _).mp ha, (String.append_left_inj _).mp hs⟩

/-- A box that is made is no parameter. -/
theorem boxNew_ne_identifier (h : f.WellFormed) (value : String) :
    "Box::new(" ++ value ++ ")" ≠ identifier f.name := by
  intro e
  refine colon_notMem_identifier (h.name.free ':' (by decide)) ?_
  rw [← e, String.toList_append, String.toList_append]
  exact List.mem_append_left _ (List.mem_append_left _ (by decide))

/-- With its accessor known, a member's line in the initializer gives its name, and whether its type
is the category. -/
theorem initLine_inj (h : f.WellFormed) (h' : f'.WellFormed)
    (ha : Naming.accessor f.name = Naming.accessor f'.name)
    (e : initLine m (.ofField f) = initLine m (.ofField f')) :
    f.name = f'.name ∧ (f.type = m.base ↔ f'.type = m.base) := by
  unfold initLine Member.ofField at e
  rw [ha] at e
  have hvalue := (String.append_right_inj _).mp ((String.append_left_inj _).mp e)
  change (if isBase m (.ofField f) then _ else _) = (if isBase m (.ofField f') then _ else _)
    at hvalue
  split at hvalue
  case isTrue hb =>
    split at hvalue
    case isTrue hb' =>
      have hp := (String.append_right_inj _).mp ((String.append_left_inj _).mp hvalue)
      exact ⟨name_eq hp ha, iff_of_true (isBase_ofField.mp hb) (isBase_ofField.mp hb')⟩
    case isFalse => exact absurd hvalue (boxNew_ne_identifier h' _)
  case isFalse hb =>
    split at hvalue
    case isTrue => exact absurd hvalue.symm (boxNew_ne_identifier h _)
    case isFalse hb' =>
      exact ⟨name_eq hvalue ha, iff_of_false (mt isBase_ofField.mpr hb) (mt isBase_ofField.mpr hb')⟩

/-- The two lines of a member determine its field up to boxing. -/
theorem sameBoxed_of_lines (h : f.WellFormed) (h' : f'.WellFormed)
    (hfield : fieldLine m (.ofField f) = fieldLine m (.ofField f'))
    (hinit : initLine m (.ofField f) = initLine m (.ofField f')) : f.SameBoxed m.base f' := by
  obtain ⟨ha, hstored⟩ := fieldLine_inj h h' hfield
  obtain ⟨hname, hbase⟩ := initLine_inj h h' ha hinit
  refine ⟨hname, ?_⟩
  by_cases hb : f.type = m.base
  · exact .inl ⟨hb, hbase.mp hb⟩
  · exact .inr ⟨hb, mt hbase.mpr hb, hstored⟩

/-- **Structure and initializer determine the fields up to boxing.** -/
theorem fields_sameBoxed {fs fs' : List Grammar.Field} (h : ∀ f ∈ fs, f.WellFormed)
    (h' : ∀ f ∈ fs', f.WellFormed)
    (hfield : (fs.map Member.ofField).map (fieldLine m)
      = (fs'.map Member.ofField).map (fieldLine m))
    (hinit : (fs.map Member.ofField).map (initLine m)
      = (fs'.map Member.ofField).map (initLine m)) :
    List.Forall₂ (Field.SameBoxed m.base) fs fs' := by
  induction fs generalizing fs' with
  | nil =>
    cases fs' with
    | nil => exact .nil
    | cons f' fs' => cases hfield
  | cons f fs ih =>
    cases fs' with
    | nil => cases hfield
    | cons f' fs' =>
      rw [List.forall_mem_cons] at h h'
      simp only [List.map_cons, List.cons.injEq] at hfield hinit
      exact .cons (sameBoxed_of_lines h.1 h'.1 hfield.1 hinit.1)
        (ih h.2 h'.2 hfield.2 hinit.2)

/-! What the lines show of a member is the same for fields that are the same up to boxing. -/

theorem isBase_congr (h : f.SameBoxed m.base f') :
    isBase m (.ofField f) = isBase m (.ofField f') := by
  rw [Bool.eq_iff_iff, isBase_ofField, isBase_ofField]
  obtain ⟨hb, hb'⟩ | ⟨hb, hb', _⟩ := h.type
  · exact iff_of_true hb hb'
  · exact iff_of_false hb hb'

theorem storedType_congr (h : f.SameBoxed m.base f') :
    storedType m (.ofField f) = storedType m (.ofField f') := by
  obtain ⟨hb, hb'⟩ | ⟨_, _, hbox⟩ := h.type
  · exact congrArg (Boxing.box · m.base) (hb.trans hb'.symm)
  · exact hbox

theorem publicType_congr (h : f.SameBoxed m.base f') :
    publicType m (.ofField f) = publicType m (.ofField f') := by
  have hstored := storedType_congr h
  unfold publicType
  rw [isBase_congr h]
  split
  case isTrue hb =>
    rw [← isBase_congr h, isBase_ofField] at hb
    obtain ⟨_, hb'⟩ | ⟨hne, _⟩ := h.type
    · exact hb.trans hb'.symm
    · exact absurd hb hne
  case isFalse => exact hstored

theorem fieldLine_congr (h : f.SameBoxed m.base f') :
    fieldLine m (.ofField f) = fieldLine m (.ofField f') := by
  unfold fieldLine
  rw [storedType_congr h]
  unfold Member.ofField
  rw [h.name]

theorem param_congr (h : f.SameBoxed m.base f') :
    param m (.ofField f) = param m (.ofField f') := by
  unfold param
  rw [publicType_congr h]
  unfold Member.ofField
  rw [h.name]

theorem initLine_congr (h : f.SameBoxed m.base f') :
    initLine m (.ofField f) = initLine m (.ofField f') := by
  unfold initLine
  rw [isBase_congr h]
  unfold Member.ofField
  rw [h.name]

theorem accessorLines_congr (h : f.SameBoxed m.base f') :
    accessorLines m (.ofField f) = accessorLines m (.ofField f') := by
  unfold accessorLines
  rw [publicType_congr h]
  unfold Member.ofField
  rw [h.name]

end Fields

/-! ## 4. Node types -/

section Nodes

variable {m : Module}

/-- Variants that are the same up to boxing have the same lines. -/
theorem nodeLines_ofVariant_congr {category : String} {v v' : Variant}
    (h : v.SameBoxed m.base v') :
    nodeLines m (.ofVariant category v) = nodeLines m (.ofVariant category v') := by
  have hmap : ∀ {β : Type} (g : Member → β),
      (∀ f f' : Grammar.Field, f.SameBoxed m.base f' → g (.ofField f) = g (.ofField f')) →
      (v.fields.map Member.ofField).map g = (v'.fields.map Member.ofField).map g := by
    intro β g hg
    rw [List.map_map, List.map_map]
    exact map_eq_map_of_forall₂ h.fields hg
  have hnil : v.fields.map Member.ofField = [] ↔ v'.fields.map Member.ofField = [] := by
    rw [← List.length_eq_zero_iff, ← List.length_eq_zero_iff, List.length_map, List.length_map,
      h.fields.length_eq]
  unfold nodeLines structLines newLines NodeType.ofVariant
  simp only [List.flatMap_def, hmap _ fun _ _ => fieldLine_congr, hmap _ fun _ _ => param_congr,
    hmap _ fun _ _ => initLine_congr, hmap _ fun _ _ => accessorLines_congr, hnil, h.name]

/-- The head of a structure. -/
def structHead (node : NodeType) : String :=
  "pub struct " ++ node.name ++ " " ++ (if node.members = [] then "\x7b\x7d" else "\x7b")

/-- What follows the head of a structure. -/
def structBody (m : Module) (node : NodeType) : List String :=
  if node.members = [] then [] else node.members.map (fieldLine m) ++ ["\x7d"]

/-- The lines from a structure to the initializer's head. -/
def newHead (m : Module) (node : NodeType) : List String :=
  ["",
   "impl " ++ node.name ++ " \x7b",
   "    pub fn new(" ++ ", ".intercalate (node.members.map (param m)) ++ ") -> Self \x7b"]

/-- The lines of an initializer between its braces. -/
def newBody (m : Module) (node : NodeType) : List String :=
  if node.members = [] then ["        Self \x7b\x7d"]
  else ["        Self \x7b"] ++ node.members.map (initLine m) ++ ["        \x7d"]

/-- The lines of a node type behind its initializer. -/
def behindNew (m : Module) (node : NodeType) : List String :=
  node.members.flatMap (accessorLines m)
  ++ ["",
      acceptLine m,
      "        visitor." ++ node.visitMethod ++ "(self)",
      "    \x7d",
      "\x7d"]

theorem structLines_eq (node : NodeType) :
    structLines m node = structHead node :: structBody m node := by
  have hopen : " \x7b" = " " ++ "\x7b" := by decide
  have hboth : "\x7b" ++ "\x7d" = "\x7b\x7d" := by decide
  unfold structLines structHead structBody
  split
  · rw [hopen, ← hboth]
    simp only [String.append_assoc]
  · rw [hopen]
    simp only [String.append_assoc, List.cons_append, List.nil_append]

theorem nodeLines_eq_parts (node : NodeType) :
    nodeLines m node = ["", structHead node] ++ (structBody m node ++ (newHead m node ++
      (newBody m node ++ "    \x7d" :: behindNew m node))) := by
  unfold nodeLines newLines newHead newBody behindNew
  rw [structLines_eq]
  simp only [List.append_assoc, List.cons_append, List.nil_append]

/-! Node types with equally many members have equally many lines in each part. -/

section Lengths

variable {node node' : NodeType} (h : node.members.length = node'.members.length)

include h

theorem members_eq_nil_congr : node.members = [] ↔ node'.members = [] := by
  rw [← List.length_eq_zero_iff, h, List.length_eq_zero_iff]

theorem length_structBody : (structBody m node).length = (structBody m node').length := by
  unfold structBody
  simp only [members_eq_nil_congr h]
  split <;> simp only [List.length_append, List.length_map, h]

theorem length_newBody : (newBody m node).length = (newBody m node').length := by
  unfold newBody
  simp only [members_eq_nil_congr h]
  split <;> simp only [List.length_append, List.length_map, h]

theorem length_behindNew : (behindNew m node).length = (behindNew m node').length := by
  have haccessors : ∀ members : List Member,
      (members.flatMap (accessorLines m)).length = 4 * members.length := by
    intro members
    induction members with
    | nil => rfl
    | cons member members ih =>
      rw [List.flatMap_cons, List.length_append, ih, List.length_cons]
      unfold accessorLines
      simp only [List.length_cons, List.length_nil]
      omega
  unfold behindNew
  rw [List.length_append, List.length_append, haccessors, haccessors, h]
  rfl

theorem length_nodeLines : (nodeLines m node).length = (nodeLines m node').length := by
  have hnew : (newHead m node).length = (newHead m node').length := rfl
  rw [nodeLines_eq_parts, nodeLines_eq_parts]
  simp only [List.length_append, List.length_cons, length_structBody h, hnew, length_newBody h,
    length_behindNew h]

end Lengths

/-- The head of a structure tells its name, and whether it has members. -/
theorem structHead_inj {node node' : NodeType} (h : Solid node.name.toList)
    (h' : Solid node'.name.toList) (e : structHead node = structHead node') :
    node.name = node'.name ∧ (node.members = [] ↔ node'.members = []) := by
  have hwords : node.name ++ " " ++ (if node.members = [] then "\x7b\x7d" else "\x7b")
      = node'.name ++ " " ++ (if node'.members = [] then "\x7b\x7d" else "\x7b") := by
    unfold structHead at e
    simpa only [String.append_assoc, String.append_right_inj] using e
  obtain ⟨hname, hend⟩ := word_append_inj h h' hwords
  refine ⟨hname, ?_⟩
  split at hend
  case isTrue hm =>
    split at hend
    case isTrue hm' => exact iff_of_true hm hm'
    case isFalse => exact absurd hend (by decide)
  case isFalse hm =>
    split at hend
    case isTrue => exact absurd hend (by decide)
    case isFalse hm' => exact iff_of_false hm hm'

theorem brace_notMem_fieldLines (members : List Member) :
    "\x7d" ∉ members.map (fieldLine m) := by
  refine not_mem_of_starts (List.forall_mem_map.mpr fun member _ => ?_)
  simp only [fieldLine, String.append_assoc]
  exact Apart.starts_append (by decide) _

/-- The body of a structure tells how many members there are. -/
theorem length_members_eq {node node' : NodeType} {rest rest' : List String}
    (hnil : node.members = [] ↔ node'.members = [])
    (e : structBody m node ++ rest = structBody m node' ++ rest') :
    node.members.length = node'.members.length := by
  unfold structBody at e
  by_cases hm : node.members = []
  · rw [hm, hnil.mp hm]
  · rw [if_neg hm, if_neg (mt hnil.mpr hm), List.append_assoc, List.append_assoc] at e
    have hfields := (append_cons_inj (brace_notMem_fieldLines _) (brace_notMem_fieldLines _) e).1
    have hlength := congrArg List.length hfields
    rwa [List.length_map, List.length_map] at hlength

theorem structBody_inj {node node' : NodeType} (h : node.members.length = node'.members.length)
    (e : structBody m node = structBody m node') :
    node.members.map (fieldLine m) = node'.members.map (fieldLine m) := by
  have hnil := members_eq_nil_congr h
  unfold structBody at e
  by_cases hm : node.members = []
  · rw [hm, hnil.mp hm]
  · rw [if_neg hm, if_neg (mt hnil.mpr hm)] at e
    exact List.append_cancel_right e

theorem newBody_inj {node node' : NodeType} (h : node.members.length = node'.members.length)
    (e : newBody m node = newBody m node') :
    node.members.map (initLine m) = node'.members.map (initLine m) := by
  have hnil := members_eq_nil_congr h
  unfold newBody at e
  by_cases hm : node.members = []
  · rw [hm, hnil.mp hm]
  · rw [if_neg hm, if_neg (mt hnil.mpr hm)] at e
    exact List.append_cancel_left (List.append_cancel_right e)

/-- **A node type is read off the front of the lines**, and the rest is left. -/
theorem nodeLines_append_inj {category : String} {v v' : Variant} (h : v.WellFormed)
    (h' : v'.WellFormed) {rest rest' : List String}
    (e : nodeLines m (.ofVariant category v) ++ rest
      = nodeLines m (.ofVariant category v') ++ rest') :
    v.SameBoxed m.base v' ∧ rest = rest' := by
  have hsame : ["", structHead (.ofVariant category v)]
      = ["", structHead (.ofVariant category v')] → v.name = v'.name ∧
        ((NodeType.ofVariant category v).members = [] ↔
          (NodeType.ofVariant category v').members = []) := fun hhead =>
    structHead_inj h.name.solid h'.name.solid (List.cons.inj (List.cons.inj hhead).2).1
  have hmembers : (NodeType.ofVariant category v).members.length
      = (NodeType.ofVariant category v').members.length := by
    rw [nodeLines_eq_parts, nodeLines_eq_parts] at e
    simp only [List.append_assoc] at e
    obtain ⟨hhead, hbody⟩ := List.append_inj e rfl
    exact length_members_eq (hsame hhead).2 hbody
  -- with as many members there are as many lines, so the whole node type can be split off
  obtain ⟨hnode, hrest⟩ := List.append_inj e (length_nodeLines hmembers)
  refine ⟨?_, hrest⟩
  rw [nodeLines_eq_parts, nodeLines_eq_parts] at hnode
  obtain ⟨hhead, hlines⟩ := List.append_inj hnode rfl
  obtain ⟨hstruct, hlines⟩ := List.append_inj hlines (length_structBody hmembers)
  obtain ⟨_, hlines⟩ := List.append_inj hlines rfl
  obtain ⟨hnew, _⟩ := List.append_inj hlines (length_newBody hmembers)
  exact ⟨(hsame hhead).1, fields_sameBoxed h.fields h'.fields (structBody_inj hmembers hstruct)
    (newBody_inj hmembers hnew)⟩

end Nodes

/-! ## 5. The body -/

/-- **The node types of a module determine its variants up to boxing.** -/
theorem variants_sameBoxed {m : Module} {category : String} {vs vs' : List Variant}
    (h : ∀ v ∈ vs, v.WellFormed) (h' : ∀ v ∈ vs', v.WellFormed)
    (e : (vs.map (NodeType.ofVariant category)).flatMap (nodeLines m)
      = (vs'.map (NodeType.ofVariant category)).flatMap (nodeLines m)) :
    List.Forall₂ (Variant.SameBoxed m.base) vs vs' := by
  induction vs generalizing vs' with
  | nil =>
    cases vs' with
    | nil => exact .nil
    | cons v' vs' => rw [List.map_cons, List.flatMap_cons, nodeLines_eq_parts] at e; cases e
  | cons v vs ih =>
    cases vs' with
    | nil => rw [List.map_cons, List.flatMap_cons, nodeLines_eq_parts] at e; cases e
    | cons v' vs' =>
      rw [List.forall_mem_cons] at h h'
      rw [List.map_cons, List.flatMap_cons, List.map_cons, List.flatMap_cons] at e
      obtain ⟨hv, hrest⟩ := nodeLines_append_inj h.1 h'.1 e
      exact .cons hv (ih h.2 h'.2 hrest)

/-- Of the module, a node type shows only the base type and the visitor. -/
theorem nodeLines_congr {m m' : Module} (hb : m.base = m'.base)
    (hv : m.visitor.name = m'.visitor.name) : nodeLines m = nodeLines m' := by
  have hbase : isBase m = isBase m' := by
    funext member
    unfold isBase
    rw [hb]
  have hstored : storedType m = storedType m' := by
    funext member
    unfold storedType
    rw [hb]
  have hpublic : publicType m = publicType m' := by
    funext member
    unfold publicType
    rw [hbase, hb]
  have hfield : fieldLine m = fieldLine m' := by
    funext member
    unfold fieldLine
    rw [hstored]
  have hparam : param m = param m' := by
    funext member
    unfold param
    rw [hpublic]
  have hinit : initLine m = initLine m' := by
    funext member
    unfold initLine
    rw [hbase]
  have haccessor : accessorLines m = accessorLines m' := by
    funext member
    unfold accessorLines
    rw [hpublic]
  funext node
  unfold nodeLines structLines newLines acceptLine
  rw [hfield, hparam, hinit, haccessor, hv]

/-- The lines of an enumeration's node types. -/
def variantLines (m : Module) : List String :=
  m.nodes.map fun node => "    " ++ node.name ++ "(" ++ node.name ++ "),"

/-- The lines behind the enumeration and before the match of its method. -/
def baseHead (m : Module) : List String := ["", "impl " ++ m.base ++ " \x7b", acceptLine m]

theorem baseLines_eq_parts (m : Module) :
    baseLines m = ["", "pub enum " ++ m.base ++ " \x7b"] ++ (variantLines m ++ "\x7d" ::
      (baseHead m ++ (matchLines m ++ ["    \x7d", "\x7d"]))) := by
  unfold baseLines variantLines baseHead
  simp only [List.append_assoc, List.cons_append, List.nil_append]

theorem brace_notMem_variantLines (m : Module) : "\x7d" ∉ variantLines m := by
  refine not_mem_of_starts (List.forall_mem_map.mpr fun node _ => ?_)
  simp only [String.append_assoc]
  exact Apart.starts_append (by decide) _

/-! Bases and visitors with equally many node types have equally many lines. -/

theorem length_matchLines {m m' : Module} (h : m.nodes.length = m'.nodes.length) :
    (matchLines m).length = (matchLines m').length := by
  have hnil : m.nodes = [] ↔ m'.nodes = [] := by
    rw [← List.length_eq_zero_iff, h, List.length_eq_zero_iff]
  unfold matchLines
  simp only [hnil]
  split <;> simp only [List.length_append, List.length_map, h]

theorem length_visitorLines {m m' : Module}
    (h : m.visitor.methods.length = m'.visitor.methods.length) :
    (visitorLines m).length = (visitorLines m').length := by
  have hnil : m.visitor.methods = [] ↔ m'.visitor.methods = [] := by
    rw [← List.length_eq_zero_iff, h, List.length_eq_zero_iff]
  unfold visitorLines
  simp only [hnil]
  split <;> simp only [List.length_append, List.length_cons, List.length_map, h]

/-- **The enumeration is read off the front of the lines**: its name, the number of its node types,
and the rest. -/
theorem baseLines_append_inj {m m' : Module} {rest rest' : List String}
    (e : baseLines m ++ rest = baseLines m' ++ rest') :
    m.base = m'.base ∧ m.nodes.length = m'.nodes.length ∧ rest = rest' := by
  rw [baseLines_eq_parts, baseLines_eq_parts] at e
  simp only [List.append_assoc, List.cons_append] at e
  obtain ⟨hhead, hlines⟩ := List.cons.inj (List.cons.inj e).2
  obtain ⟨hvariants, hlines⟩ :=
    append_cons_inj (brace_notMem_variantLines m) (brace_notMem_variantLines m') hlines
  have hlength : m.nodes.length = m'.nodes.length := by
    have hl := congrArg List.length hvariants
    unfold variantLines at hl
    rwa [List.length_map, List.length_map] at hl
  obtain ⟨_, hlines⟩ := List.append_inj hlines rfl
  obtain ⟨_, hlines⟩ := List.append_inj hlines (length_matchLines hlength)
  refine ⟨?_, hlength, (List.cons.inj (List.cons.inj hlines).2).2⟩
  exact (String.append_right_inj _).mp ((String.append_left_inj _).mp hhead)

section Body

variable {c c' : Category}

/-- A body determines its category up to boxing. -/
theorem sameBoxed_of_bodyLines (h : c.WellFormed) (h' : c'.WellFormed)
    (e : bodyLines c.toModule = bodyLines c'.toModule) : c.SameBoxed c' := by
  unfold bodyLines at e
  rw [List.append_assoc, List.append_assoc] at e
  obtain ⟨hname, hlength, hrest⟩ := baseLines_append_inj e
  change c.name = c'.name at hname
  have hmethods : c.toModule.visitor.methods.length = c'.toModule.visitor.methods.length := by
    simpa only [Category.toModule, Module.ofVariants, List.length_map] using hlength
  obtain ⟨_, hnodes⟩ := List.append_inj hrest (length_visitorLines hmethods)
  have hcongr : nodeLines c.toModule = nodeLines c'.toModule :=
    nodeLines_congr hname (congrArg Naming.visitor hname)
  have hflat : (c.variants.map (NodeType.ofVariant c.name)).flatMap (nodeLines c.toModule)
      = (c'.variants.map (NodeType.ofVariant c.name)).flatMap (nodeLines c.toModule) := by
    refine hnodes.trans ?_
    rw [hcongr, hname]
    rfl
  exact ⟨hname, variants_sameBoxed h.variants h'.variants hflat⟩

/-- Categories that are the same up to boxing have the same body. -/
theorem bodyLines_eq_of_sameBoxed (h : c.SameBoxed c') :
    bodyLines c.toModule = bodyLines c'.toModule := by
  obtain ⟨name, vs⟩ := c
  obtain ⟨name', vs'⟩ := c'
  obtain ⟨hname, hvs⟩ := h
  change name = name' at hname
  subst hname
  change List.Forall₂ (Variant.SameBoxed name) vs vs' at hvs
  -- but for its node types' lines, a body shows only names
  have hnodes : ∀ {β : Type} (g : NodeType → β),
      (∀ v v', v.SameBoxed name v' → g (.ofVariant name v) = g (.ofVariant name v')) →
      (vs.map (NodeType.ofVariant name)).map g = (vs'.map (NodeType.ofVariant name)).map g := by
    intro β g hg
    rw [List.map_map, List.map_map]
    exact map_eq_map_of_forall₂ hvs hg
  have hmethods : vs.map (VisitMethod.ofVariant name) = vs'.map (VisitMethod.ofVariant name) :=
    map_eq_map_of_forall₂ hvs fun v v' hv => by
      unfold VisitMethod.ofVariant
      rw [hv.name]
  have hvariant : variantLines (.ofVariants name vs) = variantLines (.ofVariants name vs') :=
    hnodes _ fun v v' hv => by
      unfold NodeType.ofVariant
      rw [hv.name]
  have hmatch : matchLines (.ofVariants name vs) = matchLines (.ofVariants name vs') := by
    have hnil : (Module.ofVariants name vs).nodes = [] ↔ (Module.ofVariants name vs').nodes = [] := by
      unfold Module.ofVariants
      rw [List.map_eq_nil_iff, List.map_eq_nil_iff, ← List.length_eq_zero_iff, hvs.length_eq,
        List.length_eq_zero_iff]
    have harms : (Module.ofVariants name vs).nodes.map (armLine (.ofVariants name vs))
        = (Module.ofVariants name vs').nodes.map (armLine (.ofVariants name vs')) :=
      hnodes (armLine (.ofVariants name vs)) fun v v' hv => by
        unfold armLine NodeType.ofVariant
        rw [hv.name]
    unfold matchLines
    simp only [hnil, harms]
  have hbase : baseLines (.ofVariants name vs) = baseLines (.ofVariants name vs') := by
    rw [baseLines_eq_parts, baseLines_eq_parts, hvariant, hmatch]
    rfl
  have hvisitor : visitorLines (.ofVariants name vs) = visitorLines (.ofVariants name vs') := by
    unfold visitorLines Module.ofVariants
    rw [hmethods]
  have hflat : (Module.ofVariants name vs).nodes.flatMap (nodeLines (.ofVariants name vs))
      = (Module.ofVariants name vs').nodes.flatMap (nodeLines (.ofVariants name vs')) := by
    have hlines : nodeLines (.ofVariants name vs') = nodeLines (.ofVariants name vs) :=
      nodeLines_congr rfl rfl
    rw [hlines, List.flatMap_def, List.flatMap_def]
    exact congrArg List.flatten (hnodes _ fun v v' hv => nodeLines_ofVariant_congr hv)
  unfold bodyLines
  exact congrArg₂ (· ++ ·) (congrArg₂ (· ++ ·) hbase hvisitor) hflat

end Body

/-! ## 6. The text -/

/-- **The text shows the body**, behind a header that is the same in both texts. -/
theorem print_eq_iff {style : Rust} {m m' : Module} (h : m.SolidNames) (h' : m'.SolidNames) :
    style.print m "" = style.print m' "" ↔ bodyLines m = bodyLines m' := by
  rw [print_eq_header_append, print_eq_header_append, String.append_right_inj]
  constructor
  · intro e
    have hlines := congrArg lines e
    rwa [lines_pushLines_unbroken (unbroken_bodyLines h),
      lines_pushLines_unbroken (unbroken_bodyLines h')] at hlines
  · intro e
    rw [e]

end Rust

/-- **A Rust text determines its category up to boxing, and nothing more.** Whatever header the
texts have, two categories that were read have texts, and the same text exactly when they have the
same name and the same variants, with fields of the same names whose types either both are the
category or both are not and become the same when the category's mentions are boxed. -/
theorem emit_rust_eq_iff (style : Rust) {name name' : String} {grammar grammar' : List String}
    {c c' : Category} (h : (Category.read name grammar).result = .ok c)
    (h' : (Category.read name' grammar').result = .ok c') :
    ∃ text text', (emit (.rust style) name grammar).result = .ok text ∧
      (emit (.rust style) name' grammar').result = .ok text' ∧ (text = text' ↔ c.SameBoxed c') := by
  have hwf := Category.wellFormed_of_read h
  have hwf' := Category.wellFormed_of_read h'
  refine ⟨_, _, emit_result_of_read_ok h, emit_result_of_read_ok h', ?_⟩
  refine (Rust.print_eq_iff (Category.solidNames_toModule hwf)
    (Category.solidNames_toModule hwf')).trans ?_
  exact ⟨Rust.sameBoxed_of_bodyLines hwf hwf', Rust.bodyLines_eq_of_sameBoxed⟩

/-- A mention with and without its box has one text, a keyword with and without its mark has two. -/
theorem emit_rust_eq_iff_boxed :
    (emit (.rust ⟨[]⟩) "Stmt" ["If : Option<Stmt> else, Stmt then"]).result
        = (emit (.rust ⟨[]⟩) "Stmt" ["If : Option<Box<Stmt>> else, Stmt then"]).result ∧
      (emit (.rust ⟨[]⟩) "Stmt" ["Var : Token type"]).result
        ≠ (emit (.rust ⟨[]⟩) "Stmt" ["Var : Token r#type"]).result := by
  have hname : ¬ Category.Unnamed "Stmt" := by decide
  have hread : ∀ (line : String) (v : Variant), Variant.parse line = .ok v →
      (Category.read "Stmt" [line]).result = .ok ⟨"Stmt", [v]⟩ := fun _ _ hv =>
    Category.read_eq_ok_iff.mpr ⟨hname, rfl, .cons hv .nil⟩
  constructor
  · have hplain := hread "If : Option<Stmt> else, Stmt then"
      ⟨"If", [⟨"Option<Stmt>", "else"⟩, ⟨"Stmt", "then"⟩]⟩ rfl
    have hboxed := hread "If : Option<Box<Stmt>> else, Stmt then"
      ⟨"If", [⟨"Option<Box<Stmt>>", "else"⟩, ⟨"Stmt", "then"⟩]⟩ rfl
    obtain ⟨text, text', ht, ht', hiff⟩ := emit_rust_eq_iff ⟨[]⟩ hplain hboxed
    have hsame : SameBoxedType "Stmt" "Option<Stmt>" "Option<Box<Stmt>>" :=
      .inr ⟨by decide, by decide, by decide +kernel⟩
    rw [ht, ht', hiff.mpr ⟨rfl, .cons ⟨rfl, .cons ⟨rfl, hsame⟩
      (.cons ⟨rfl, .inl ⟨rfl, rfl⟩⟩ .nil)⟩ .nil⟩]
  · have hbare := hread "Var : Token type" ⟨"Var", [⟨"Token", "type"⟩]⟩ rfl
    have hraw := hread "Var : Token r#type" ⟨"Var", [⟨"Token", "r#type"⟩]⟩ rfl
    obtain ⟨text, text', ht, ht', hiff⟩ := emit_rust_eq_iff ⟨[]⟩ hbare hraw
    rw [ht, ht']
    intro e
    have hsame := hiff.mp (Except.ok.inj e)
    cases hsame.variants with
    | cons hv _ =>
      cases hv.fields with
      | cons hf _ => exact absurd hf.name (by decide)

end VisitorNodes
