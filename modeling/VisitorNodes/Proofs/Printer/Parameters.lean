import VisitorNodes.Emission
import VisitorNodes.Proofs.Printer.CSharpText
import VisitorNodes.Proofs.Printer.RustText
import Mathlib.Data.List.Infix
import Mathlib.Data.List.Nodup
/-!
# The parameters of an initializer

The initializer of a node type declares one parameter per field, and one assignment per field reads
it. Both are printed from the field's name, escaped where the target reserves it. Escaping works
name by name, so the question is which names it brings together.

In C# it brings none together: an `@` stands in no identifier of the grammar. In Rust an `r#` stands
in none either, but the underscore behind `self`, `Self`, `super` and `crate` does, so that `super`
and `super_` are both printed `super_` (`Rust.identifier_eq_iff`). That is the only way in which two
fields get one parameter (`initializers_bind`).
-/

namespace VisitorNodes

open Grammar Text

/-! ## 1. Identifiers -/

/-- The characters that identifiers begin with. -/
def beginsIdentifier (c : Char) : Bool := c.isAlpha || c == '_'

/-- The characters of which identifiers consist. -/
def isIdentifierChar (c : Char) : Bool := c.isAlphanum || c == '_'

/-- A name that can stand as an identifier in both targets, unless it is a keyword there. -/
structure IsIdentifier (name : String) : Prop where
  first : name.toList.head?.any beginsIdentifier = true
  chars : ∀ c ∈ name.toList, isIdentifierChar c = true

instance (name : String) : Decidable (IsIdentifier name) :=
  decidable_of_iff (name.toList.head?.any beginsIdentifier = true ∧
      name.toList.all isIdentifierChar = true)
    ⟨fun h => ⟨h.1, List.all_eq_true.mp h.2⟩, fun h => ⟨h.first, List.all_eq_true.mpr h.chars⟩⟩

theorem IsIdentifier.notMem {name : String} (h : IsIdentifier name) {c : Char}
    (hc : isIdentifierChar c = false) : c ∉ name.toList := fun hmem =>
  absurd (h.chars c hmem) (Bool.eq_false_iff.mp hc)

/-- Text in front with a character that no identifier has makes none. -/
theorem IsIdentifier.append_ne {name front : String} (h : IsIdentifier name) {c : Char}
    (hmem : c ∈ front.toList) (hc : isIdentifierChar c = false) (rest : String) :
    front ++ rest ≠ name := by
  rintro rfl
  refine h.notMem hc ?_
  rw [String.toList_append]
  exact List.mem_append_left _ hmem

/-! ## 2. Escaped names -/

namespace CSharp

theorem isIdentifier_of_mem_keywords {k : String} (h : k ∈ keywords) : IsIdentifier k := by
  have hall : ∀ k ∈ keywords, IsIdentifier k := by decide +kernel
  exact hall k h

/-- No identifier is verbatim. -/
theorem verbatim_ne {name : String} (h : IsIdentifier name) (k : String) : "@" ++ k ≠ name :=
  h.append_ne (c := '@') (by decide) (by decide) k

/-- **No escaped name is a keyword.** -/
theorem identifier_notMem_keywords (name : String) : identifier name ∉ keywords := by
  unfold identifier
  split
  case isTrue => exact fun hmem => verbatim_ne (isIdentifier_of_mem_keywords hmem) name rfl
  case isFalse hk => exact hk

/-- **Escaping keeps identifiers apart.** -/
theorem identifier_eq_iff {a b : String} (ha : IsIdentifier a) (hb : IsIdentifier b) :
    identifier a = identifier b ↔ a = b := by
  refine ⟨fun e => ?_, congrArg identifier⟩
  rcases eq_of_identifier_eq e with h | ⟨-, h⟩ | ⟨-, h⟩
  · exact h
  · exact absurd h.symm (verbatim_ne hb a)
  · exact absurd h.symm (verbatim_ne ha b)

end CSharp

namespace Rust

theorem not_merged_self (name : String) : ¬ Merged name name := by
  have hlonger : ∀ k ∈ pathKeywords, k ≠ k ++ "_" := by decide +kernel
  rintro (⟨hk, e⟩ | ⟨hk, e⟩) <;> exact hlonger name hk e

theorem isIdentifier_of_mem_keywords {k : String} (h : k ∈ keywords) : IsIdentifier k := by
  have hall : ∀ k ∈ keywords, IsIdentifier k := by decide +kernel
  exact hall k h

/-- No identifier is raw. -/
theorem raw_ne {name : String} (h : IsIdentifier name) (k : String) : "r#" ++ k ≠ name :=
  h.append_ne (c := '#') (by decide) (by decide) k

/-- **No escaped name is a keyword.** -/
theorem identifier_notMem_keywords (name : String) : identifier name ∉ keywords := by
  have hpath : ∀ k ∈ pathKeywords, k ++ "_" ∉ keywords := by decide +kernel
  unfold identifier
  split
  case isTrue hk => exact hpath name hk
  case isFalse =>
    split
    case isTrue => exact fun hmem => raw_ne (isIdentifier_of_mem_keywords hmem) name rfl
    case isFalse hk => exact hk

/-- With an underscore behind it, a keyword that cannot be raw is none, and stands for itself. -/
theorem identifier_pathKeyword {k : String} (h : k ∈ pathKeywords) :
    identifier k = identifier (k ++ "_") := by
  have heach : ∀ k ∈ pathKeywords, identifier k = identifier (k ++ "_") := by decide +kernel
  exact heach k h

/-- **Escaping brings two identifiers together exactly if they are merged.** -/
theorem identifier_eq_iff {a b : String} (ha : IsIdentifier a) (hb : IsIdentifier b) :
    identifier a = identifier b ↔ a = b ∨ Merged a b := by
  constructor
  · intro e
    rcases eq_of_identifier_eq e with h | h | ⟨-, h⟩ | ⟨-, h⟩
    · exact .inl h
    · exact .inr h
    · exact absurd h.symm (raw_ne hb a)
    · exact absurd h.symm (raw_ne ha b)
  · rintro (rfl | ⟨hk, rfl⟩ | ⟨hk, rfl⟩)
    · rfl
    · exact identifier_pathKeyword hk
    · exact (identifier_pathKeyword hk).symm

end Rust

/-! ## 3. Bindings -/

/-- The parameters that an initializer declares and those that its assignments read, each in the
order of the fields. -/
structure Bindings where
  declared : List String
  read : List String
  deriving Repr, DecidableEq

namespace Bindings

/-- The assignment at `j` reads the parameter at `k`. -/
def Reads (b : Bindings) (j k : Nat) : Prop :=
  ∃ ident, b.read[j]? = some ident ∧ b.declared[k]? = some ident

/-- The parameters are no keywords and differ, and each assignment reads that of its own field and
no other. -/
structure Clear (keywords : List String) (b : Bindings) : Prop where
  unreserved : ∀ ident ∈ b.declared, ident ∉ keywords
  distinct : b.declared.Nodup
  own : ∀ j k, b.Reads j k ↔ j = k ∧ j < b.declared.length

/-- The bindings of a variant whose field names are escaped wherever they stand. -/
def escaped (escape : String → String) (v : Variant) : Bindings where
  declared := v.fields.map (escape ·.name)
  read := v.fields.map (escape ·.name)

variable {escape : String → String} {keywords : List String} {v : Variant}

theorem reads_escaped {j k : Nat} : (escaped escape v).Reads j k ↔
    ∃ f g, v.fields[j]? = some f ∧ v.fields[k]? = some g ∧ escape f.name = escape g.name := by
  unfold Reads escaped
  simp only [List.getElem?_map, Option.map_eq_some_iff]
  constructor
  · rintro ⟨_, ⟨f, hf, rfl⟩, g, hg, e⟩
    exact ⟨f, g, hf, hg, e.symm⟩
  · rintro ⟨f, g, hf, hg, e⟩
    exact ⟨_, ⟨f, hf, rfl⟩, g, hg, e.symm⟩

/-- With parameters that differ, each is read by its own assignment only. -/
theorem reads_of_nodup (h : (escaped escape v).declared.Nodup) {j k : Nat} :
    (escaped escape v).Reads j k ↔ j = k ∧ j < (escaped escape v).declared.length := by
  constructor
  · rintro ⟨ident, hread, hdeclared⟩
    obtain ⟨hj, -⟩ := List.getElem?_eq_some_iff.mp hread
    exact ⟨(List.getElem?_inj hj h).mp (hread.trans hdeclared.symm), hj⟩
  · rintro ⟨rfl, hj⟩
    exact ⟨_, List.getElem?_eq_getElem hj, List.getElem?_eq_getElem hj⟩

/-- **Escaped names clash in nothing but their forms.** If no form is a keyword and the fields have
different names, all is well as soon as different names have different forms. -/
theorem clear_escaped_iff (hunreserved : ∀ name, escape name ∉ keywords)
    (hdistinct : (v.fields.map Field.name).Nodup) :
    (escaped escape v).Clear keywords ↔
      ∀ f ∈ v.fields, ∀ g ∈ v.fields, escape f.name = escape g.name → f.name = g.name := by
  have hnodup : (escaped escape v).declared.Nodup ↔
      ∀ f ∈ v.fields, ∀ g ∈ v.fields, escape f.name = escape g.name → f.name = g.name := by
    unfold escaped
    dsimp only
    rw [List.nodup_map_iff_inj_on (hdistinct.of_map Field.name)]
    refine forall₂_congr fun f hf => forall₂_congr fun g hg => imp_congr_right fun _ => ?_
    exact ⟨congrArg Field.name, fun e => List.inj_on_of_nodup_map hdistinct hf hg e⟩
  rw [← hnodup]
  refine ⟨Clear.distinct, fun h => ⟨fun ident hident => ?_, h, fun j k => reads_of_nodup h⟩⟩
  obtain ⟨f, -, rfl⟩ := List.mem_map.mp hident
  exact hunreserved f.name

end Bindings

/-! ## 4. Printed initializers -/

theorem infix_flatMap {α β : Type} {x : α} {xs : List α} (h : x ∈ xs) (f : α → List β) :
    f x <:+: xs.flatMap f := by
  rw [← List.flatMap_singleton f x]
  exact ((List.singleton_infix_iff x xs).mpr h).flatMap f

namespace CSharp

/-- The constructor of a variant's class with these bindings. -/
def initializerLines (v : Variant) (b : Bindings) : List String :=
  ["    public " ++ v.name ++ "("
      ++ ", ".intercalate (v.fields.zipWith (fun f ident => f.type ++ " " ++ ident) b.declared)
      ++ ")",
   "    \x7b"]
  ++ v.fields.zipWith (fun f ident =>
      "        " ++ Naming.accessor f.name ++ " = " ++ ident ++ ";") b.read
  ++ ["    \x7d"]

/-- The class of a variant has the constructor with the escaped names. -/
theorem initializerLines_within (m : Module) (category : String) (v : Variant) :
    initializerLines v (.escaped identifier v) <:+: nodeLines m (.ofVariant category v) := by
  have hlines : initializerLines v (.escaped identifier v)
      = [constructorLine (.ofVariant category v), "    \x7b"]
        ++ (NodeType.ofVariant category v).members.map assignmentLine ++ ["    \x7d"] := by
    unfold initializerLines Bindings.escaped constructorLine NodeType.ofVariant
    simp only [List.zipWith_map_right, List.zipWith_self, List.map_map]
    rfl
  rw [hlines]
  refine ⟨["", "public class " ++ v.name ++ " : " ++ m.base, "\x7b"]
    ++ (NodeType.ofVariant category v).members.map propertyLine
    ++ (if (NodeType.ofVariant category v).members = [] then [] else [""]),
    acceptLines m (.ofVariant category v), ?_⟩
  unfold nodeLines
  simp only [List.append_assoc]
  rfl

/-- The text of a module has these lines, one behind the other, in the body of its namespace. -/
def Prints (style : CSharp) (m : Module) (ls : List String) : Prop :=
  ∃ before after, style.print m "" = pushLine (pushIndented (pushLines "" style.headerLines)
    (pushLines "" (before ++ ls ++ after)) 1) "\x7d"

theorem prints_of_bodyLines {style : CSharp} {m : Module} {ls : List String}
    (h : ls <:+: bodyLines m) : style.Prints m ls := by
  obtain ⟨before, after, hlines⟩ := h
  exact ⟨before, after, by rw [hlines]; rfl⟩

/-- **The constructor with the escaped names is printed.** -/
theorem prints_initializerLines (style : CSharp) (category : String) {variants : List Variant}
    {v : Variant} (hv : v ∈ variants) :
    style.Prints (.ofVariants category variants)
      (initializerLines v (.escaped identifier v)) := by
  have hnode : NodeType.ofVariant category v ∈ (Module.ofVariants category variants).nodes :=
    List.mem_map_of_mem hv
  have hnodes := infix_flatMap hnode (nodeLines (.ofVariants category variants))
  exact prints_of_bodyLines
    (((initializerLines_within _ category v).trans hnodes).trans (List.suffix_append _ _).isInfix)

end CSharp

namespace Rust

/-- The initializer of a variant's structure with these bindings. -/
def initializerLines (category : String) (v : Variant) (b : Bindings) : List String :=
  ["    pub fn new("
      ++ ", ".intercalate (v.fields.zipWith (fun f ident =>
        ident ++ ": " ++ if f.type = category then f.type else Boxing.box f.type category)
        b.declared)
      ++ ") -> Self \x7b"]
  ++ (if v.fields = [] then ["        Self \x7b\x7d"]
      else ["        Self \x7b"]
        ++ v.fields.zipWith (fun f ident => "            " ++ Naming.accessor f.name ++ ": "
          ++ (if f.type = category then "Box::new(" ++ ident ++ ")" else ident) ++ ",") b.read
        ++ ["        \x7d"])
  ++ ["    \x7d"]

/-- The initializer with the escaped names is that of the node type. -/
theorem initializerLines_escaped (category : String) (variants : List Variant) (v : Variant) :
    initializerLines category v (.escaped identifier v)
      = newLines (.ofVariants category variants) (.ofVariant category v) := by
  have hbase : ∀ (f : Grammar.Field) (a b : String),
      (if isBase (.ofVariants category variants) (.ofField f) = true then a else b)
        = if f.type = category then a else b := fun f a b => by
    unfold isBase
    simp only [decide_eq_true_eq]
    rfl
  have hparam : ∀ f : Grammar.Field, param (.ofVariants category variants) (.ofField f)
      = identifier f.name ++ ": "
        ++ if f.type = category then f.type else Boxing.box f.type category := fun f => by
    unfold param publicType
    rw [hbase]
    rfl
  have hvalue : ∀ f : Grammar.Field, initLine (.ofVariants category variants) (.ofField f)
      = "            " ++ Naming.accessor f.name ++ ": " ++ (if f.type = category
        then "Box::new(" ++ identifier f.name ++ ")" else identifier f.name) ++ "," := fun f => by
    unfold initLine
    dsimp only
    rw [hbase]
    rfl
  unfold initializerLines Bindings.escaped newLines NodeType.ofVariant
  simp only [List.zipWith_map_right, List.zipWith_self, List.map_map, List.map_eq_nil_iff,
    Function.comp_def, hparam, hvalue]

theorem newLines_within (m : Module) (node : NodeType) : newLines m node <:+: nodeLines m node := by
  refine ⟨[""] ++ structLines m node ++ ["", "impl " ++ node.name ++ " \x7b"],
    node.members.flatMap (accessorLines m) ++ ["", acceptLine m,
      "        visitor." ++ node.visitMethod ++ "(self)", "    \x7d", "\x7d"], ?_⟩
  unfold nodeLines
  simp only [List.append_assoc]

/-- The text of a module has these lines, one behind the other. -/
def Prints (style : Rust) (m : Module) (ls : List String) : Prop :=
  ∃ before after, style.print m "" = pushLines "" (before ++ ls ++ after)

theorem prints_of_moduleLines {style : Rust} {m : Module} {ls : List String}
    (h : ls <:+: style.moduleLines m) : style.Prints m ls := by
  obtain ⟨before, after, hlines⟩ := h
  exact ⟨before, after, by rw [hlines]; rfl⟩

/-- **The initializer with the escaped names is printed.** -/
theorem prints_initializerLines (style : Rust) (category : String) {variants : List Variant}
    {v : Variant} (hv : v ∈ variants) :
    style.Prints (.ofVariants category variants)
      (initializerLines category v (.escaped identifier v)) := by
  have hnode : NodeType.ofVariant category v ∈ (Module.ofVariants category variants).nodes :=
    List.mem_map_of_mem hv
  have hnodes := infix_flatMap hnode (nodeLines (.ofVariants category variants))
  rw [initializerLines_escaped category variants]
  exact prints_of_moduleLines
    (((newLines_within _ _).trans hnodes).trans (List.suffix_append _ _).isInfix)

end Rust

/-! ## 5. Both targets -/

section Both

variable {v : Variant}

/-- Fields of different names have one name only at one place. -/
theorem name_eq_iff {j k : Nat} {f g : Grammar.Field} (hdistinct : (v.fields.map Field.name).Nodup)
    (hf : v.fields[j]? = some f) (hg : v.fields[k]? = some g) : f.name = g.name ↔ j = k := by
  obtain ⟨hj, -⟩ := List.getElem?_eq_some_iff.mp hf
  rw [← List.getElem?_inj ((List.length_map Field.name).symm ▸ hj) hdistinct, List.getElem?_map,
    List.getElem?_map, hf, hg, Option.map_some, Option.map_some, Option.some.injEq]

theorem CSharp.clear_escaped (hident : ∀ f ∈ v.fields, IsIdentifier f.name)
    (hdistinct : (v.fields.map Field.name).Nodup) :
    (Bindings.escaped identifier v).Clear keywords :=
  (Bindings.clear_escaped_iff identifier_notMem_keywords hdistinct).mpr fun f hf g hg =>
    (identifier_eq_iff (hident f hf) (hident g hg)).mp

/-- In Rust an assignment reads its own parameter, and that of a field with a merged name. -/
theorem Rust.reads_escaped_iff (hident : ∀ f ∈ v.fields, IsIdentifier f.name)
    (hdistinct : (v.fields.map Field.name).Nodup) {j k : Nat} :
    (Bindings.escaped identifier v).Reads j k ↔ ∃ f g, v.fields[j]? = some f ∧
      v.fields[k]? = some g ∧ (j = k ∨ Merged f.name g.name) := by
  rw [Bindings.reads_escaped]
  refine exists₂_congr fun f g => and_congr_right fun hf => and_congr_right fun hg => ?_
  rw [identifier_eq_iff (hident f (List.mem_of_getElem? hf)) (hident g (List.mem_of_getElem? hg)),
    name_eq_iff hdistinct hf hg]

theorem Rust.clear_escaped_iff (hident : ∀ f ∈ v.fields, IsIdentifier f.name)
    (hdistinct : (v.fields.map Field.name).Nodup) :
    (Bindings.escaped identifier v).Clear keywords ↔
      ∀ f ∈ v.fields, ∀ g ∈ v.fields, ¬ Merged f.name g.name := by
  rw [Bindings.clear_escaped_iff identifier_notMem_keywords hdistinct]
  refine forall₂_congr fun f hf => forall₂_congr fun g hg => ?_
  rw [identifier_eq_iff (hident f hf) (hident g hg)]
  constructor
  · intro hsame hmerged
    rw [hsame (.inr hmerged)] at hmerged
    exact not_merged_self g.name hmerged
  · exact fun hnot hor => hor.resolve_right hnot

end Both

/-- **Escaping removes every keyword, and keeps parameters apart but for one kind of pair.** The
initializers printed for a variant declare and read the escaped names of its fields. If these are
different identifiers, then in C# no parameter is a keyword, all of them differ, and each assignment
reads the parameter of its own field and no other. In Rust, too, no parameter is a keyword. There an
assignment reads, besides its own parameter, that of a field with a merged name: a keyword that
cannot be raw, and the same with an underscore behind it. Without such a pair, all is as in C#. -/
theorem initializers_bind (csharp : CSharp) (rust : Rust) (category : String)
    {variants : List Variant} {v : Variant} (hv : v ∈ variants)
    (hident : ∀ f ∈ v.fields, IsIdentifier f.name)
    (hdistinct : (v.fields.map Field.name).Nodup) :
    (csharp.Prints (.ofVariants category variants)
        (CSharp.initializerLines v (.escaped CSharp.identifier v)) ∧
      (Bindings.escaped CSharp.identifier v).Clear CSharp.keywords) ∧
    rust.Prints (.ofVariants category variants)
        (Rust.initializerLines category v (.escaped Rust.identifier v)) ∧
      (∀ ident ∈ (Bindings.escaped Rust.identifier v).declared, ident ∉ Rust.keywords) ∧
      (∀ j k, (Bindings.escaped Rust.identifier v).Reads j k ↔ ∃ f g, v.fields[j]? = some f ∧
        v.fields[k]? = some g ∧ (j = k ∨ Rust.Merged f.name g.name)) ∧
      ((Bindings.escaped Rust.identifier v).Clear Rust.keywords ↔
        ∀ f ∈ v.fields, ∀ g ∈ v.fields, ¬ Rust.Merged f.name g.name) := by
  refine ⟨⟨CSharp.prints_initializerLines csharp category hv,
      CSharp.clear_escaped hident hdistinct⟩,
    Rust.prints_initializerLines rust category hv, fun ident h => ?_,
    fun _ _ => Rust.reads_escaped_iff hident hdistinct, Rust.clear_escaped_iff hident hdistinct⟩
  obtain ⟨f, -, rfl⟩ := List.mem_map.mp h
  exact Rust.identifier_notMem_keywords f.name

/-- A variant whose fields are named by keywords of one target, of the other and of both. -/
def castVariant : Variant :=
  ⟨"Cast", [⟨"Token", "operator"⟩, ⟨"Expr", "self"⟩, ⟨"String", "type"⟩, ⟨"Token", "as"⟩]⟩

/-- Without merged names, the parameters are clear in both targets. -/
theorem initializers_bind_cast :
    (∀ f ∈ castVariant.fields, IsIdentifier f.name) ∧
      (castVariant.fields.map Field.name).Nodup ∧
      (Bindings.escaped CSharp.identifier castVariant).Clear CSharp.keywords ∧
      (Bindings.escaped Rust.identifier castVariant).Clear Rust.keywords ∧
      Rust.Prints {} (.ofVariants "Expr" [castVariant])
        ["    pub fn new(operator: Token, self_: Expr, r#type: String, r#as: Token) -> Self \x7b",
         "        Self \x7b",
         "            Operator: operator,",
         "            Self: Box::new(self_),",
         "            Type: r#type,",
         "            As: r#as,",
         "        \x7d",
         "    \x7d"] := by
  have hident : ∀ f ∈ castVariant.fields, IsIdentifier f.name := by decide
  have hdistinct : (castVariant.fields.map Field.name).Nodup := by decide
  obtain ⟨⟨-, hcsharp⟩, hprinted, -, -, hrust⟩ := initializers_bind ⟨"Demo", []⟩ {} "Expr"
    (List.mem_singleton_self castVariant) hident hdistinct
  refine ⟨hident, hdistinct, hcsharp, hrust.mpr (by decide +kernel), ?_⟩
  convert hprinted using 1
  decide +kernel

/-- A variant with merged names. -/
def pathVariant : Variant := ⟨"Path", [⟨"Token", "super"⟩, ⟨"Token", "super_"⟩]⟩

/-- Two fields get one parameter in Rust, and each assignment reads it. -/
theorem not_clear_path :
    (∀ f ∈ pathVariant.fields, IsIdentifier f.name) ∧
      (pathVariant.fields.map Field.name).Nodup ∧
      (emit (.rust {}) "Expr" ["Path : Token super, Token super_"]).result
        = .ok (Rust.print {} (.ofVariants "Expr" [pathVariant]) "") ∧
      Rust.Prints {} (.ofVariants "Expr" [pathVariant])
        ["    pub fn new(super_: Token, super_: Token) -> Self \x7b",
         "        Self \x7b",
         "            Super: super_,",
         "            Super_: super_,"] ∧
      (Bindings.escaped Rust.identifier pathVariant).Reads 0 1 ∧
      ¬ (Bindings.escaped Rust.identifier pathVariant).Clear Rust.keywords := by
  have hdeclared : ¬ (Bindings.escaped Rust.identifier pathVariant).declared.Nodup := by
    decide +kernel
  exact ⟨by decide, by decide, rfl, Rust.prints_of_moduleLines (by decide +kernel),
    ⟨"super_", by decide +kernel, by decide +kernel⟩, fun h => hdeclared h.distinct⟩

end VisitorNodes
