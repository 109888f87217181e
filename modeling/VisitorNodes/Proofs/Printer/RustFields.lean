import VisitorNodes.Proofs.Printer.RustStorage
import VisitorNodes.Proofs.Printer.RustViews
/-!
# The fields of a Rust node type, read back

What is read off a Rust text are the fields of the variants, all of them and in their order. A
structure shows them as they are stored (`StructView.ofVariant`), and an implementation as they are
taken, set and returned (`ImplView.ofVariant`). Storage, initializer and accessor agree on each
field: a box is made exactly where a box is stored and the bare type shown (`views_emit`).

That takes a category that is one word, because a field of any other would be stored bare and set
with a box.
-/

namespace VisitorNodes

open Grammar Text

namespace Rust

/-! ## 1. What the fields of a variant show -/

/-- The structure of a variant: its fields in their order, as they are stored. -/
def StructView.ofVariant (category : String) (v : Variant) : StructView where
  name := v.name
  fields := v.fields.map fun f =>
    [Naming.capitalize f.name ++ ":", (Storage.ofField category f).stored]

/-- The implementation of a variant: its fields in their order, as they are taken, set and
returned. -/
def ImplView.ofVariant (category : String) (v : Variant) : ImplView where
  name := v.name
  initializers := [v.fields.map fun f =>
    [identifier f.name ++ ":", (Storage.ofField category f).shown]]
  values := v.fields.map fun f =>
    [Naming.capitalize f.name ++ ":", (Storage.ofField category f).value]
  accessors := v.fields.map fun f =>
    [Naming.capitalize f.name ++ "(&self)", "->", "&" ++ (Storage.ofField category f).shown]
  targets := v.fields.map fun f => Naming.capitalize f.name

/-! ## 2. The views of a variant -/

theorem tokens_colon {name type : String} (h : Solid name.toList) (ht : Solid type.toList) :
    tokens (name ++ ": " ++ type) = [name ++ ":", type] := by
  have hcolon : ": " = ":" ++ " " := by decide
  have hname : Solid (name ++ ":").toList := by
    rw [String.toList_append, solid_append]
    exact ⟨h, by decide⟩
  rw [hcolon, ← String.append_assoc, tokens_cons hname, tokens_solid ht]

section Views

variable {m : Module} {category : String} {v : Variant}

theorem comma_notMem_param {f : Grammar.Field} (h : f.WellFormed) :
    ',' ∉ (param m (.ofField f)).toList := by
  have hname : ',' ∉ (identifier f.name).toList := fun hc =>
    (mem_identifier hc).elim (h.name.free ',' (by decide)) (by decide)
  have htype : ',' ∉ f.type.toList := h.type.free ',' (by decide)
  have hshown : ',' ∉ (publicType m (.ofField f)).toList := by
    unfold publicType
    split
    · exact htype
    · exact fun hc => (Boxing.mem_box hc).elim htype (by decide)
  have hcolon : ',' ∉ ": ".toList := by decide
  simp only [param, String.toList_append, List.mem_append, not_or]
  exact ⟨⟨hname, hcolon⟩, hshown⟩

/-- **The parameters of an initializer come apart** at the commas between them and at the colon in
each. -/
theorem map_tokens_params (m : Module) {fields : List Grammar.Field}
    (h : ∀ f ∈ fields, f.WellFormed) :
    (entries (", ".intercalate ((fields.map Member.ofField).map (param m)))).map tokens
      = fields.map fun f => [identifier f.name ++ ":", (Storage.ofField m.base f).shown] := by
  rw [List.map_map, entries_intercalate, List.map_map]
  · refine List.map_congr_left fun f hf => ?_
    have hf := Member.solidNames_ofField (h f hf)
    rw [← publicType_ofField]
    exact tokens_colon (solid_identifier hf.param) (solid_publicType m hf)
  · exact List.forall_mem_map.mpr fun _ _ => append_append_ne_empty (by decide) _ _
  · exact List.forall_mem_map.mpr fun f hf => comma_notMem_param (h f hf)

theorem Storage.solid_value {f : Grammar.Field} (h : f.WellFormed) (category : String) :
    Solid (Storage.ofField category f).value.toList := by
  have hname := solid_identifier h.name.solid
  unfold Storage.ofField
  split
  · dsimp only
    rw [String.toList_append, String.toList_append, solid_append, solid_append]
    exact ⟨⟨by decide, hname⟩, by decide⟩
  · exact hname

theorem map_tokens_values (m : Module) {fields : List Grammar.Field}
    (h : ∀ f ∈ fields, f.WellFormed) :
    (((fields.map Member.ofField).map (initLine m)).filterMap
        (between "            " ",")).map tokens
      = fields.map fun f =>
        [Naming.capitalize f.name ++ ":", (Storage.ofField m.base f).value] := by
  have hread : ∀ f ∈ fields, between "            " "," ((initLine m ∘ Member.ofField) f)
      = some (Naming.capitalize f.name ++ ": " ++ (Storage.ofField m.base f).value) := fun f _ =>
    between_eq_some_iff.mpr (initLine_ofField m f)
  rw [List.map_map, filterMap_map_eq hread, List.map_map]
  refine List.map_congr_left fun f hf => ?_
  have hname := Naming.solid_capitalize (h f hf).name.solid
  rw [Function.comp_apply]
  exact tokens_colon hname (Storage.solid_value (h f hf) m.base)

theorem map_tokens_fields (hne : m.base ≠ "")
    (hc : ∀ c ∈ m.base.toList, Boxing.isWordChar c = true) {fields : List Grammar.Field}
    (h : ∀ f ∈ fields, f.WellFormed) :
    (((fields.map Member.ofField).map (fieldLine m)).filterMap (between "    " ",")).map tokens
      = fields.map fun f =>
        [Naming.capitalize f.name ++ ":", (Storage.ofField m.base f).stored] := by
  have hread : ∀ f ∈ fields, between "    " "," ((fieldLine m ∘ Member.ofField) f)
      = some (Naming.capitalize f.name ++ ": " ++ (Storage.ofField m.base f).stored) := by
    intro f _
    rw [between_eq_some_iff, ← storedType_ofField hne hc, Function.comp_apply, fieldLine]
    simp only [String.append_assoc]
    rfl
  rw [List.map_map, filterMap_map_eq hread, List.map_map]
  refine List.map_congr_left fun f hf => ?_
  have hf := Member.solidNames_ofField (h f hf)
  rw [Function.comp_apply, ← storedType_ofField hne hc]
  exact tokens_colon hf.accessor (solid_storedType m hf)

/-- **A structure shows the fields of its variant** as they are stored. -/
theorem structView_ofVariant (hne : m.base ≠ "")
    (hc : ∀ c ∈ m.base.toList, Boxing.isWordChar c = true) (h : v.WellFormed) :
    StructView.ofBlock (structHead (.ofVariant category v),
        (NodeType.ofVariant category v).members.map (fieldLine m)) = .ofVariant m.base v := by
  rw [structView_node m h.name.solid]
  unfold NodeType.ofVariant StructView.ofVariant
  dsimp only
  rw [map_tokens_fields hne hc h.fields]

/-- **An implementation shows the fields of its variant** as they are taken, set and returned. -/
theorem implView_ofVariant (h : v.WellFormed)
    (hsolid : (NodeType.ofVariant category v).SolidNames) :
    ImplView.ofBlock (implLine v.name, implBody m (.ofVariant category v))
      = .ofVariant m.base v := by
  have hview := implView_node m hsolid
  have haccessors : ((v.fields.map Member.ofField).map fun member =>
      [member.accessor ++ "(&self)", "->", "&" ++ publicType m member])
      = v.fields.map fun f =>
        [Naming.capitalize f.name ++ "(&self)", "->", "&" ++ (Storage.ofField m.base f).shown] := by
    rw [List.map_map]
    refine List.map_congr_left fun f _ => ?_
    rw [← publicType_ofField]
    rfl
  unfold NodeType.ofVariant at hview ⊢
  unfold ImplView.ofVariant
  dsimp only at hview ⊢
  rw [hview, map_tokens_params m h.fields, map_tokens_values m h.fields, haccessors, List.map_map]
  rfl

end Views

/-! ## 3. The text -/

section Text

variable {c : Category}

/-- The structures in a body are those of the variants. -/
theorem structViews_bodyLines (h : c.WellFormed)
    (hc : ∀ ch ∈ c.name.toList, Boxing.isWordChar ch = true) :
    structViews (bodyLines c.toModule) = c.variants.map (StructView.ofVariant c.name) := by
  have hne : c.toModule.base ≠ "" := fun e => h.name.ne (String.toList_eq_nil_iff.mpr e)
  unfold structViews
  rw [blocks_structs, List.map_map]
  unfold Category.toModule Module.ofVariants at hne ⊢
  rw [List.map_map]
  exact List.map_congr_left fun v hv => structView_ofVariant hne hc (h.variants v hv)

/-- The implementations in a body are that of the enumeration and those of the variants. -/
theorem implViews_bodyLines (h : c.WellFormed) :
    (implViews (bodyLines c.toModule)).tail = c.variants.map (ImplView.ofVariant c.name) := by
  have hsolid := c.solidNames_toModule h
  unfold implViews
  rw [blocks_impls hsolid, List.map_cons, List.tail_cons, List.map_map]
  unfold Category.toModule Module.ofVariants
  rw [List.map_map]
  refine List.map_congr_left fun v hv => ?_
  exact implView_ofVariant (h.variants v hv) (hsolid.nodes _ (List.mem_map_of_mem hv))

end Text

/-- **Storage, initializer and accessor of every field agree.** Read off the lines behind the
header, there is one structure and, behind that of the enumeration, one implementation per variant,
in order. They list the variant's fields in order, each under its capitalized name. A field of the
category itself is stored in a box that the initializer makes of the bare category, and the accessor
returns a reference to that. Any other field is stored, taken and returned in one type, its own with
the mentions of the category boxed, which is not the category. So a box is made exactly where the
stored type is a box of the type that is shown, and where the two differ. -/
theorem views_emit (style : Rust) {category : String} {grammar : List String} {c : Category}
    (h : (Category.read category grammar).result = .ok c)
    (hc : ∀ ch ∈ category.toList, Boxing.isWordChar ch = true) :
    ∃ body,
      (emit (.rust style) category grammar).result
        = .ok (pushLines "" style.headerLines ++ body) ∧
      structViews (lines body) = c.variants.map (StructView.ofVariant category) ∧
      (implViews (lines body)).tail = c.variants.map (ImplView.ofVariant category) ∧
      ∀ v ∈ c.variants, ∀ f ∈ v.fields, (Storage.ofField category f).Agrees category f := by
  have hwf := Category.wellFormed_of_read h
  have hlines := lines_pushLines_unbroken (unbroken_bodyLines (c.solidNames_toModule hwf))
  obtain ⟨-, rfl, -⟩ := Category.read_eq_ok_iff.mp h
  refine ⟨pushLines "" (bodyLines c.toModule), ?text, ?structs, ?impls, fun v hv f hf => ?agree⟩
  case text =>
    rw [emit_result_of_read_ok h]
    exact congrArg Except.ok (print_eq_header_append style c.toModule)
  case structs =>
    rw [hlines]
    exact structViews_bodyLines hwf hc
  case impls =>
    rw [hlines]
    exact implViews_bodyLines hwf
  case agree => exact Storage.agrees_ofField ((hwf.variants v hv).fields f hf) hc

/-- A field of the category under a keyword, one that has its box already, a mention in brackets and
no fields at all. -/
theorem views_emit_if :
    (Category.read "Stmt"
        ["If : Stmt self, Box<Stmt> then, Option<Stmt> else", "Nop :"]).result
        = .ok ⟨"Stmt", [⟨"If", [⟨"Stmt", "self"⟩, ⟨"Box<Stmt>", "then"⟩, ⟨"Option<Stmt>", "else"⟩]⟩,
          ⟨"Nop", []⟩]⟩ ∧
      (∀ ch ∈ "Stmt".toList, Boxing.isWordChar ch = true) ∧
      ∃ body,
        (emit (.rust {}) "Stmt"
            ["If : Stmt self, Box<Stmt> then, Option<Stmt> else", "Nop :"]).result
          = .ok (pushLines "" ["// @generated by visitgen", "#![allow(non_snake_case)]"] ++ body) ∧
        structViews (lines body)
          = [{ name := "If"
               fields := [["Self:", "Box<Stmt>"], ["Then:", "Box<Stmt>"],
                 ["Else:", "Option<Box<Stmt>>"]] },
             { name := "Nop", fields := [] }] ∧
        (implViews (lines body)).tail
          = [{ name := "If"
               initializers := [[["self_:", "Stmt"], ["then:", "Box<Stmt>"],
                 ["r#else:", "Option<Box<Stmt>>"]]]
               values := [["Self:", "Box::new(self_)"], ["Then:", "then"], ["Else:", "r#else"]]
               accessors := [["Self(&self)", "->", "&Stmt"], ["Then(&self)", "->", "&Box<Stmt>"],
                 ["Else(&self)", "->", "&Option<Box<Stmt>>"]]
               targets := ["Self", "Then", "Else"] },
             { name := "Nop", initializers := [[]], values := [], accessors := [],
               targets := [] }] := by
  have hread : (Category.read "Stmt"
      ["If : Stmt self, Box<Stmt> then, Option<Stmt> else", "Nop :"]).result
      = .ok ⟨"Stmt", [⟨"If", [⟨"Stmt", "self"⟩, ⟨"Box<Stmt>", "then"⟩, ⟨"Option<Stmt>", "else"⟩]⟩,
          ⟨"Nop", []⟩]⟩ := by rfl
  have hname : ∀ ch ∈ "Stmt".toList, Boxing.isWordChar ch = true :=
    List.all_eq_true.mp (by decide)
  obtain ⟨body, htext, hstructs, himpls, -⟩ := views_emit {} hread hname
  exact ⟨hread, hname, body, htext, hstructs.trans (by decide +kernel),
    himpls.trans (by decide +kernel)⟩

end Rust

end VisitorNodes
