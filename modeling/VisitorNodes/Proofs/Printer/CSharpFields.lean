import VisitorNodes.Proofs.Outcome
import VisitorNodes.Proofs.Printer.CSharpDispatch
import VisitorNodes.Proofs.Text.Excerpts
/-!
# The fields of a C# class, read back

A class says three times what its fields are: in its properties, in the parameters of its
constructor and in the assignments of that. Here the three are read off the lines of a text
(`classViews`), by their shapes and without a look at the category. What is read are the fields of
the variants, all of them and in their order, with the same types and names each time
(`classViews_emit`).

A type may be any word of a grammar line, with brackets, braces and equals signs. The reading takes
a line apart at its spaces, and a list at its commas, because these are what no such word holds.
-/

namespace VisitorNodes.CSharp

open Grammar Text

/-! ## 1. Reading classes -/

/-- A class as its text shows it: its name, the tokens of each property and of each assignment, and
for each constructor the tokens of each parameter. -/
structure ClassView where
  name : String
  properties : List (List String)
  constructors : List (List (List String))
  assignments : List (List String)
  deriving Repr, DecidableEq

/-- The class in a block. Properties, constructors and assignments are told by how their lines begin
and end, an assignment also by its equals sign. -/
def ClassView.ofBlock (block : String × List String) : ClassView :=
  let name := (tokens block.1).getD 2 ""
  { name := name
    properties := (block.2.filterMap (between "    public " " \x7b get; \x7d")).map tokens
    constructors := (block.2.filterMap (between ("    public " ++ name ++ "(") ")")).map
      fun list => (entries list).map tokens
    assignments := ((block.2.filterMap (between "        " ";")).map tokens).filter
      fun words => words[1]? = some "=" }

/-- A line moved one step to the left. -/
def outdent (line : String) : String := String.ofList (line.toList.drop 4)

/-- The classes in a namespace, given its lines. -/
def classViews (ls : List String) : List ClassView :=
  (blocks (starts "public class ") (starts "\x7d") none (ls.map outdent)).map ClassView.ofBlock

/-- The class of a variant: its fields in their order, a property, a parameter and an assignment for
each. A parameter that is a keyword is written verbatim, and assigned so. -/
def ClassView.ofVariant (v : Variant) : ClassView :=
  let param (f : Grammar.Field) := if f.name ∈ keywords then "@" ++ f.name else f.name
  { name := v.name
    properties := v.fields.map fun f => [f.type, Naming.capitalize f.name]
    constructors := [v.fields.map fun f => [f.type, param f]]
    assignments := v.fields.map fun f => [Naming.capitalize f.name, "=", param f] }

theorem outdent_indentLine (line : String) : outdent (indentLine 1 line) = line := by
  unfold outdent indentLine
  rw [indentation_one, ← String.toList_inj, String.toList_ofList]
  split
  · rename_i h
    rw [h]
    rfl
  · rw [String.toList_append]
    rfl

/-! ## 2. The lines of a class -/

section Class

variable {m : Module} {node : NodeType}

/-- The lines in the block of a class. -/
def classBody (m : Module) (node : NodeType) : List String :=
  beforeCall m node ++ callLine node :: ["    \x7d"]

/-- The head of the method that accepts visitors. -/
def acceptHead (m : Module) : String :=
  "    public override T Accept<T>(" ++ m.visitor.name ++ "<T> visitor)"

/-- A reading that passes over the lines without names looks at the properties, the constructor, the
assignments and the call only. -/
theorem filterMap_classBody {α : Type} {read : String → Option α}
    (hplain : ∀ l ∈ ["\x7b", "", "    \x7b", "    \x7d"], read l = none)
    (haccept : read (acceptHead m) = none) :
    (classBody m node).filterMap read
      = (node.members.map propertyLine).filterMap read ++ ((read (constructorLine node)).toList
        ++ ((node.members.map assignmentLine).filterMap read
          ++ (read (callLine node)).toList)) := by
  simp only [List.forall_mem_cons] at hplain
  obtain ⟨hopen, hempty, hin, hout, -⟩ := hplain
  have hgap : (if node.members = [] then [] else [""]).filterMap read = [] := by
    split
    · rfl
    · exact List.filterMap_cons_none hempty
  unfold acceptHead at haccept
  unfold classBody beforeCall
  simp only [List.filterMap_append, filterMap_cons_toList read, hopen, hempty, hin, hout, hgap,
    haccept, List.filterMap_nil, Option.toList_none, List.nil_append, List.append_nil,
    List.append_assoc]

/-! ### Properties -/

theorem between_propertyLine (member : Member) :
    between "    public " " \x7b get; \x7d" (propertyLine member)
      = some (member.type ++ " " ++ member.accessor) := by
  rw [between_eq_some_iff]
  unfold propertyLine
  simp only [String.append_assoc]

theorem properties_classBody :
    (classBody m node).filterMap (between "    public " " \x7b get; \x7d")
      = node.members.map fun member => member.type ++ " " ++ member.accessor := by
  have hconstructor : between "    public " " \x7b get; \x7d" (constructorLine node) = none :=
    between_of_not_ends (ends_append (by decide) _)
  have haccept : between "    public " " \x7b get; \x7d" (acceptHead m) = none :=
    between_of_not_ends (ends_append (by decide) _)
  have hassignments : (node.members.map assignmentLine).filterMap
      (between "    public " " \x7b get; \x7d") = [] :=
    filterMap_map_eq_nil fun member _ => between_of_not_ends (ends_append (by decide) _)
  have hcall : between "    public " " \x7b get; \x7d" (callLine node) = none :=
    between_of_not_ends (ends_append (by decide) _)
  rw [filterMap_classBody (by decide) haccept, hconstructor, hassignments, hcall,
    filterMap_map_eq fun member _ => between_propertyLine member]
  exact List.append_nil _

/-! ### The constructor -/

/-- A constructor is public. -/
theorem between_of_not_public {name line : String} (h : starts "    public " line = false) :
    between ("    public " ++ name ++ "(") ")" line = none := by
  refine between_of_not_starts ?_
  rw [← Bool.not_eq_true, starts_iff] at h ⊢
  intro hstarts
  rw [String.append_assoc, String.toList_append] at hstarts
  exact h ((List.prefix_append _ _).trans hstarts)

/-- The method that accepts visitors is no constructor, whatever the class is called: a bracket
would follow the name `override` at once. -/
theorem between_acceptHead {name : String} (h : Solid name.toList) :
    between ("    public " ++ name ++ "(") ")" (acceptHead m) = none := by
  have hword : ' ' ∉ (name ++ "(").toList := by
    rw [String.toList_append, List.mem_append, not_or]
    exact ⟨h.not_mem rfl, by decide⟩
  have hline : acceptHead m = "    public " ++ ("override" ++ " " ++ ("T Accept<T>("
      ++ m.visitor.name ++ "<T> visitor)")) := by
    have hstart : "    public override T Accept<T>("
        = "    public " ++ "override" ++ " " ++ "T Accept<T>(" := by decide
    unfold acceptHead
    rw [hstart]
    simp only [String.append_assoc]
  refine between_of_not_starts ?_
  rw [hline, String.append_assoc, starts_append_append, ← Bool.not_eq_true]
  intro hstarts
  have hoverride := starts_of_starts_word hword hstarts
  rw [starts_iff, String.toList_append] at hoverride
  have hbracket : '(' ∈ "override".toList :=
    hoverride.subset (List.mem_append_right _ (by decide))
  exact absurd hbracket (by decide)

/-- **There is one constructor.** -/
theorem constructors_classBody (h : node.SolidNames) :
    (classBody m node).filterMap (between ("    public " ++ node.name ++ "(") ")")
      = [", ".intercalate (node.members.map param)] := by
  have hproperties : (node.members.map propertyLine).filterMap
      (between ("    public " ++ node.name ++ "(") ")") = [] :=
    filterMap_map_eq_nil fun member _ => between_of_not_ends (ends_append (by decide) _)
  have hconstructor : between ("    public " ++ node.name ++ "(") ")" (constructorLine node)
      = some (", ".intercalate (node.members.map param)) := between_append _ _ _
  have hassignments : (node.members.map assignmentLine).filterMap
      (between ("    public " ++ node.name ++ "(") ")") = [] :=
    filterMap_map_eq_nil fun member _ => between_of_not_ends (ends_append (by decide) _)
  have hcall : between ("    public " ++ node.name ++ "(") ")" (callLine node) = none :=
    between_of_not_ends (ends_append (by decide) _)
  have hplain : ∀ l ∈ ["\x7b", "", "    \x7b", "    \x7d"],
      between ("    public " ++ node.name ++ "(") ")" l = none := by
    have hprivate : ∀ l ∈ ["\x7b", "", "    \x7b", "    \x7d"],
        starts "    public " l = false := by decide
    exact fun l hl => between_of_not_public (hprivate l hl)
  rw [filterMap_classBody hplain (between_acceptHead h.name), hproperties, hconstructor,
    hassignments, hcall]
  rfl

/-! ### Assignments -/

theorem between_assignmentLine (member : Member) :
    between "        " ";" (assignmentLine member)
      = some (member.accessor ++ " = " ++ identifier member.param) := by
  rw [between_eq_some_iff]
  unfold assignmentLine
  simp only [String.append_assoc]

theorem callLine_eq (node : NodeType) :
    callLine node = "        " ++ ("return visitor." ++ node.visitMethod ++ "(this)") ++ ";" := by
  have hfront : "        return visitor." = "        " ++ "return visitor." := by decide
  have hback : "(this);" = "(this)" ++ ";" := by decide
  unfold callLine
  rw [hfront, hback]
  simp only [String.append_assoc]

theorem between_callLine :
    between "        " ";" (callLine node)
      = some ("return visitor." ++ node.visitMethod ++ "(this)") :=
  between_eq_some_iff.mpr (callLine_eq node)

/-- The call of the visit method is the one other line of their shape. -/
theorem assignments_classBody :
    (classBody m node).filterMap (between "        " ";")
      = (node.members.map fun member => member.accessor ++ " = " ++ identifier member.param)
        ++ ["return visitor." ++ node.visitMethod ++ "(this)"] := by
  have hproperties : (node.members.map propertyLine).filterMap (between "        " ";") = [] :=
    filterMap_map_eq_nil fun member _ => between_of_not_ends (ends_append (by decide) _)
  have hconstructor : between "        " ";" (constructorLine node) = none :=
    between_of_not_ends (ends_append (by decide) _)
  have haccept : between "        " ";" (acceptHead m) = none :=
    between_of_not_ends (ends_append (by decide) _)
  rw [filterMap_classBody (by decide) haccept, hproperties, hconstructor, between_callLine,
    filterMap_map_eq fun member _ => between_assignmentLine member]
  rfl

end Class

/-! ## 3. The fields of a class -/

section Fields

variable {m : Module} {category : String}

theorem tokens_assignment {member : Member} (h : member.SolidNames) :
    tokens (member.accessor ++ " = " ++ identifier member.param)
      = [member.accessor, "=", identifier member.param] := by
  have hequals : " = " = " " ++ "=" ++ " " := by decide
  have hwords : member.accessor ++ " = " ++ identifier member.param
      = member.accessor ++ " " ++ ("=" ++ " " ++ identifier member.param) := by
    rw [hequals]
    simp only [String.append_assoc]
  rw [hwords, tokens_cons h.accessor, tokens_cons (by decide),
    tokens_solid (solid_identifier h.param)]

/-- Of the lines of that shape, the assignments are those with an equals sign. -/
theorem filter_assignments {node : NodeType} (h : node.SolidNames) :
    (((node.members.map fun member => member.accessor ++ " = " ++ identifier member.param)
        ++ ["return visitor." ++ node.visitMethod ++ "(this)"]).map tokens).filter
          (fun words => words[1]? = some "=")
      = node.members.map fun member => [member.accessor, "=", identifier member.param] := by
  have htokens : (node.members.map fun member =>
      member.accessor ++ " = " ++ identifier member.param).map tokens
      = node.members.map fun member => [member.accessor, "=", identifier member.param] := by
    rw [List.map_map]
    exact List.map_congr_left fun member hmem => tokens_assignment (h.members member hmem)
  have hcall : tokens ("return visitor." ++ node.visitMethod ++ "(this)")
      = ["return", "visitor." ++ node.visitMethod ++ "(this)"] := by
    have hfront : "return visitor." = "return" ++ " " ++ "visitor." := by decide
    have hword : Solid ("visitor." ++ node.visitMethod ++ "(this)").toList := by
      rw [String.toList_append, String.toList_append, solid_append, solid_append]
      exact ⟨⟨by decide, h.visitMethod⟩, by decide⟩
    rw [hfront, String.append_assoc, String.append_assoc, tokens_cons (by decide),
      ← String.append_assoc, tokens_solid hword]
  have hreturn : "visitor." ++ node.visitMethod ++ "(this)" ≠ "=" := by
    intro e
    have hstarts := starts_append_self "visitor." (node.visitMethod ++ "(this)")
    rw [← String.append_assoc, e] at hstarts
    exact absurd hstarts (by decide)
  rw [List.map_append, List.filter_append, htokens, List.map_singleton, hcall,
    List.filter_eq_self.mpr, List.filter_eq_nil_iff.mpr, List.append_nil]
  · rw [List.forall_mem_singleton, decide_eq_true_eq]
    exact fun e => hreturn (Option.some.inj e)
  · exact List.forall_mem_map.mpr fun member _ => decide_eq_true rfl

theorem comma_notMem_param {f : Grammar.Field} (h : f.WellFormed) :
    ',' ∉ (param (.ofField f)).toList := by
  have htype : ',' ∉ f.type.toList := h.type.free ',' (by decide)
  have hname : ',' ∉ (identifier f.name).toList := fun hc =>
    (mem_identifier hc).elim (h.name.free ',' (by decide)) (by decide)
  have hspace : ',' ∉ " ".toList := by decide
  simp only [param, Member.ofField, String.toList_append, List.mem_append, not_or]
  exact ⟨⟨htype, hspace⟩, hname⟩

theorem tokens_classLine {node : NodeType} (h : Solid node.name.toList) :
    (tokens (classLine m node)).getD 2 "" = node.name := by
  have hwords : classLine m node
      = "public" ++ " " ++ ("class" ++ " " ++ (node.name ++ " " ++ (": " ++ m.base))) := by
    have hfront : "public class " = "public" ++ " " ++ "class" ++ " " := by decide
    have hcolon : " : " = " " ++ ": " := by decide
    unfold classLine
    rw [hfront, hcolon]
    simp only [String.append_assoc]
  rw [hwords, tokens_cons (by decide), tokens_cons (by decide), tokens_cons h]
  rfl

theorem map_tokens_properties {fields : List Grammar.Field} (h : ∀ f ∈ fields, f.WellFormed) :
    ((fields.map Member.ofField).map fun member => member.type ++ " " ++ member.accessor).map tokens
      = fields.map fun f => [f.type, Naming.capitalize f.name] := by
  rw [List.map_map, List.map_map]
  refine List.map_congr_left fun f hf => ?_
  have hf := Member.solidNames_ofField (h f hf)
  exact (tokens_cons hf.type _).trans (congrArg _ (tokens_solid hf.accessor))

/-- **The parameters of a constructor come apart** at the commas between them and at the space in
each. -/
theorem map_tokens_params {fields : List Grammar.Field} (h : ∀ f ∈ fields, f.WellFormed) :
    (entries (", ".intercalate ((fields.map Member.ofField).map param))).map tokens
      = fields.map fun f => [f.type, identifier f.name] := by
  rw [List.map_map, entries_intercalate, List.map_map]
  · refine List.map_congr_left fun f hf => ?_
    have hf := Member.solidNames_ofField (h f hf)
    exact (tokens_cons hf.type _).trans (congrArg _ (tokens_solid (solid_identifier hf.param)))
  · exact List.forall_mem_map.mpr fun _ _ => append_append_ne_empty (by decide) _ _
  · exact List.forall_mem_map.mpr fun f hf => comma_notMem_param (h f hf)

/-- **A class shows the fields of its variant** in each of the three ways. -/
theorem ofBlock_ofVariant {v : Variant} (h : v.WellFormed)
    (hsolid : (NodeType.ofVariant category v).SolidNames) :
    ClassView.ofBlock (classLine m (.ofVariant category v), classBody m (.ofVariant category v))
      = .ofVariant v := by
  have hproperties := map_tokens_properties h.fields
  have hparams := map_tokens_params h.fields
  have hassignments := filter_assignments hsolid
  unfold NodeType.ofVariant at hassignments
  unfold ClassView.ofBlock ClassView.ofVariant
  dsimp only
  rw [tokens_classLine hsolid.name, properties_classBody, constructors_classBody hsolid,
    assignments_classBody, List.map_singleton]
  unfold NodeType.ofVariant
  rw [hproperties, hparams, hassignments, List.map_map]
  rfl

end Fields

/-! ## 4. The text -/

theorem blocks_bodyLines {m : Module} (h : m.SolidNames) (rest : List String) :
    blocks (starts "public class ") (starts "\x7d") none (bodyLines m ++ rest)
      = m.nodes.map (fun node => (classLine m node, classBody m node))
        ++ blocks (starts "public class ") (starts "\x7d") none rest := by
  have hbase : ∀ l ∈ baseLines m, starts "public class " l = false := fun l hl =>
    outer_baseLines m l hl _ (by decide)
  have hvisitor : ∀ l ∈ visitorLines m, starts "public class " l = false := fun l hl =>
    uncalled_visitorLines m l hl _ (by decide)
  unfold bodyLines
  rw [List.append_assoc, List.append_assoc, blocks_outer hbase, blocks_outer hvisitor]
  refine read_flatMap (fun node hnode rest => ?_) rest
  have hempty : ∀ l ∈ [""], starts "public class " l = false := by decide
  have hclosed : starts "\x7d" (classLine m node) = false := by
    unfold classLine
    rw [String.append_assoc, String.append_assoc]
    exact Apart.starts_append (by decide) _
  have hbody : ∀ l ∈ classBody m node, starts "\x7d" l = false := by
    unfold classBody
    rw [List.forall_mem_append, List.forall_mem_cons]
    refine ⟨fun l hl => inner_beforeCall m (h.nodes node hnode) l hl _ (by decide), ?_, by decide⟩
    unfold callLine
    rw [String.append_assoc]
    exact Apart.starts_append (by decide) _
  rw [nodeLines_eq, List.append_assoc, blocks_outer hempty]
  exact blocks_block (head_classLine m node).opens hclosed hbody (by decide) rest

/-- The classes in a namespace are those of the variants. -/
theorem classViews_blockLines {c : Category} (h : c.WellFormed) :
    classViews (blockLines c.toModule) = c.variants.map ClassView.ofVariant := by
  have hsolid := c.solidNames_toModule h
  have houtdent : (blockLines c.toModule).map outdent = bodyLines c.toModule ++ [""] := by
    have hback : (outdent ∘ indentLine 1) = id := funext outdent_indentLine
    unfold blockLines
    rw [List.map_append, List.map_map, hback, List.map_id]
    rfl
  have hend : blocks (starts "public class ") (starts "\x7d") none [""] = [] := by decide
  unfold classViews
  rw [houtdent, blocks_bodyLines hsolid, hend, List.append_nil, List.map_map]
  unfold Category.toModule Module.ofVariants
  rw [List.map_map]
  refine List.map_congr_left fun v hv => ?_
  have hnode := hsolid.nodes _ (List.mem_map_of_mem hv)
  exact ofBlock_ofVariant (h.variants v hv) hnode

/-- **Every class of a C# text shows the fields of its variant three times alike.** Read off the
lines behind the header, there is one class per variant, in order. Each has a property for each
field with its type and its capitalized name, one constructor that takes each field with that type
under its name, and an assignment of each of these parameters to the property. The parameters are
the names themselves, or `@` and the name exactly where that is a keyword. -/
theorem classViews_emit (style : CSharp) {category : String} {grammar : List String} {c : Category}
    (h : (Category.read category grammar).result = .ok c) :
    ∃ body,
      (emit (.csharp style) category grammar).result
        = .ok (pushLines "" style.headerLines ++ body) ∧
      classViews (lines body) = c.variants.map ClassView.ofVariant := by
  have hwf := Category.wellFormed_of_read h
  have hsolid := Category.solidNames_toModule hwf
  refine ⟨pushLines "" (blockLines c.toModule), ?_, ?_⟩
  · rw [emit_result_of_read_ok h]
    exact congrArg Except.ok (print_eq_header_append style hsolid)
  · rw [lines_pushLines_unbroken (unbroken_blockLines hsolid)]
    exact classViews_blockLines hwf

/-- A keyword, a type of brackets and equals signs, a field given twice and no fields at all. -/
theorem classViews_emit_cast :
    (Category.read "Expr" ["Cast : (int)=\x7b\x7d; operator, Expr e, Expr e", "Nil :"]).result
        = .ok ⟨"Expr", [⟨"Cast", [⟨"(int)=\x7b\x7d;", "operator"⟩, ⟨"Expr", "e"⟩, ⟨"Expr", "e"⟩]⟩,
          ⟨"Nil", []⟩]⟩ ∧
      ∃ body,
        (emit (.csharp ⟨"Ast", []⟩) "Expr"
            ["Cast : (int)=\x7b\x7d; operator, Expr e, Expr e", "Nil :"]).result
          = .ok (pushLines "" ["namespace Ast", "\x7b"] ++ body) ∧
        classViews (lines body)
          = [{ name := "Cast"
               properties := [["(int)=\x7b\x7d;", "Operator"], ["Expr", "E"], ["Expr", "E"]]
               constructors :=
                 [[["(int)=\x7b\x7d;", "@operator"], ["Expr", "e"], ["Expr", "e"]]]
               assignments :=
                 [["Operator", "=", "@operator"], ["E", "=", "e"], ["E", "=", "e"]] },
             { name := "Nil", properties := [], constructors := [[]], assignments := [] }] := by
  have hread : (Category.read "Expr"
      ["Cast : (int)=\x7b\x7d; operator, Expr e, Expr e", "Nil :"]).result
      = .ok ⟨"Expr", [⟨"Cast", [⟨"(int)=\x7b\x7d;", "operator"⟩, ⟨"Expr", "e"⟩, ⟨"Expr", "e"⟩]⟩,
          ⟨"Nil", []⟩]⟩ := by rfl
  exact ⟨hread, classViews_emit ⟨"Ast", []⟩ hread⟩

end VisitorNodes.CSharp
