import VisitorNodes.Proofs.Outcome
import VisitorNodes.Proofs.Printer.CSharpDispatch
/-!
# A C# text determines its category

Two categories with the same C# text are the same (`emit_csharp_injective`). The text is taken apart
as it was put together: the header and the indentation are undone first, then the base type gives
the category's name, and the class of each node type ends at its first closing brace, so that the
classes are told apart one by one (`nodeLines_append_inj`).

Within a class, a property gives the type and the accessor of a field, and an assignment gives its
parameter. Neither is enough for the field's name: capitalizing forgets the case of a first letter,
and escaping takes `operator` and `@operator` for the same. Both together are (`name_eq`).
-/

namespace VisitorNodes

open Grammar Text

namespace CSharp

/-! ## 1. Names -/

/-- **The parameter and the accessor of a field determine its name.** -/
theorem name_eq {name name' : String} (hp : identifier name = identifier name')
    (ha : Naming.accessor name = Naming.accessor name') : name = name' := by
  have hescaped : ∀ k ∈ keywords, Naming.accessor k ≠ Naming.accessor ("@" ++ k) := by
    decide +kernel
  rcases eq_of_identifier_eq hp with h | ⟨hk, rfl⟩ | ⟨hk, rfl⟩
  · exact h
  · exact absurd ha (hescaped name hk)
  · exact absurd ha.symm (hescaped name' hk)

/-! ## 2. Fields -/

section Fields

variable {f f' : Grammar.Field}

theorem propertyLine_inj (h : f.WellFormed) (h' : f'.WellFormed)
    (e : propertyLine (.ofField f) = propertyLine (.ofField f')) :
    f.type = f'.type ∧ Naming.accessor f.name = Naming.accessor f'.name := by
  unfold propertyLine Member.ofField at e
  have hwords : f.type ++ " " ++ (Naming.accessor f.name ++ " \x7b get; \x7d")
      = f'.type ++ " " ++ (Naming.accessor f'.name ++ " \x7b get; \x7d") := by
    simpa only [String.append_assoc, String.append_right_inj] using e
  obtain ⟨ht, ha⟩ := word_append_inj h.type.solid h'.type.solid hwords
  exact ⟨ht, (String.append_left_inj _).mp ha⟩

theorem assignmentLine_inj (ha : Naming.accessor f.name = Naming.accessor f'.name)
    (e : assignmentLine (.ofField f) = assignmentLine (.ofField f')) : f.name = f'.name := by
  unfold assignmentLine Member.ofField at e
  rw [ha] at e
  exact name_eq ((String.append_right_inj _).mp ((String.append_left_inj _).mp e)) ha

/-- **The properties and assignments of a class determine the fields of its variant.** -/
theorem fields_eq {fs fs' : List Grammar.Field} (h : ∀ f ∈ fs, f.WellFormed)
    (h' : ∀ f ∈ fs', f.WellFormed)
    (hp : (fs.map Member.ofField).map propertyLine = (fs'.map Member.ofField).map propertyLine)
    (ha : (fs.map Member.ofField).map assignmentLine
      = (fs'.map Member.ofField).map assignmentLine) : fs = fs' := by
  induction fs generalizing fs' with
  | nil =>
    cases fs' with
    | nil => rfl
    | cons f' fs' => cases hp
  | cons f fs ih =>
    cases fs' with
    | nil => cases hp
    | cons f' fs' =>
      rw [List.forall_mem_cons] at h h'
      simp only [List.map_cons, List.cons.injEq] at hp ha
      obtain ⟨ht, hacc⟩ := propertyLine_inj h.1 h'.1 hp.1
      have hn := assignmentLine_inj hacc ha.1
      have hf : f = f' := by
        cases f
        cases f'
        exact congrArg₂ Grammar.Field.mk ht hn
      rw [hf, ih h.2 h'.2 hp.2 ha.2]

end Fields

/-! ## 3. Classes -/

/-- The lines of a class before its constructor's body. -/
def beforeBody (node : NodeType) : List String :=
  ["\x7b"]
  ++ node.members.map propertyLine
  ++ (if node.members = [] then [] else [""])
  ++ [constructorLine node]

/-- The lines of a class behind its constructor's body, but for the closing brace. -/
def behindBody (m : Module) (node : NodeType) : List String :=
  ["",
   "    public override T Accept<T>(" ++ m.visitor.name ++ "<T> visitor)",
   "    \x7b",
   callLine node,
   "    \x7d"]

/-- The lines of a class, but for the closing brace. -/
def openLines (m : Module) (node : NodeType) : List String :=
  ["", classLine m node] ++ (beforeBody node ++ "    \x7b" ::
    (node.members.map assignmentLine ++ "    \x7d" :: behindBody m node))

theorem nodeLines_eq_openLines (m : Module) (node : NodeType) :
    nodeLines m node = openLines m node ++ ["\x7d"] := by
  unfold nodeLines acceptLines openLines beforeBody behindBody classLine callLine
  simp only [List.append_assoc, List.cons_append, List.nil_append]

/-- No line before the constructor's body is a brace but the first. -/
theorem avoids_beforeBody (node : NodeType) :
    ∀ l ∈ beforeBody node, Avoids ["\x7d", "    \x7b"] l := by
  have hstep : ∀ rest, Avoids ["\x7d", "    \x7b"] ("    public " ++ rest) :=
    avoids_append (by decide)
  unfold beforeBody
  simp only [List.forall_mem_append, List.forall_mem_singleton, List.forall_mem_map]
  refine ⟨⟨⟨by decide, fun member _ => ?_⟩, ?_⟩, ?_⟩
  · simp only [propertyLine, String.append_assoc]
    exact hstep _
  · split <;> decide
  · simp only [constructorLine, String.append_assoc]
    exact hstep _

theorem avoids_assignments (node : NodeType) :
    ∀ l ∈ node.members.map assignmentLine, Avoids ["\x7d", "    \x7d"] l := by
  refine List.forall_mem_map.mpr fun member _ => ?_
  simp only [assignmentLine, String.append_assoc]
  exact avoids_append (by decide) _

/-- Only the last line of a class begins with a brace. -/
theorem brace_notMem_openLines (m : Module) (node : NodeType) : "\x7d" ∉ openLines m node := by
  have hclass : starts "\x7d" (classLine m node) = false := by
    unfold classLine
    rw [String.append_assoc, String.append_assoc]
    exact Apart.starts_append (by decide) _
  have hbefore : ∀ l ∈ beforeBody node, starts "\x7d" l = false := fun l hl =>
    avoids_beforeBody node l hl _ List.mem_cons_self
  have hassign : ∀ l ∈ node.members.map assignmentLine, starts "\x7d" l = false := fun l hl =>
    avoids_assignments node l hl _ List.mem_cons_self
  have hcall : starts "\x7d" (callLine node) = false := by
    unfold callLine
    rw [String.append_assoc]
    exact Apart.starts_append (by decide) _
  have hbehind : ∀ l ∈ behindBody m node, starts "\x7d" l = false := by
    unfold behindBody
    simp only [List.forall_mem_cons, String.append_assoc]
    refine ⟨?_, Apart.starts_append ?_ _, ?_, hcall, ?_, ?_⟩ <;> decide
  refine not_mem_of_starts ?_
  unfold openLines
  simp only [List.forall_mem_append, List.forall_mem_cons]
  refine ⟨⟨?_, hclass, ?_⟩, hbefore, ?_, hassign, ?_, hbehind⟩ <;> decide

/-- **A class is read off the front of the lines**, and the rest is left. -/
theorem nodeLines_append_inj (m : Module) {category : String} {v v' : Variant}
    (h : v.WellFormed) (h' : v'.WellFormed) {rest rest' : List String}
    (e : nodeLines m (.ofVariant category v) ++ rest
      = nodeLines m (.ofVariant category v') ++ rest') : v = v' ∧ rest = rest' := by
  rw [nodeLines_eq_openLines, nodeLines_eq_openLines, List.append_assoc, List.append_assoc] at e
  obtain ⟨hopen, hrest⟩ :=
    append_cons_inj (brace_notMem_openLines _ _) (brace_notMem_openLines _ _) e
  refine ⟨?_, hrest⟩
  obtain ⟨hhead, hlines⟩ := List.append_inj hopen rfl
  have hname : v.name = v'.name := by
    have hclass := (List.cons.inj (List.cons.inj hhead).2).1
    unfold classLine at hclass
    exact (String.append_right_inj _).mp
      ((String.append_left_inj _).mp ((String.append_left_inj _).mp hclass))
  have hbrace : ∀ node, "    \x7b" ∉ beforeBody node := fun node =>
    not_mem_of_starts fun l hl =>
      avoids_beforeBody node l hl _ (List.mem_cons_of_mem _ List.mem_cons_self)
  have hclose : ∀ node : NodeType, "    \x7d" ∉ node.members.map assignmentLine := fun node =>
    not_mem_of_starts fun l hl =>
      avoids_assignments node l hl _ (List.mem_cons_of_mem _ List.mem_cons_self)
  obtain ⟨hbefore, hbody⟩ := append_cons_inj (hbrace _) (hbrace _) hlines
  obtain ⟨hassign, _⟩ := append_cons_inj (hclose _) (hclose _) hbody
  have hlength : ((NodeType.ofVariant category v).members.map propertyLine).length
      = ((NodeType.ofVariant category v').members.map propertyLine).length := by
    have hl := congrArg List.length hassign
    rwa [List.length_map, List.length_map] at hl ⊢
  unfold beforeBody at hbefore
  rw [List.append_assoc, List.append_assoc, List.append_assoc, List.append_assoc] at hbefore
  have hproperties := (List.append_inj (List.append_inj hbefore rfl).2 hlength).1
  have hfields := fields_eq h.fields h'.fields hproperties hassign
  cases v
  cases v'
  exact congrArg₂ Variant.mk hname hfields

/-! ## 4. The body -/

/-- The classes of a module determine its variants. -/
theorem variants_eq (m : Module) {category : String} {vs vs' : List Variant}
    (h : ∀ v ∈ vs, v.WellFormed) (h' : ∀ v ∈ vs', v.WellFormed)
    (e : (vs.map (NodeType.ofVariant category)).flatMap (nodeLines m)
      = (vs'.map (NodeType.ofVariant category)).flatMap (nodeLines m)) : vs = vs' := by
  induction vs generalizing vs' with
  | nil =>
    cases vs' with
    | nil => rfl
    | cons v' vs' => rw [List.map_cons, List.flatMap_cons, nodeLines_eq] at e; cases e
  | cons v vs ih =>
    cases vs' with
    | nil => rw [List.map_cons, List.flatMap_cons, nodeLines_eq] at e; cases e
    | cons v' vs' =>
      rw [List.forall_mem_cons] at h h'
      rw [List.map_cons, List.flatMap_cons, List.map_cons, List.flatMap_cons] at e
      obtain ⟨hv, hrest⟩ := nodeLines_append_inj m h.1 h'.1 e
      rw [hv, ih h.2 h'.2 hrest]

/-- Of the module, a class shows only the base type and the visitor. -/
theorem nodeLines_congr {m m' : Module} (hb : m.base = m'.base)
    (hv : m.visitor.name = m'.visitor.name) : nodeLines m = nodeLines m' := by
  funext node
  unfold nodeLines acceptLines
  rw [hb, hv]

theorem brace_notMem_methods (m : Module) : "\x7d" ∉ m.visitor.methods.map (methodLine m) := by
  refine not_mem_of_starts (List.forall_mem_map.mpr fun method _ => ?_)
  simp only [methodLine, String.append_assoc]
  exact Apart.starts_append (by decide) _

/-- **The body determines the category.** -/
theorem category_eq {c c' : Category} (h : c.WellFormed) (h' : c'.WellFormed)
    (e : bodyLines c.toModule = bodyLines c'.toModule) : c = c' := by
  unfold bodyLines at e
  rw [List.append_assoc, List.append_assoc] at e
  obtain ⟨hbase, hrest⟩ := List.append_inj e rfl
  have hname : c.name = c'.name := (String.append_right_inj _).mp (List.cons.inj hbase).1
  have hvisitor : c.toModule.visitor.name = c'.toModule.visitor.name :=
    congrArg Naming.visitor hname
  unfold visitorLines at hrest
  rw [List.append_assoc, List.append_assoc, List.append_assoc, List.append_assoc] at hrest
  obtain ⟨_, hmethods⟩ := List.append_inj hrest rfl
  obtain ⟨_, hnodes⟩ := append_cons_inj (brace_notMem_methods _) (brace_notMem_methods _) hmethods
  have hvariants : c.variants = c'.variants := by
    rw [← nodeLines_congr hname hvisitor] at hnodes
    refine variants_eq c.toModule h.variants h'.variants (hnodes.trans ?_)
    rw [hname]
    rfl
  cases c
  cases c'
  exact congrArg₂ Category.mk hname hvariants

/-! ## 5. The text -/

/-- **The text determines the body.** The header may hold anything: it is the same in both texts. -/
theorem bodyLines_eq {style : CSharp} {m m' : Module} (h : m.SolidNames) (h' : m'.SolidNames)
    (e : style.print m "" = style.print m' "") : bodyLines m = bodyLines m' := by
  rw [print_eq_header_append style h, print_eq_header_append style h',
    String.append_right_inj] at e
  have hblock := congrArg lines e
  rw [lines_pushLines_unbroken (unbroken_blockLines h),
    lines_pushLines_unbroken (unbroken_blockLines h')] at hblock
  exact List.map_injective_iff.mpr (fun _ _ => indentLine_one_injective)
    (List.append_cancel_right hblock)

end CSharp

/-- **A C# text loses nothing.** Whatever header the text has, two categories that were read and
    have the same text are the same: the same name, and the same variants with the same fields. -/
theorem emit_csharp_injective (style : CSharp) {name name' : String}
    {grammar grammar' : List String} {c c' : Category}
    (h : (Category.read name grammar).result = .ok c)
    (h' : (Category.read name' grammar').result = .ok c')
    (e : (emit (.csharp style) name grammar).result
      = (emit (.csharp style) name' grammar').result) : c = c' := by
  have hwf := Category.wellFormed_of_read h
  have hwf' := Category.wellFormed_of_read h'
  rw [emit_result_of_read_ok h, emit_result_of_read_ok h'] at e
  exact CSharp.category_eq hwf hwf' (CSharp.bodyLines_eq (Category.solidNames_toModule hwf)
    (Category.solidNames_toModule hwf') (Except.ok.inj e))

/-- Two paddings of one line, with a field that is escaped. -/
theorem emit_csharp_injective_padded : ∃ c c',
    (Category.read "Expr" ["Unary : Token operator, Expr right"]).result = .ok c ∧
      (Category.read "Expr" [" Unary:\tToken operator ,Expr right "]).result = .ok c' ∧
      (emit (.csharp ⟨"Demo", []⟩) "Expr" ["Unary : Token operator, Expr right"]).result
        = (emit (.csharp ⟨"Demo", []⟩) "Expr" [" Unary:\tToken operator ,Expr right "]).result ∧
      c = c' := by
  have hname : ¬ Category.Unnamed "Expr" := by
    rw [← Category.isName_eq_false_iff]
    decide
  have hread : (Category.read "Expr" ["Unary : Token operator, Expr right"]).result
      = .ok ⟨"Expr", [⟨"Unary", [⟨"Token", "operator"⟩, ⟨"Expr", "right"⟩]⟩]⟩ :=
    Category.read_eq_ok_iff.mpr ⟨hname, rfl, .cons rfl .nil⟩
  have hread' : (Category.read "Expr" [" Unary:\tToken operator ,Expr right "]).result
      = .ok ⟨"Expr", [⟨"Unary", [⟨"Token", "operator"⟩, ⟨"Expr", "right"⟩]⟩]⟩ :=
    Category.read_eq_ok_iff.mpr ⟨hname, rfl, .cons rfl .nil⟩
  have hemit : (emit (.csharp ⟨"Demo", []⟩) "Expr" ["Unary : Token operator, Expr right"]).result
      = (emit (.csharp ⟨"Demo", []⟩) "Expr" [" Unary:\tToken operator ,Expr right "]).result := by
    rw [emit_result_of_read_ok hread, emit_result_of_read_ok hread']
  exact ⟨_, _, hread, hread', hemit, emit_csharp_injective _ hread hread' hemit⟩

end VisitorNodes
