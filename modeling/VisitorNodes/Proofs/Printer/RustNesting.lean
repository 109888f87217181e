import VisitorNodes.Proofs.Printer.BareNames
import VisitorNodes.Proofs.Printer.RustText
/-!
# The nesting of a Rust text

The enumeration, its implementation, the trait, and the structure and the implementation of every
node type are blocks, each as deep as it is nested and with nothing left open behind it
(`nests_bodyLines`). Where a block would be empty it is opened and closed on one line instead.

Only imports may bring other braces, and then have to close what they open (`laidOut_print`).
-/

namespace VisitorNodes.Rust

open Text

variable {m : Module}

/-! ## 1. Names and types -/

theorem braceless_identifier {name : String} (h : Braceless name) :
    Braceless (identifier name) := by
  have hmarks : Braceless "r#_" := by decide
  exact fun c hc => (mem_identifier hc).elim (h c) (hmarks c)

/-- A box is written with angle brackets. -/
theorem braceless_storedType (m : Module) {member : Member} (h : member.BareNames) :
    Braceless (storedType m member) := by
  have hbox : Braceless "Box<>" := by decide
  exact fun c hc => (Boxing.mem_box hc).elim (h.type c) (hbox c)

theorem braceless_publicType (m : Module) {member : Member} (h : member.BareNames) :
    Braceless (publicType m member) := by
  unfold publicType
  split
  · exact h.type
  · exact braceless_storedType m h

/-! ## 2. The enumeration and the trait -/

/-- The method that accepts visitors opens a block. -/
theorem leads_acceptLine (h : m.BareNames) : Leads 1 (acceptLine m) 2 :=
  Front.leads (.append (by decide) h.visitor) (by decide)

theorem front_variantLine {name : String} (hne : name.toList ≠ []) (hs : Solid name.toList)
    (hb : Braceless name) : Front 1 ("    " ++ name ++ "(" ++ name ++ "),") := by
  have hname : Front 1 (indentation 1 ++ name) := .name hne hs hb 1
  rw [← indentation_one]
  refine .append (.append (.append hname ?_) hb) ?_ <;> decide

theorem front_armLine (hs : m.SolidNames) (h : m.BareNames) {node : NodeType}
    (hn : node.BareNames) : Front 3 (armLine m node) := by
  have hbase : Front 3 (indentation 3 ++ m.base) := .name h.base_ne hs.base h.base 3
  unfold armLine
  rw [show "            " = indentation 3 from by decide]
  refine .append (.append (.append hbase ?_) hn.name) ?_ <;> decide

theorem nests_matchLines (hs : m.SolidNames) (h : m.BareNames) : Nests 2 (matchLines m) 2 := by
  unfold matchLines
  split
  · exact .single (by decide)
  · have harms : Nests 3 (m.nodes.map (armLine m)) 3 :=
      .map fun node hn => (front_armLine hs h (h.nodes node hn)).line
    have hopen : Nests 2 ["        match self \x7b"] 3 := .single (by decide)
    exact (hopen.append harms).append (.single (by decide))

theorem nests_baseLines (hs : m.SolidNames) (h : m.BareNames) : Nests 0 (baseLines m) 0 := by
  have henum : Leads 0 ("pub enum " ++ m.base ++ " \x7b") 1 :=
    Front.leads (.append (by decide) h.base) (by decide)
  have hhead : Nests 0 ["", "pub enum " ++ m.base ++ " \x7b"] 1 :=
    .cons (by decide) (.single henum)
  have hvariants : Nests 1 (m.nodes.map fun node => "    " ++ node.name ++ "(" ++ node.name ++ "),")
      1 := .map fun node hn => (front_variantLine (h.nodes node hn).name_ne
        (hs.nodes node hn).name (h.nodes node hn).name).line
  have himpl : Leads 0 ("impl " ++ m.base ++ " \x7b") 1 :=
    Front.leads (.append (by decide) h.base) (by decide)
  have hmethod : Nests 1 ["\x7d", "", "impl " ++ m.base ++ " \x7b", acceptLine m] 2 :=
    .cons (k := 0) (by decide) (.cons (by decide) (.cons himpl (.single (leads_acceptLine h))))
  have hfoot : Nests 2 ["    \x7d", "\x7d"] 0 :=
    .cons (k := 1) (by decide) (.single (by decide))
  exact (((hhead.append hvariants).append hmethod).append (nests_matchLines hs h)).append hfoot

theorem front_methodLine {method : VisitMethod} (h : method.BareNames) :
    Front 1 (methodLine method) := by
  unfold methodLine
  refine .append (.append (.append (.append ?_ h.name) ?_) h.nodeType) ?_ <;> decide

theorem nests_visitorLines (h : m.BareNames) : Nests 0 (visitorLines m) 0 := by
  have hfront : Front 0 ("pub trait " ++ m.visitor.name) := .append (by decide) h.visitor
  simp only [visitorLines]
  refine .cons (k := 0) (by decide) ?_
  -- a trait without methods is opened and closed on one line
  split
  · rw [String.append_assoc]
    exact .single (hfront.leads (by decide))
  · have hmethods : Nests 1 (m.visitor.methods.map methodLine) 1 :=
      .map fun method hm => (front_methodLine (h.methods method hm)).line
    have hopen : Nests 0 ["pub trait " ++ m.visitor.name ++ "<T> \x7b"] 1 :=
      .single (hfront.leads (by decide))
    exact (hopen.append hmethods).append (.single (by decide))

/-! ## 3. A node type -/

section Node

variable {node : NodeType}

theorem front_fieldLine (m : Module) {member : Member} (hs : member.SolidNames)
    (h : member.BareNames) : Front 1 (fieldLine m member) := by
  -- only white space comes before the accessor, so its first character decides
  have hname : Front 1 (indentation 1 ++ member.accessor) :=
    .name h.accessor_ne hs.accessor h.accessor 1
  have htype := braceless_storedType m h
  unfold fieldLine
  rw [← indentation_one]
  refine .append (.append (.append hname ?_) htype) ?_ <;> decide

theorem nests_structLines (m : Module) (hs : node.SolidNames) (h : node.BareNames) :
    Nests 0 (structLines m node) 0 := by
  have hfront : Front 0 ("pub struct " ++ node.name) := .append (by decide) h.name
  simp only [structLines]
  split
  · rw [String.append_assoc]
    exact .single (hfront.leads (by decide))
  · have hfields : Nests 1 (node.members.map (fieldLine m)) 1 := .map fun member hmem =>
      (front_fieldLine m (hs.members member hmem) (h.members member hmem)).line
    have hopen : Nests 0 ["pub struct " ++ node.name ++ " \x7b"] 1 :=
      .single (hfront.leads (by decide))
    exact (hopen.append hfields).append (.single (by decide))

theorem front_initLine (m : Module) {member : Member} (hs : member.SolidNames)
    (h : member.BareNames) : Front 3 (initLine m member) := by
  have hname : Front 3 (indentation 3 ++ member.accessor) :=
    .name h.accessor_ne hs.accessor h.accessor 3
  have hp := braceless_identifier h.param
  have hvalue : Braceless (if isBase m member then "Box::new(" ++ identifier member.param ++ ")"
      else identifier member.param) := by
    split
    · rw [braceless_append, braceless_append]
      exact ⟨⟨by decide, hp⟩, by decide⟩
    · exact hp
  unfold initLine
  rw [show "            " = indentation 3 from by decide]
  refine .append (.append (.append hname ?_) hvalue) ?_ <;> decide

/-- The initializer opens a block. -/
theorem leads_newLine (m : Module) (h : node.BareNames) :
    Leads 1 ("    pub fn new(" ++ ", ".intercalate (node.members.map (param m)) ++ ") -> Self \x7b")
      2 := by
  have hparam : ∀ member ∈ node.members, Braceless (param m member) := fun member hmem => by
    have hp := braceless_identifier (h.members member hmem).param
    have ht := braceless_publicType m (h.members member hmem)
    unfold param
    rw [braceless_append, braceless_append]
    exact ⟨⟨hp, by decide⟩, ht⟩
  have hparams : Braceless (", ".intercalate (node.members.map (param m))) :=
    braceless_intercalate (by decide) (List.forall_mem_map.mpr hparam)
  exact Front.leads (.append (by decide) hparams) (by decide)

theorem nests_newLines (m : Module) (hs : node.SolidNames) (h : node.BareNames) :
    Nests 1 (newLines m node) 1 := by
  have hvalue : Nests 2 (if node.members = [] then ["        Self \x7b\x7d"]
      else ["        Self \x7b"] ++ node.members.map (initLine m) ++ ["        \x7d"]) 2 := by
    split
    · exact .single (by decide)
    · have hinits : Nests 3 (node.members.map (initLine m)) 3 := .map fun member hmem =>
        (front_initLine m (hs.members member hmem) (h.members member hmem)).line
      have hopen : Nests 2 ["        Self \x7b"] 3 := .single (by decide)
      exact (hopen.append hinits).append (.single (by decide))
  exact ((Nests.single (leads_newLine m h)).append hvalue).append (.single (by decide))

theorem nests_accessorLines (m : Module) {member : Member} (h : member.BareNames) :
    Nests 1 (accessorLines m member) 1 := by
  have hhead : Leads 1 ("    pub fn " ++ member.accessor ++ "(&self) -> &" ++ publicType m member
      ++ " \x7b") 2 := by
    have ht := braceless_publicType m h
    refine Front.leads (.append (.append (.append ?_ h.accessor) ?_) ht) ?_ <;> decide
  have hvalue : Front 2 ("        &self." ++ member.accessor) := .append (by decide) h.accessor
  exact .cons (by decide) (.cons hhead (.cons hvalue.line (.single (by decide))))

theorem nests_nodeLines (h : m.BareNames) (hs : node.SolidNames) (hn : node.BareNames) :
    Nests 0 (nodeLines m node) 0 := by
  have hgap : Nests 0 [""] 0 := .single (by decide)
  have himpl : Leads 0 ("impl " ++ node.name ++ " \x7b") 1 :=
    Front.leads (.append (by decide) hn.name) (by decide)
  have hhead : Nests 0 ["", "impl " ++ node.name ++ " \x7b"] 1 := .cons (by decide) (.single himpl)
  have haccessors : Nests 1 (node.members.flatMap (accessorLines m)) 1 :=
    .flatMap fun member hmem => nests_accessorLines m (hn.members member hmem)
  have hcall : Front 2 ("        visitor." ++ node.visitMethod ++ "(self)") :=
    .append (.append (by decide) hn.visitMethod) (by decide)
  have hfoot : Nests 2 ["    \x7d", "\x7d"] 0 :=
    .cons (k := 1) (by decide) (.single (by decide))
  have haccept : Nests 1 ["", acceptLine m, "        visitor." ++ node.visitMethod ++ "(self)",
      "    \x7d", "\x7d"] 0 :=
    .cons (by decide) (.cons (leads_acceptLine h) (.cons hcall.line hfoot))
  exact ((((hgap.append (nests_structLines m hs hn)).append hhead).append
    (nests_newLines m hs hn)).append haccessors).append haccept

end Node

/-- **All that stands behind the header closes what it opens.** -/
theorem nests_bodyLines (hs : m.SolidNames) (h : m.BareNames) : Nests 0 (bodyLines m) 0 := by
  have hnodes : Nests 0 (m.nodes.flatMap (nodeLines m)) 0 := .flatMap fun node hn =>
    nests_nodeLines h (hs.nodes node hn) (h.nodes node hn)
  exact ((nests_baseLines hs h).append (nests_visitorLines h)).append hnodes

/-! ## 4. The text -/

/-- A set-up that breaks no line and brings braces only by imports that close what they open. -/
structure Tidy (style : Rust) : Prop where
  usesUnfed : ∀ path ∈ style.uses, '\n' ∉ path.toList
  usesBalanced : ∀ path ∈ style.uses, opens path = closes path

theorem nests_headerLines {style : Rust} (h : style.Tidy) :
    Nests 0 (style.headerLines.map chomp) 0 := by
  have huses : Nests 0 (style.uses.map fun path => chomp ("use " ++ path ++ ";")) 0 :=
    .naming (by decide) (by decide) (by decide) h.usesBalanced
  have htop : Nests 0 (["// @generated by visitgen", "#![allow(non_snake_case)]"].map chomp) 0 :=
    .cons (k := 0) (by decide) (.single (by decide))
  unfold headerLines
  rw [List.map_append]
  refine htop.append ?_
  split
  · exact .nil 0
  · rw [List.map_cons, List.map_map]
    exact .cons (by decide) huses

/-- **A Rust text is laid out.** -/
theorem laidOut_print {style : Rust} (hstyle : style.Tidy) (hs : m.SolidNames)
    (h : m.BareNames) : LaidOut (lines (style.print m "")) := by
  rw [lines_print style hs (headerLines_unfed hstyle.usesUnfed)]
  exact ((nests_headerLines hstyle).append (nests_bodyLines hs h)).laidOut

end VisitorNodes.Rust
