import VisitorNodes.Proofs.Printer.RustText
import VisitorNodes.Proofs.Text.Blocks
/-!
# Declared and called visit methods in a Rust text

The visitor trait declares a visit method per node type, and the implementation of a node type calls
its own. Both are told by how their lines begin (`marks`), and the lines of a text that begin so are
these and no others (`declared_print`, `called_print`). The enumeration has an implementation too,
which calls nothing.

Names stand near the beginning of two kinds of lines: in the variants of the enumeration and in the
fields of a structure. No space follows them there before a bracket or a colon.
-/

namespace VisitorNodes.Rust

open Text

/-! ## 1. Lines that declare, and lines that call -/

/-- Declared visit methods, implementations, and the calls of visit methods in them. -/
def marks : BlockMarks := ⟨"    fn ", "impl ", "\x7d", "        visitor."⟩

/-- The head of the implementation of a type. -/
def implLine (name : String) : String := "impl " ++ name ++ " \x7b"

/-- The call of a node's visit method. -/
def callLine (node : NodeType) : String := "        visitor." ++ node.visitMethod ++ "(self)"

theorem head_implLine (name : String) : marks.Head (implLine name) := by
  unfold implLine
  rw [String.append_assoc]
  exact ⟨starts_append_self _ _, avoids_append (by decide) _⟩

theorem call_callLine (node : NodeType) : marks.Call (callLine node) := by
  unfold callLine
  rw [String.append_assoc]
  exact ⟨starts_append_self _ _, Apart.starts_append (by decide) _⟩

theorem foot_brace : marks.Foot "\x7d" := ⟨by decide, by decide⟩

theorem inner_acceptLine (m : Module) : Avoids marks.inner (acceptLine m) := by
  unfold acceptLine
  rw [String.append_assoc]
  exact avoids_append (by decide) _

/-- Behind one step of white space, a line declares or calls by what stands there. -/
theorem inner_step {rest : String} (hd : starts "fn " rest = false)
    (hc : starts "    visitor." rest = false) : Avoids marks.inner ("    " ++ rest) := by
  have hdeclares : starts marks.declares ("    " ++ rest) = false := by
    have e : marks.declares = "    " ++ "fn " := by decide
    rw [e, starts_append_append, hd]
  have hcalls : starts marks.calls ("    " ++ rest) = false := by
    have e : marks.calls = "    " ++ "    visitor." := by decide
    rw [e, starts_append_append, hc]
  have hrest : Avoids [marks.opens, marks.closes] ("    " ++ rest) :=
    avoids_append (by decide) _
  unfold BlockMarks.inner
  rw [Avoids, List.forall_mem_cons, List.forall_mem_cons]
  exact ⟨hdeclares, hcalls, hrest⟩

/-! ## 2. The enumeration -/

/-- The line of a node type in the enumeration holds no space behind its step. -/
theorem inner_variantLine {name : String} (h : Solid name.toList) :
    Avoids marks.inner ("    " ++ name ++ "(" ++ name ++ "),") := by
  have hsolid : Solid (name ++ ("(" ++ (name ++ "),"))).toList := by
    simp only [String.toList_append, solid_append]
    refine ⟨h, ?_, h, ?_⟩ <;> decide
  rw [String.append_assoc, String.append_assoc, String.append_assoc]
  exact inner_step (starts_eq_false_of_solid (by decide) hsolid)
    (starts_eq_false_of_solid (by decide) hsolid)

theorem inner_armLine (m : Module) (node : NodeType) : Avoids marks.inner (armLine m node) := by
  unfold armLine
  simp only [String.append_assoc]
  exact avoids_append (by decide) _

theorem inner_matchLines (m : Module) : ∀ l ∈ matchLines m, Avoids marks.inner l := by
  unfold matchLines
  split
  · decide
  · rw [List.forall_mem_append, List.forall_mem_append, List.forall_mem_map]
    exact ⟨⟨by decide, fun node _ => inner_armLine m node⟩, by decide⟩

/-- The lines of the enumeration itself. -/
def enumLines (m : Module) : List String :=
  ["", "pub enum " ++ m.base ++ " \x7b"]
  ++ m.nodes.map (fun node => "    " ++ node.name ++ "(" ++ node.name ++ "),")
  ++ ["\x7d", ""]

/-- The base type is an enumeration and a block without a call. -/
theorem baseLines_eq (m : Module) :
    baseLines m = enumLines m ++ BlockMarks.block (implLine m.base)
      ([acceptLine m] ++ matchLines m ++ ["    \x7d"]) "\x7d" := by
  unfold baseLines enumLines implLine BlockMarks.block
  simp only [List.append_assoc, List.cons_append, List.nil_append]

theorem outer_enumLines {m : Module} (h : m.SolidNames) :
    ∀ l ∈ enumLines m, Avoids marks.outer l := by
  unfold enumLines
  rw [List.forall_mem_append, List.forall_mem_append, List.forall_mem_map]
  refine ⟨⟨?_, fun node hn => ?_⟩, by decide⟩
  · simp only [List.forall_mem_cons, String.append_assoc]
    refine ⟨?_, avoids_append ?_ _, ?_⟩ <;> decide
  · exact BlockMarks.outer_of_inner (inner_variantLine (h.nodes node hn).name)

theorem inner_baseBody (m : Module) :
    ∀ l ∈ [acceptLine m] ++ matchLines m ++ ["    \x7d"], Avoids marks.inner l := by
  rw [List.forall_mem_append, List.forall_mem_append, List.forall_mem_singleton]
  exact ⟨⟨inner_acceptLine m, inner_matchLines m⟩, by decide⟩

theorem called_baseLines {m : Module} (h : m.SolidNames) (rest : List String) :
    marks.called none (baseLines m ++ rest) = marks.called none rest := by
  have henum : ∀ l ∈ enumLines m, Avoids [marks.calls, marks.opens] l := fun l hl =>
    BlockMarks.uncalled_of_outer (outer_enumLines h l hl)
  rw [baseLines_eq, List.append_assoc, BlockMarks.called_outer henum,
    BlockMarks.called_block (head_implLine m.base) (inner_baseBody m) foot_brace]

theorem declared_baseLines {m : Module} (h : m.SolidNames) : marks.declared (baseLines m) = [] := by
  have hbody : ∀ l ∈ [acceptLine m] ++ matchLines m ++ ["    \x7d"],
      starts marks.declares l = false := fun l hl =>
    BlockMarks.undeclared_of_inner (inner_baseBody m l hl)
  rw [baseLines_eq, BlockMarks.declared_append, BlockMarks.declared_outer (outer_enumLines h),
    BlockMarks.declared_block (head_implLine m.base) hbody foot_brace, List.nil_append]

/-! ## 3. The visitor -/

theorem declares_methodLine (method : VisitMethod) :
    starts marks.declares (methodLine method) = true := by
  simp only [methodLine, String.append_assoc]
  exact starts_append_self _ _

theorem uncalled_methodLine (method : VisitMethod) :
    Avoids [marks.calls, marks.opens] (methodLine method) := by
  simp only [methodLine, String.append_assoc]
  exact avoids_append (by decide) _

theorem outer_visitorHead (m : Module) (rest : String) :
    Avoids marks.outer ("pub trait " ++ m.visitor.name ++ rest) := by
  rw [String.append_assoc]
  exact avoids_append (by decide) _

theorem declared_visitorLines (m : Module) :
    marks.declared (visitorLines m) = m.visitor.methods.map methodLine := by
  have hmethods : marks.declared (m.visitor.methods.map methodLine)
      = m.visitor.methods.map methodLine :=
    BlockMarks.declared_map fun method _ => declares_methodLine method
  have hfoot : ∀ l ∈ ["\x7d"], Avoids marks.outer l := by decide
  have hhead : ∀ rest, ∀ l ∈ ["", "pub trait " ++ m.visitor.name ++ rest],
      Avoids marks.outer l := by
    intro rest
    rw [List.forall_mem_cons, List.forall_mem_singleton]
    exact ⟨by decide, outer_visitorHead m rest⟩
  unfold visitorLines
  dsimp only
  split
  · rename_i h
    rw [h, List.map_nil, String.append_assoc]
    exact BlockMarks.declared_outer (hhead _)
  · rw [← List.cons_append, ← List.cons_append, BlockMarks.declared_append,
      BlockMarks.declared_append, BlockMarks.declared_outer hfoot,
      BlockMarks.declared_outer (hhead _), hmethods, List.nil_append, List.append_nil]

theorem uncalled_visitorLines (m : Module) :
    ∀ l ∈ visitorLines m, Avoids [marks.calls, marks.opens] l := by
  have hhead : ∀ rest, Avoids [marks.calls, marks.opens] ("pub trait " ++ m.visitor.name ++ rest) :=
    fun rest => BlockMarks.uncalled_of_outer (outer_visitorHead m rest)
  unfold visitorLines
  rw [List.forall_mem_cons]
  refine ⟨by decide, ?_⟩
  split
  · rw [List.forall_mem_singleton, String.append_assoc]
    exact hhead _
  · rw [List.forall_mem_append, List.forall_mem_append, List.forall_mem_singleton,
      List.forall_mem_map]
    exact ⟨⟨hhead _, fun method _ => uncalled_methodLine method⟩, by decide⟩

/-! ## 4. The structure and the implementation of a node type -/

/-- A field named `fn` is still no declaration: a colon follows its name. -/
theorem inner_fieldLine (m : Module) {member : Member} (h : member.SolidNames) :
    Avoids marks.inner (fieldLine m member) := by
  have hspace : ' ' ∉ (member.accessor ++ ":").toList := by
    rw [String.toList_append, List.mem_append, not_or]
    exact ⟨h.accessor.not_mem rfl, by decide⟩
  have hcolon : ':' ∈ (member.accessor ++ ":").toList := by
    rw [String.toList_append, List.mem_append]
    exact .inr (by decide)
  have e : fieldLine m member
      = "    " ++ (member.accessor ++ ":" ++ " " ++ (storedType m member ++ ",")) := by
    have heq : ": " = ":" ++ " " := by decide
    simp only [fieldLine, heq, String.append_assoc]
  rw [e]
  refine inner_step ?_ ?_
  · have hfn : "fn " = "fn" ++ " " ++ "" := by decide
    rw [hfn, ← Bool.not_eq_true, starts_word (by decide) hspace]
    intro hstarts
    obtain ⟨hword, _⟩ := hstarts
    rw [← hword] at hcolon
    exact absurd hcolon (by decide)
  · have hcalls : "    visitor." = "" ++ " " ++ "   visitor." := by decide
    rw [hcalls, ← Bool.not_eq_true, starts_word (by decide) hspace]
    intro hstarts
    obtain ⟨hword, _⟩ := hstarts
    rw [← hword] at hcolon
    exact absurd hcolon (by decide)

theorem outer_structLines (m : Module) {node : NodeType} (h : node.SolidNames) :
    ∀ l ∈ structLines m node, Avoids marks.outer l := by
  have hhead : ∀ rest, Avoids marks.outer ("pub struct " ++ node.name ++ rest) := by
    intro rest
    rw [String.append_assoc]
    exact avoids_append (by decide) _
  unfold structLines
  split
  · rw [List.forall_mem_singleton, String.append_assoc]
    exact hhead _
  · rw [List.forall_mem_append, List.forall_mem_append, List.forall_mem_singleton,
      List.forall_mem_map]
    exact ⟨⟨hhead _, fun member hmem => BlockMarks.outer_of_inner
      (inner_fieldLine m (h.members member hmem))⟩, by decide⟩

theorem inner_initLine (m : Module) (member : Member) : Avoids marks.inner (initLine m member) := by
  unfold initLine
  simp only [String.append_assoc]
  exact avoids_append (by decide) _

theorem inner_newLines (m : Module) (node : NodeType) :
    ∀ l ∈ newLines m node, Avoids marks.inner l := by
  unfold newLines
  rw [List.forall_mem_append, List.forall_mem_append, List.forall_mem_singleton]
  refine ⟨⟨?_, ?_⟩, by decide⟩
  · rw [String.append_assoc]
    exact avoids_append (by decide) _
  · split
    · decide
    · rw [List.forall_mem_append, List.forall_mem_append, List.forall_mem_map]
      exact ⟨⟨by decide, fun member _ => inner_initLine m member⟩, by decide⟩

theorem inner_accessorLines (m : Module) (member : Member) :
    ∀ l ∈ accessorLines m member, Avoids marks.inner l := by
  unfold accessorLines
  simp only [List.forall_mem_cons, String.append_assoc]
  refine ⟨?_, avoids_append ?_ _, avoids_append ?_ _, ?_, ?_⟩ <;> decide

/-- The lines of an implementation between its head and its call. -/
def beforeCall (m : Module) (node : NodeType) : List String :=
  newLines m node ++ node.members.flatMap (accessorLines m) ++ ["", acceptLine m]

/-- A node type is a structure and a block with one call. -/
theorem nodeLines_eq (m : Module) (node : NodeType) :
    nodeLines m node = ([""] ++ structLines m node ++ [""]) ++ BlockMarks.block
      (implLine node.name) (beforeCall m node ++ callLine node :: ["    \x7d"]) "\x7d" := by
  unfold nodeLines beforeCall callLine implLine BlockMarks.block
  simp only [List.append_assoc, List.cons_append, List.nil_append]

theorem outer_beforeBlock (m : Module) {node : NodeType} (h : node.SolidNames) :
    ∀ l ∈ [""] ++ structLines m node ++ [""], Avoids marks.outer l := by
  rw [List.forall_mem_append, List.forall_mem_append]
  exact ⟨⟨by decide, outer_structLines m h⟩, by decide⟩

theorem inner_beforeCall (m : Module) (node : NodeType) :
    ∀ l ∈ beforeCall m node, Avoids marks.inner l := by
  unfold beforeCall
  rw [List.forall_mem_append, List.forall_mem_append, List.forall_mem_cons,
    List.forall_mem_singleton]
  refine ⟨⟨inner_newLines m node, fun l hl => ?_⟩, by decide, inner_acceptLine m⟩
  obtain ⟨member, _, hl⟩ := List.mem_flatMap.mp hl
  exact inner_accessorLines m member l hl

/-- The implementation of a node type calls its visit method, once. -/
theorem called_nodeLines (m : Module) {node : NodeType} (h : node.SolidNames)
    (rest : List String) :
    marks.called none (nodeLines m node ++ rest)
      = (some (implLine node.name), callLine node) :: marks.called none rest := by
  have hbefore : ∀ l ∈ [""] ++ structLines m node ++ [""], Avoids [marks.calls, marks.opens] l :=
    fun l hl => BlockMarks.uncalled_of_outer (outer_beforeBlock m h l hl)
  have hafter : ∀ l ∈ ["    \x7d"], Avoids marks.inner l := by decide
  rw [nodeLines_eq, List.append_assoc, BlockMarks.called_outer hbefore,
    BlockMarks.called_block_call (head_implLine node.name) (inner_beforeCall m node)
      (call_callLine node) hafter foot_brace]

/-- A node type declares nothing. -/
theorem declared_nodeLines (m : Module) {node : NodeType} (h : node.SolidNames) :
    marks.declared (nodeLines m node) = [] := by
  have hbody : ∀ l ∈ beforeCall m node ++ callLine node :: ["    \x7d"],
      starts marks.declares l = false := by
    rw [List.forall_mem_append, List.forall_mem_cons]
    exact ⟨fun l hl => BlockMarks.undeclared_of_inner (inner_beforeCall m node l hl),
      (call_callLine node).declares, by decide⟩
  rw [nodeLines_eq, BlockMarks.declared_append, BlockMarks.declared_outer (outer_beforeBlock m h),
    BlockMarks.declared_block (head_implLine node.name) hbody foot_brace, List.nil_append]

/-! ## 5. The text -/

theorem outer_headerLines (style : Rust) :
    ∀ l ∈ style.headerLines.map chomp, Avoids marks.outer l := by
  rw [List.forall_mem_map]
  unfold headerLines
  rw [List.forall_mem_append]
  refine ⟨by decide, ?_⟩
  split
  · exact fun _ hl => absurd hl List.not_mem_nil
  · rw [List.forall_mem_cons, List.forall_mem_map]
    refine ⟨by decide, fun path _ => ?_⟩
    rw [String.append_assoc]
    exact (avoids_append (by decide) _).chomp

variable {style : Rust} {m : Module}

/-- **The text declares the visit methods**, each once and in order, and nothing else. -/
theorem declared_print (h : m.SolidNames) (hheader : ∀ l ∈ style.headerLines, '\n' ∉ l.toList) :
    marks.declared (lines (style.print m "")) = m.visitor.methods.map methodLine := by
  have hnodes : marks.declared (m.nodes.flatMap (nodeLines m)) = [] :=
    BlockMarks.declared_flatMap fun node hnode => declared_nodeLines m (h.nodes node hnode)
  rw [lines_print style h hheader, bodyLines, BlockMarks.declared_append,
    BlockMarks.declared_append, BlockMarks.declared_append,
    BlockMarks.declared_outer (outer_headerLines style), declared_baseLines h,
    declared_visitorLines, hnodes, List.nil_append, List.nil_append, List.append_nil]

/-- **The text calls the visit methods**, each once, in order, and in the implementation of its
    node type. -/
theorem called_print (h : m.SolidNames) (hheader : ∀ l ∈ style.headerLines, '\n' ∉ l.toList) :
    marks.called none (lines (style.print m ""))
      = m.nodes.map fun node => (some (implLine node.name), callLine node) := by
  have hhead : ∀ l ∈ style.headerLines.map chomp, Avoids [marks.calls, marks.opens] l :=
    fun l hl => BlockMarks.uncalled_of_outer (outer_headerLines style l hl)
  rw [lines_print style h hheader, bodyLines, BlockMarks.called_outer hhead, List.append_assoc,
    called_baseLines h, BlockMarks.called_outer (uncalled_visitorLines m)]
  exact BlockMarks.called_flatMap fun node hnode => called_nodeLines m (h.nodes node hnode)

end VisitorNodes.Rust
