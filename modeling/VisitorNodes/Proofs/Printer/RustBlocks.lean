import VisitorNodes.Proofs.Printer.RustDispatch
import VisitorNodes.Proofs.Printer.RustInjective
import VisitorNodes.Proofs.Text.Excerpts
/-!
# The structures and implementations in a Rust text

Behind the header a Rust text consists of blocks, and what stands in them is empty or begins with a
step of white space (`Inside`), so no line of one block opens or closes another. Hence the
structures in a text are those of its node types (`blocks_structs`), and the implementations are
that of the enumeration and those of the node types (`blocks_impls`), each with its lines.
-/

namespace VisitorNodes.Rust

open Text

/-! ## 1. Lines inside of blocks -/

/-- A line that can stand in a block: it is empty, or a step of white space begins it. -/
def Inside (line : String) : Prop := line = "" ∨ starts "    " line = true

instance : DecidablePred Inside := fun _ => inferInstanceAs (Decidable (_ ∨ _))

theorem inside_append {front : String} (h : starts "    " front = true) (rest : String) :
    Inside (front ++ rest) := by
  rw [starts_iff] at h
  refine .inr (starts_iff.mpr ?_)
  rw [String.toList_append]
  exact h.trans (List.prefix_append _ _)

/-- Such a line opens and closes nothing. -/
theorem Inside.starts_eq_false {line start : String} (h : Inside line) (hne : start ≠ "")
    (ha : Apart start "    ") : starts start line = false := by
  rcases h with rfl | h
  · rw [← Bool.not_eq_true, starts_iff]
    exact fun hp => hne (String.toList_eq_nil_iff.mp (List.prefix_nil.mp hp))
  · obtain ⟨rest, hrest⟩ := starts_iff.mp h
    have hline : line = "    " ++ String.ofList rest := by
      rw [← String.toList_inj, String.toList_append, String.toList_ofList (l := rest), hrest]
    rw [hline]
    exact ha.starts_append _

section Inside

variable (m : Module)

theorem inside_matchLines : ∀ l ∈ matchLines m, Inside l := by
  unfold matchLines
  split
  · decide
  · rw [List.forall_mem_append, List.forall_mem_append, List.forall_mem_map]
    refine ⟨⟨by decide, fun node _ => ?_⟩, by decide⟩
    simp only [armLine, String.append_assoc]
    exact inside_append (by decide) _

theorem inside_acceptLine : Inside (acceptLine m) := by
  unfold acceptLine
  rw [String.append_assoc]
  exact inside_append (by decide) _

/-- The lines in the block of an implementation. -/
def implBody (node : NodeType) : List String :=
  beforeCall m node ++ callLine node :: ["    \x7d"]

theorem inside_implBody (node : NodeType) : ∀ l ∈ implBody m node, Inside l := by
  have hcall : Inside (callLine node) := by
    unfold callLine
    rw [String.append_assoc]
    exact inside_append (by decide) _
  unfold implBody beforeCall newLines
  simp only [List.forall_mem_append, List.forall_mem_cons]
  refine ⟨⟨⟨⟨⟨⟨?new, fun _ hl => (nomatch hl)⟩, ?values⟩, by decide⟩, ?accessors⟩, by decide,
    inside_acceptLine m, fun _ hl => (nomatch hl)⟩, hcall, by decide⟩
  case new =>
    rw [String.append_assoc]
    exact inside_append (by decide) _
  case values =>
    split
    · decide
    · rw [List.forall_mem_append, List.forall_mem_append, List.forall_mem_map]
      refine ⟨⟨by decide, fun member _ => ?_⟩, by decide⟩
      unfold initLine
      simp only [String.append_assoc]
      exact inside_append (by decide) _
  case accessors =>
    intro l hl
    obtain ⟨member, -, hl⟩ := List.mem_flatMap.mp hl
    simp only [accessorLines, List.mem_cons, String.append_assoc] at hl
    rcases hl with rfl | rfl | rfl | rfl | hl
    · exact .inl rfl
    · exact inside_append (by decide) _
    · exact inside_append (by decide) _
    · decide
    · cases hl

end Inside

/-! ## 2. The blocks of a text -/

section Blocks

variable {m : Module}

/-- A structure without fields closes in its first line. -/
theorem blocks_structLines (node : NodeType) (rest : List String) :
    blocks (starts "pub struct ") (ends "\x7d") none (structLines m node ++ rest)
      = (structHead node, node.members.map (fieldLine m))
        :: blocks (starts "pub struct ") (ends "\x7d") none rest := by
  have hopens : starts "pub struct " (structHead node) = true := by
    unfold structHead
    rw [String.append_assoc, String.append_assoc]
    exact starts_append_self _ _
  rw [structLines_eq]
  unfold structBody
  by_cases hnil : node.members = []
  · have hcloses : ends "\x7d" (structHead node) = true := by
      have hboth : "\x7b\x7d" = "\x7b" ++ "\x7d" := by decide
      unfold structHead
      rw [if_pos hnil, hboth, ← String.append_assoc]
      exact ends_append_self _ _
    rw [if_pos hnil, hnil]
    exact blocks_line hopens hcloses rest
  · have hopen : ends "\x7d" (structHead node) = false := by
      unfold structHead
      rw [if_neg hnil]
      exact ends_append (by decide) _
    have hfields : ∀ l ∈ node.members.map (fieldLine m), ends "\x7d" l = false :=
      List.forall_mem_map.mpr fun member _ => ends_append (by decide) _
    rw [if_neg hnil]
    exact blocks_block hopens hopen hfields (by decide) rest

/-- An implementation holds no structure. -/
theorem unstructured_impl {body : List String} (h : ∀ l ∈ body, Inside l) (name : String) :
    ∀ l ∈ BlockMarks.block (implLine name) body "\x7d", starts "pub struct " l = false := by
  unfold BlockMarks.block implLine
  rw [List.forall_mem_cons, List.forall_mem_append, String.append_assoc]
  exact ⟨Apart.starts_append (by decide) _,
    fun l hl => (h l hl).starts_eq_false (by decide) (by decide), by decide⟩

theorem unstructured_enumLines : ∀ l ∈ enumLines m, starts "pub struct " l = false := by
  unfold enumLines
  simp only [List.forall_mem_append, List.forall_mem_map, List.forall_mem_cons, String.append_assoc]
  refine ⟨⟨⟨by decide, Apart.starts_append (by decide) _, fun _ hl => (nomatch hl)⟩,
    fun node _ => Apart.starts_append (by decide) _⟩, by decide⟩

theorem unstructured_visitorLines : ∀ l ∈ visitorLines m, starts "pub struct " l = false := by
  have hhead : ∀ rest, starts "pub struct " ("pub trait " ++ m.visitor.name ++ rest) = false := by
    intro rest
    rw [String.append_assoc]
    exact Apart.starts_append (by decide) _
  unfold visitorLines
  rw [List.forall_mem_cons]
  refine ⟨by decide, ?_⟩
  split
  · rw [List.forall_mem_singleton, String.append_assoc]
    exact hhead _
  · simp only [List.forall_mem_append, List.forall_mem_map, List.forall_mem_cons]
    refine ⟨⟨⟨hhead _, fun _ hl => (nomatch hl)⟩, fun method _ => ?_⟩, by decide⟩
    simp only [methodLine, String.append_assoc]
    exact Apart.starts_append (by decide) _

/-- The lines in the block of the enumeration's implementation. -/
theorem inside_baseBody : ∀ l ∈ [acceptLine m] ++ matchLines m ++ ["    \x7d"], Inside l := by
  rw [List.forall_mem_append, List.forall_mem_append, List.forall_mem_singleton]
  exact ⟨⟨inside_acceptLine m, inside_matchLines m⟩, by decide⟩

/-- **The structures in a text** are those of the node types. -/
theorem blocks_structs :
    blocks (starts "pub struct ") (ends "\x7d") none (bodyLines m)
      = m.nodes.map fun node => (structHead node, node.members.map (fieldLine m)) := by
  have hempty : ∀ l ∈ [""], starts "pub struct " l = false := by decide
  have hnode : ∀ node ∈ m.nodes, ∀ rest,
      blocks (starts "pub struct ") (ends "\x7d") none (nodeLines m node ++ rest)
        = (structHead node, node.members.map (fieldLine m))
          :: blocks (starts "pub struct ") (ends "\x7d") none rest := by
    intro node _ rest
    rw [nodeLines_eq, List.append_assoc, List.append_assoc, List.append_assoc,
      blocks_outer hempty, blocks_structLines, blocks_outer hempty]
    exact congrArg _
      (blocks_outer (unstructured_impl (inside_implBody m node) node.name) rest)
  unfold bodyLines
  rw [List.append_assoc, baseLines_eq, List.append_assoc, blocks_outer unstructured_enumLines,
    blocks_outer (unstructured_impl inside_baseBody m.base),
    blocks_outer unstructured_visitorLines]
  exact read_flatMap_of_nil hnode rfl

/-- **The implementations in a text** are that of the enumeration and those of the node types. -/
theorem blocks_impls (h : m.SolidNames) :
    blocks (starts "impl ") (starts "\x7d") none (bodyLines m)
      = (implLine m.base, [acceptLine m] ++ matchLines m ++ ["    \x7d"])
        :: m.nodes.map fun node => (implLine node.name, implBody m node) := by
  have himpl : ∀ (name : String) (body rest : List String), (∀ l ∈ body, Inside l) →
      blocks (starts "impl ") (starts "\x7d") none
          (BlockMarks.block (implLine name) body "\x7d" ++ rest)
        = (implLine name, body) :: blocks (starts "impl ") (starts "\x7d") none rest := by
    intro name body rest hbody
    have hopen : starts "\x7d" (implLine name) = false := by
      unfold implLine
      rw [String.append_assoc]
      exact Apart.starts_append (by decide) _
    exact blocks_block (head_implLine name).opens hopen
      (fun l hl => (hbody l hl).starts_eq_false (by decide) (by decide)) (by decide) rest
  have houter : ∀ {ls : List String}, (∀ l ∈ ls, Avoids marks.outer l) →
      ∀ l ∈ ls, starts "impl " l = false := fun hls l hl => hls l hl _ (by decide)
  have hvisitor : ∀ l ∈ visitorLines m, starts "impl " l = false := fun l hl =>
    uncalled_visitorLines m l hl _ (by decide)
  have hnode : ∀ node ∈ m.nodes, ∀ rest,
      blocks (starts "impl ") (starts "\x7d") none (nodeLines m node ++ rest)
        = (implLine node.name, implBody m node)
          :: blocks (starts "impl ") (starts "\x7d") none rest := by
    intro node hmem rest
    rw [nodeLines_eq, List.append_assoc,
      blocks_outer (houter (outer_beforeBlock m (h.nodes node hmem)))]
    exact himpl node.name _ rest (inside_implBody m node)
  unfold bodyLines
  rw [List.append_assoc, baseLines_eq, List.append_assoc,
    blocks_outer (houter (outer_enumLines h)), himpl m.base _ _ inside_baseBody,
    blocks_outer hvisitor, read_flatMap_of_nil hnode rfl]

end Blocks

end VisitorNodes.Rust
