import VisitorNodes.Printer.Rust
import VisitorNodes.Proofs.Printer.SolidNames
/-!
# The lines of a Rust text

A Rust text is written line by line and not read back, so it is one list of lines from the start
(`moduleLines`). With solid names no line behind the header is broken (`unbroken_bodyLines`), and
boxing a type brings in no blank (`solid_box`).
-/

namespace VisitorNodes

open Text

namespace Boxing

/-- A piece is written with its own characters and those of a box. -/
theorem mem_writePiece {category behind : List Char} {p : Piece} {c : Char}
    (h : c ∈ writePiece category behind p) : c ∈ p.text ∨ c ∈ "Box<>".toList := by
  cases p with
  | word w =>
    have hopen : "Box<".toList ⊆ "Box<>".toList := by decide
    have hclose : ">".toList ⊆ "Box<>".toList := by decide
    change c ∈ if w = category && !endsInPointer behind then inBox w else w at h
    split at h
    · rcases List.mem_append.mp h with h | h
      · exact (List.mem_append.mp h).symm.imp_right fun h => hopen h
      · exact .inr (hclose h)
    · exact .inl h
  | mark d => exact .inl h

theorem mem_writePieces {category behind : List Char} {ps : List Piece} {c : Char}
    (h : c ∈ writePieces category behind ps) :
    c ∈ ps.flatMap Piece.text ∨ c ∈ "Box<>".toList := by
  induction ps generalizing behind with
  | nil => exact .inl h
  | cons p ps ih =>
    rw [List.flatMap_cons, List.mem_append]
    rcases List.mem_append.mp h with h | h
    · exact (mem_writePiece h).imp_left .inl
    · exact (ih h).imp_left .inr

/-- **A boxed type holds only the characters of the type and those of a box.** -/
theorem mem_box {type category : String} {c : Char} (h : c ∈ (box type category).toList) :
    c ∈ type.toList ∨ c ∈ "Box<>".toList := by
  unfold box at h
  rw [String.toList_ofList] at h
  rw [← flatMap_text_pieces type.toList]
  exact mem_writePieces h

/-- Boxing brings in no blank. -/
theorem solid_box {type : String} (h : Solid type.toList) (category : String) :
    Solid (box type category).toList := by
  have hbox : Solid "Box<>".toList := by decide
  exact fun c hc => (mem_box hc).elim (h c) (hbox c)

end Boxing

namespace Rust

/-- Escaping a name brings in an `r#` or an underscore only. -/
theorem mem_identifier {name : String} {c : Char} (h : c ∈ (identifier name).toList) :
    c ∈ name.toList ∨ c ∈ "r#_".toList := by
  have hbehind : "_".toList ⊆ "r#_".toList := by decide
  have hbefore : "r#".toList ⊆ "r#_".toList := by decide
  unfold identifier at h
  split at h
  · rw [String.toList_append, List.mem_append] at h
    exact h.imp_right fun h => hbehind h
  · split at h
    · rw [String.toList_append, List.mem_append] at h
      exact h.symm.imp_right fun h => hbefore h
    · exact .inl h

theorem solid_identifier {name : String} (h : Solid name.toList) :
    Solid (identifier name).toList := by
  have hmarks : Solid "r#_".toList := by decide
  exact fun c hc => (mem_identifier hc).elim (h c) (hmarks c)

/-- One name is the other's escaped form: a keyword that cannot be raw, and the same with an
underscore behind it. -/
def Merged (a b : String) : Prop :=
  (a ∈ pathKeywords ∧ b = a ++ "_") ∨ (b ∈ pathKeywords ∧ a = b ++ "_")

instance (a b : String) : Decidable (Merged a b) :=
  inferInstanceAs (Decidable ((a ∈ pathKeywords ∧ b = a ++ "_") ∨
    (b ∈ pathKeywords ∧ a = b ++ "_")))

/-- Names of one escaped form are the same, or merged, or one is the other written raw. -/
theorem eq_of_identifier_eq {a b : String} (e : identifier a = identifier b) :
    a = b ∨ Merged a b ∨ (a ∈ keywords ∧ b = "r#" ++ a) ∨ (b ∈ keywords ∧ a = "r#" ++ b) := by
  have hmixed : ∀ k ∈ pathKeywords, ∀ l ∈ keywords, k ++ "_" ≠ "r#" ++ l := by
    decide +kernel
  unfold identifier at e
  split at e
  case isTrue ha =>
    split at e
    case isTrue => exact .inl ((String.append_left_inj "_").mp e)
    case isFalse =>
      split at e
      case isTrue hb => exact absurd e (hmixed a ha b hb)
      case isFalse => exact .inr (.inl (.inl ⟨ha, e.symm⟩))
  case isFalse =>
    split at e
    case isTrue ha =>
      split at e
      case isTrue hb => exact absurd e.symm (hmixed b hb a ha)
      case isFalse =>
        split at e
        case isTrue => exact .inl ((String.append_right_inj "r#").mp e)
        case isFalse => exact .inr (.inr (.inl ⟨ha, e.symm⟩))
    case isFalse =>
      split at e
      case isTrue hb => exact .inr (.inl (.inr ⟨hb, e⟩))
      case isFalse =>
        split at e
        case isTrue hb => exact .inr (.inr (.inr ⟨hb, e⟩))
        case isFalse => exact .inl e

theorem solid_storedType (m : Module) {member : Member} (h : member.SolidNames) :
    Solid (storedType m member).toList := Boxing.solid_box h.type m.base

theorem solid_publicType (m : Module) {member : Member} (h : member.SolidNames) :
    Solid (publicType m member).toList := by
  unfold publicType
  split
  · exact h.type
  · exact Boxing.solid_box h.type m.base

section Lines

variable {m : Module}

theorem unbroken_acceptLine (h : m.SolidNames) : Unbroken (acceptLine m) := by
  have hv := unbroken_of_solid h.visitor
  unfold acceptLine
  rw [unbroken_append, unbroken_append]
  refine ⟨⟨?_, hv⟩, ?_⟩ <;> decide

theorem unbroken_baseLines (h : m.SolidNames) : ∀ l ∈ baseLines m, Unbroken l := by
  have hb := unbroken_of_solid h.base
  have hnames : ∀ node ∈ m.nodes, Unbroken node.name := fun node hn =>
    unbroken_of_solid (h.nodes node hn).name
  have hmatch : ∀ l ∈ matchLines m, Unbroken l := by
    unfold matchLines
    split
    · decide
    · rw [List.forall_mem_append, List.forall_mem_append, List.forall_mem_map]
      refine ⟨⟨by decide, fun node hn => ?_⟩, by decide⟩
      simp only [armLine, unbroken_append]
      refine ⟨⟨⟨⟨?_, hb⟩, ?_⟩, hnames node hn⟩, ?_⟩ <;> decide
  unfold baseLines
  simp only [List.forall_mem_append]
  refine ⟨⟨⟨⟨?head, ?variants⟩, ?method⟩, hmatch⟩, by decide⟩
  case head =>
    simp only [List.forall_mem_cons, unbroken_append]
    refine ⟨?_, ⟨⟨?_, hb⟩, ?_⟩, ?_⟩ <;> decide
  case variants =>
    refine List.forall_mem_map.mpr fun node hn => ?_
    have hname := hnames node hn
    simp only [unbroken_append]
    refine ⟨⟨⟨⟨?_, hname⟩, ?_⟩, hname⟩, ?_⟩ <;> decide
  case method =>
    simp only [List.forall_mem_cons, unbroken_append]
    refine ⟨?_, ?_, ⟨⟨?_, hb⟩, ?_⟩, unbroken_acceptLine h, ?_⟩ <;> decide

theorem unbroken_visitorLines (h : m.SolidNames) : ∀ l ∈ visitorLines m, Unbroken l := by
  have hv := unbroken_of_solid h.visitor
  have hm : ∀ method ∈ m.visitor.methods, Unbroken (methodLine method) := fun method hmem => by
    have hn := unbroken_of_solid (h.methods method hmem).name
    have ht := unbroken_of_solid (h.methods method hmem).nodeType
    simp only [methodLine, unbroken_append]
    refine ⟨⟨⟨⟨?_, hn⟩, ?_⟩, ht⟩, ?_⟩ <;> decide
  unfold visitorLines
  rw [List.forall_mem_cons]
  refine ⟨by decide, ?_⟩
  split
  · simp only [List.forall_mem_cons, unbroken_append]
    refine ⟨⟨⟨⟨?_, hv⟩, ?_⟩, ?_⟩, ?_⟩ <;> decide
  · simp only [List.forall_mem_append, List.forall_mem_cons, List.forall_mem_map, unbroken_append]
    refine ⟨⟨⟨⟨⟨?_, hv⟩, ?_⟩, ?_⟩, hm⟩, ?_, ?_⟩ <;> decide

theorem unbroken_structLines (m : Module) {node : NodeType} (hn : node.SolidNames) :
    ∀ l ∈ structLines m node, Unbroken l := by
  have hname := unbroken_of_solid hn.name
  have hfield : ∀ member ∈ node.members, Unbroken (fieldLine m member) := fun member hmem => by
    have ha := unbroken_of_solid (hn.members member hmem).accessor
    have hs := unbroken_of_solid (solid_storedType m (hn.members member hmem))
    simp only [fieldLine, unbroken_append]
    refine ⟨⟨⟨⟨?_, ha⟩, ?_⟩, hs⟩, ?_⟩ <;> decide
  unfold structLines
  split
  · simp only [List.forall_mem_cons, unbroken_append]
    refine ⟨⟨⟨⟨?_, hname⟩, ?_⟩, ?_⟩, ?_⟩ <;> decide
  · simp only [List.forall_mem_append, List.forall_mem_cons, List.forall_mem_map, unbroken_append]
    refine ⟨⟨⟨⟨⟨?_, hname⟩, ?_⟩, ?_⟩, hfield⟩, ?_, ?_⟩ <;> decide

theorem unbroken_initLine (m : Module) {member : Member} (h : member.SolidNames) :
    Unbroken (initLine m member) := by
  have ha := unbroken_of_solid h.accessor
  have hp := unbroken_of_solid (solid_identifier h.param)
  unfold initLine
  split
  · simp only [unbroken_append]
    refine ⟨⟨⟨⟨?_, ha⟩, ?_⟩, ⟨?_, hp⟩, ?_⟩, ?_⟩ <;> decide
  · simp only [unbroken_append]
    refine ⟨⟨⟨⟨?_, ha⟩, ?_⟩, hp⟩, ?_⟩ <;> decide

theorem unbroken_newLines (m : Module) {node : NodeType} (hn : node.SolidNames) :
    ∀ l ∈ newLines m node, Unbroken l := by
  have hparam : ∀ member ∈ node.members, Unbroken (param m member) := fun member hmem => by
    have hp := unbroken_of_solid (solid_identifier (hn.members member hmem).param)
    have ht := unbroken_of_solid (solid_publicType m (hn.members member hmem))
    simp only [param, unbroken_append]
    exact ⟨⟨hp, by decide⟩, ht⟩
  have hparams : Unbroken (", ".intercalate (node.members.map (param m))) :=
    unbroken_intercalate (by decide) (List.forall_mem_map.mpr hparam)
  unfold newLines
  rw [List.forall_mem_append, List.forall_mem_append]
  refine ⟨⟨?_, ?_⟩, by decide⟩
  · simp only [List.forall_mem_cons, unbroken_append]
    refine ⟨⟨⟨?_, hparams⟩, ?_⟩, ?_⟩ <;> decide
  · split
    · decide
    · rw [List.forall_mem_append, List.forall_mem_append, List.forall_mem_map]
      exact ⟨⟨by decide, fun member hmem => unbroken_initLine m (hn.members member hmem)⟩,
        by decide⟩

theorem unbroken_accessorLines (m : Module) {member : Member} (h : member.SolidNames) :
    ∀ l ∈ accessorLines m member, Unbroken l := by
  have ha := unbroken_of_solid h.accessor
  have ht := unbroken_of_solid (solid_publicType m h)
  simp only [accessorLines, List.forall_mem_cons, unbroken_append]
  refine ⟨?_, ⟨⟨⟨⟨?_, ha⟩, ?_⟩, ht⟩, ?_⟩, ⟨?_, ha⟩, ?_, ?_⟩ <;> decide

theorem unbroken_nodeLines (h : m.SolidNames) {node : NodeType} (hn : node.SolidNames) :
    ∀ l ∈ nodeLines m node, Unbroken l := by
  have hname := unbroken_of_solid hn.name
  have hmethod := unbroken_of_solid hn.visitMethod
  have haccessors : ∀ l ∈ node.members.flatMap (accessorLines m), Unbroken l := fun l hl => by
    obtain ⟨member, hmem, hl⟩ := List.mem_flatMap.mp hl
    exact unbroken_accessorLines m (hn.members member hmem) l hl
  unfold nodeLines
  simp only [List.forall_mem_append]
  refine ⟨⟨⟨⟨⟨by decide, unbroken_structLines m hn⟩, ?head⟩, unbroken_newLines m hn⟩, haccessors⟩,
    ?accept⟩
  case head =>
    simp only [List.forall_mem_cons, unbroken_append]
    refine ⟨?_, ⟨⟨?_, hname⟩, ?_⟩, ?_⟩ <;> decide
  case accept =>
    simp only [List.forall_mem_cons, unbroken_append]
    refine ⟨?_, unbroken_acceptLine h, ⟨⟨?_, hmethod⟩, ?_⟩, ?_, ?_, ?_⟩ <;> decide

/-- The lines behind the header. -/
def bodyLines (m : Module) : List String :=
  baseLines m ++ visitorLines m ++ m.nodes.flatMap (nodeLines m)

/-- **No line behind the header is broken.** -/
theorem unbroken_bodyLines (h : m.SolidNames) : ∀ l ∈ bodyLines m, Unbroken l := by
  unfold bodyLines
  rw [List.forall_mem_append, List.forall_mem_append]
  refine ⟨⟨unbroken_baseLines h, unbroken_visitorLines h⟩, fun l hl => ?_⟩
  obtain ⟨node, hnode, hl⟩ := List.mem_flatMap.mp hl
  exact unbroken_nodeLines h (h.nodes node hnode) l hl

end Lines

theorem moduleLines_eq (style : Rust) (m : Module) :
    style.moduleLines m = style.headerLines ++ bodyLines m := by
  unfold moduleLines bodyLines
  rw [List.append_assoc, List.append_assoc, List.append_assoc]

/-- **The text is a header, which only the set-up decides, and the body behind it.** -/
theorem print_eq_header_append (style : Rust) (m : Module) :
    style.print m "" = pushLines "" style.headerLines ++ pushLines "" (bodyLines m) := by
  unfold print
  rw [moduleLines_eq, pushLines_append, pushLines_eq_append]

/-- Behind the header, the lines of the text come back as they were written. -/
theorem lines_print (style : Rust) {m : Module} (h : m.SolidNames)
    (hheader : ∀ l ∈ style.headerLines, '\n' ∉ l.toList) :
    lines (style.print m "") = style.headerLines.map chomp ++ bodyLines m := by
  have hnl : ∀ l ∈ style.moduleLines m, '\n' ∉ l.toList := by
    rw [moduleLines_eq, List.forall_mem_append]
    exact ⟨hheader, fun l hl hc => (unbroken_bodyLines h l hl '\n' hc).1 rfl⟩
  have hchomp : (bodyLines m).map chomp = (bodyLines m).map id :=
    List.map_congr_left fun l hl => chomp_of_unbroken (unbroken_bodyLines h l hl)
  unfold print
  rw [lines_pushLines hnl, moduleLines_eq, List.map_append, hchomp, List.map_id]

/-- A header of lines without line feeds, if what is imported has none. -/
theorem headerLines_unfed {style : Rust} (hu : ∀ path ∈ style.uses, '\n' ∉ path.toList) :
    ∀ l ∈ style.headerLines, '\n' ∉ l.toList := by
  unfold headerLines
  rw [List.forall_mem_append]
  refine ⟨by decide, ?_⟩
  split
  · exact fun _ hl => absurd hl List.not_mem_nil
  · rw [List.forall_mem_cons, List.forall_mem_map]
    refine ⟨by decide, fun path hp => ?_⟩
    have hpath := hu path hp
    simp only [String.toList_append, List.mem_append, not_or]
    refine ⟨⟨?_, hpath⟩, ?_⟩ <;> decide

end Rust

end VisitorNodes
