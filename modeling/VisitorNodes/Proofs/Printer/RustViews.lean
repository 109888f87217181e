import VisitorNodes.Proofs.Printer.RustBlocks
/-!
# Reading Rust structures and implementations

A node type says in four places what its fields are: in its structure, in the parameters of its
initializer, in the values that this stores, and in its accessors. Here the four are read off the
lines of a text, by their shapes and without a look at the category (`structViews`, `implViews`).

An implementation has other methods than accessors, and lines of which a part looks like a value.
Each reading finds the lines of its own kind and no others (`initializers_implBody`,
`values_implBody`, `accessors_implBody`, `targets_implBody`), and so an implementation shows what
its node type was written with (`implView_node`).
-/

namespace VisitorNodes.Rust

open Text

/-! ## 1. Reading structures and implementations -/

/-- A structure as its text shows it: its name and the tokens of each field. -/
structure StructView where
  name : String
  fields : List (List String)
  deriving Repr, DecidableEq

/-- An implementation as its text shows it: its name, for each initializer the tokens of each
parameter, the tokens of the values that are set and of the methods that return a reference, and the
fields that these refer to. -/
structure ImplView where
  name : String
  initializers : List (List (List String))
  values : List (List String)
  accessors : List (List String)
  targets : List String
  deriving Repr, DecidableEq

/-- The structure in a block. -/
def StructView.ofBlock (block : String × List String) : StructView where
  name := (tokens block.1).getD 2 ""
  fields := (block.2.filterMap (between "    " ",")).map tokens

/-- Whether a method's last token, which is the type that it returns, is a reference. -/
def returnsReference (words : List String) : Bool := words.getLast?.any (starts "&")

/-- The implementation in a block. Its parts are told by how their lines begin and end, an accessor
also by the type that it returns. -/
def ImplView.ofBlock (block : String × List String) : ImplView where
  name := (tokens block.1).getD 1 ""
  initializers := (block.2.filterMap (between "    pub fn new(" ") -> Self \x7b")).map
    fun list => (entries list).map tokens
  values := (block.2.filterMap (between "            " ",")).map tokens
  accessors := ((block.2.filterMap (between "    pub fn " " \x7b")).map tokens).filter
    returnsReference
  targets := block.2.filterMap (between "        &self." "")

/-- The structures in a text, given its lines. A structure may close in its first line. -/
def structViews (ls : List String) : List StructView :=
  (blocks (starts "pub struct ") (ends "\x7d") none ls).map StructView.ofBlock

/-- The implementations in a text, given its lines. -/
def implViews (ls : List String) : List ImplView :=
  (blocks (starts "impl ") (starts "\x7d") none ls).map ImplView.ofBlock

/-! ## 2. The lines of an implementation -/

section Impl

variable {m : Module} {node : NodeType}

/-- The head of the initializer. -/
def newLine (m : Module) (node : NodeType) : String :=
  "    pub fn new(" ++ ", ".intercalate (node.members.map (param m)) ++ ") -> Self \x7b"

theorem newLines_eq (m : Module) (node : NodeType) :
    newLines m node = newLine m node :: (newBody m node ++ ["    \x7d"]) := rfl

/-- The head of a member's accessor. -/
def accessorLine (m : Module) (member : Member) : String :=
  "    pub fn " ++ member.accessor ++ "(&self) -> &" ++ publicType m member ++ " \x7b"

/-- What an accessor returns. -/
def targetLine (member : Member) : String := "        &self." ++ member.accessor

theorem accessorLines_eq (m : Module) (member : Member) :
    accessorLines m member = ["", accessorLine m member, targetLine member, "    \x7d"] := rfl

/-- A reading that passes over the lines without names looks at the heads of the methods, the
values and the targets only. -/
theorem filterMap_implBody {α : Type} {read : String → Option α}
    (hplain : ∀ l ∈ ["", "        Self \x7b\x7d", "        Self \x7b", "        \x7d", "    \x7d"],
      read l = none)
    (hcall : read (callLine node) = none) :
    (implBody m node).filterMap read
      = (read (newLine m node)).toList ++ ((node.members.map (initLine m)).filterMap read
        ++ (node.members.flatMap (fun member =>
            (read (accessorLine m member)).toList ++ (read (targetLine member)).toList)
          ++ (read (acceptLine m)).toList)) := by
  simp only [List.forall_mem_cons] at hplain
  obtain ⟨hempty, hnone, hopen, hclose, hout, -⟩ := hplain
  have hvalues : (newBody m node).filterMap read
      = (node.members.map (initLine m)).filterMap read := by
    unfold newBody
    split
    · rename_i hnil
      rw [hnil]
      exact List.filterMap_cons_none hnone
    · simp only [List.filterMap_append, filterMap_cons_toList read, hopen, hclose,
        List.filterMap_nil, Option.toList_none, List.nil_append, List.append_nil]
  have haccessors : (node.members.flatMap (accessorLines m)).filterMap read
      = node.members.flatMap fun member =>
        (read (accessorLine m member)).toList ++ (read (targetLine member)).toList := by
    rw [List.filterMap_flatMap]
    refine List.flatMap_congr fun member _ => ?_
    rw [accessorLines_eq]
    simp only [filterMap_cons_toList read, hempty, hout, List.filterMap_nil, Option.toList_none,
      List.nil_append, List.append_nil]
  unfold implBody beforeCall
  simp only [newLines_eq, List.cons_append, List.filterMap_append, filterMap_cons_toList read,
    hvalues, haccessors, hempty, hout, hcall, List.filterMap_nil, Option.toList_none,
    List.nil_append, List.append_nil, List.append_assoc]

theorem methods_eq_nil {α : Type} {read : String → Option α}
    (ha : ∀ member ∈ node.members, read (accessorLine m member) = none)
    (ht : ∀ member ∈ node.members, read (targetLine member) = none) :
    node.members.flatMap (fun member =>
      (read (accessorLine m member)).toList ++ (read (targetLine member)).toList) = [] := by
  rw [List.flatMap_eq_nil_iff]
  intro member hmem
  rw [ha member hmem, ht member hmem]
  rfl

/-! ### Heads of methods -/

/-- The head of an initializer, up to the type that it returns. -/
theorem newHead_eq (list : String) :
    "    pub fn new(" ++ list ++ ") -> Self \x7b"
      = "    pub fn " ++ ("new(" ++ list ++ ") ->" ++ " " ++ "Self") ++ " \x7b" := by
  have hfront : "    pub fn new(" = "    pub fn " ++ "new(" := by decide
  have hback : ") -> Self \x7b" = ") ->" ++ (" " ++ ("Self" ++ " \x7b")) := by decide
  rw [hfront, hback]
  simp only [String.append_assoc]

theorem accessorLine_eq (m : Module) (member : Member) :
    accessorLine m member = "    pub fn " ++ (member.accessor ++ "(&self)" ++ " " ++ "->" ++ " "
      ++ ("&" ++ publicType m member)) ++ " \x7b" := by
  have hmiddle : "(&self) -> &" = "(&self)" ++ (" " ++ ("->" ++ (" " ++ "&"))) := by decide
  unfold accessorLine
  rw [hmiddle]
  simp only [String.append_assoc]

theorem acceptLine_eq (m : Module) :
    acceptLine m = "    pub fn " ++ ("Accept<T, V: " ++ m.visitor.name
      ++ "<T> + ?Sized>(&self, visitor: &mut V) ->" ++ " " ++ "T") ++ " \x7b" := by
  have hfront : "    pub fn Accept<T, V: " = "    pub fn " ++ "Accept<T, V: " := by decide
  have hback : "<T> + ?Sized>(&self, visitor: &mut V) -> T \x7b"
      = "<T> + ?Sized>(&self, visitor: &mut V) ->" ++ (" " ++ ("T" ++ " \x7b")) := by decide
  unfold acceptLine
  rw [hfront, hback]
  simp only [String.append_assoc]

theorem solid_reference {member : Member} (h : member.SolidNames) :
    Solid ("&" ++ publicType m member).toList := by
  rw [String.toList_append, solid_append]
  exact ⟨by decide, solid_publicType m h⟩

/-- An accessor is no initializer, whatever its name and type: it returns a reference. -/
theorem accessorLine_ne_newHead {member : Member} (h : member.SolidNames) (list : String) :
    accessorLine m member ≠ "    pub fn new(" ++ list ++ ") -> Self \x7b" := by
  intro e
  rw [accessorLine_eq, newHead_eq, String.append_left_inj, String.append_right_inj] at e
  obtain ⟨-, hself⟩ := append_word_inj (solid_reference h) (by decide) e
  have hstarts := starts_append_self "&" (publicType m member)
  rw [hself] at hstarts
  exact absurd hstarts (by decide)

/-! ### The initializer and the values that it stores -/

/-- **There is one initializer.** -/
theorem initializers_implBody (h : node.SolidNames) :
    (implBody m node).filterMap (between "    pub fn new(" ") -> Self \x7b")
      = [", ".intercalate (node.members.map (param m))] := by
  have hcall : between "    pub fn new(" ") -> Self \x7b" (callLine node) = none :=
    between_of_not_ends (ends_append (by decide) _)
  have hnew : between "    pub fn new(" ") -> Self \x7b" (newLine m node)
      = some (", ".intercalate (node.members.map (param m))) := between_append _ _ _
  have hvalues : (node.members.map (initLine m)).filterMap
      (between "    pub fn new(" ") -> Self \x7b") = [] :=
    filterMap_map_eq_nil fun member _ => between_of_not_ends (ends_append (by decide) _)
  have haccessor : ∀ member ∈ node.members,
      between "    pub fn new(" ") -> Self \x7b" (accessorLine m member) = none := by
    intro member hmem
    rw [Option.eq_none_iff_forall_ne_some]
    exact fun list e =>
      accessorLine_ne_newHead (h.members member hmem) list (between_eq_some_iff.mp e)
  have htarget : ∀ member ∈ node.members,
      between "    pub fn new(" ") -> Self \x7b" (targetLine member) = none := fun member _ =>
    between_of_not_starts (Apart.starts_append (by decide) _)
  have haccept : between "    pub fn new(" ") -> Self \x7b" (acceptLine m) = none :=
    between_of_not_ends (ends_append (by decide) _)
  rw [filterMap_implBody (by decide) hcall, hnew, hvalues, methods_eq_nil haccessor htarget,
    haccept]
  rfl

theorem values_implBody :
    (implBody m node).filterMap (between "            " ",")
      = (node.members.map (initLine m)).filterMap (between "            " ",") := by
  have hcall : between "            " "," (callLine node) = none :=
    between_of_not_ends (ends_append (by decide) _)
  have hnew : between "            " "," (newLine m node) = none :=
    between_of_not_ends (ends_append (by decide) _)
  have haccept : between "            " "," (acceptLine m) = none :=
    between_of_not_ends (ends_append (by decide) _)
  have haccessor : ∀ member ∈ node.members,
      between "            " "," (accessorLine m member) = none := fun member _ =>
    between_of_not_ends (ends_append (by decide) _)
  have htarget : ∀ member ∈ node.members,
      between "            " "," (targetLine member) = none := fun member _ =>
    between_of_not_starts (Apart.starts_append (by decide) _)
  rw [filterMap_implBody (by decide) hcall, hnew, methods_eq_nil haccessor htarget, haccept]
  exact List.append_nil _

/-! ### Accessors -/

theorem targets_implBody :
    (implBody m node).filterMap (between "        &self." "")
      = node.members.map Member.accessor := by
  have hcall : between "        &self." "" (callLine node) = none := by
    unfold callLine
    rw [String.append_assoc]
    exact between_of_not_starts (Apart.starts_append (by decide) _)
  have hnew : between "        &self." "" (newLine m node) = none := by
    unfold newLine
    rw [String.append_assoc]
    exact between_of_not_starts (Apart.starts_append (by decide) _)
  have hvalues : (node.members.map (initLine m)).filterMap (between "        &self." "") = [] :=
    filterMap_map_eq_nil fun member _ => by
      unfold initLine
      simp only [String.append_assoc]
      exact between_of_not_starts (Apart.starts_append (by decide) _)
  have haccessor : ∀ member : Member,
      between "        &self." "" (accessorLine m member) = none := by
    intro member
    unfold accessorLine
    simp only [String.append_assoc]
    exact between_of_not_starts (Apart.starts_append (by decide) _)
  have htarget : ∀ member : Member,
      between "        &self." "" (targetLine member) = some member.accessor := fun member =>
    between_eq_some_iff.mpr String.append_empty.symm
  have haccept : between "        &self." "" (acceptLine m) = none := by
    unfold acceptLine
    rw [String.append_assoc]
    exact between_of_not_starts (Apart.starts_append (by decide) _)
  rw [filterMap_implBody (by decide) hcall, hnew, hvalues, haccept]
  simp only [haccessor, htarget, Option.toList_none, Option.toList_some, List.nil_append,
    List.append_nil]
  exact List.map_eq_flatMap.symm

theorem tokens_accessor {member : Member} (h : member.SolidNames) :
    tokens (member.accessor ++ "(&self)" ++ " " ++ "->" ++ " " ++ ("&" ++ publicType m member))
      = [member.accessor ++ "(&self)", "->", "&" ++ publicType m member] := by
  have hname : Solid (member.accessor ++ "(&self)").toList := by
    rw [String.toList_append, solid_append]
    exact ⟨h.accessor, by decide⟩
  rw [tokens_append, tokens_cons hname, tokens_solid (by decide),
    tokens_solid (solid_reference h)]
  rfl

theorem returnsReference_tokens {type : String} (h : Solid type.toList) (rest : String) :
    returnsReference (tokens (rest ++ " " ++ type)) = starts "&" type := by
  unfold returnsReference
  rw [getLast?_tokens h]
  rfl

/-- **The methods that return a reference are the accessors.** -/
theorem accessors_implBody (h : node.SolidNames) :
    (((implBody m node).filterMap (between "    pub fn " " \x7b")).map tokens).filter
        returnsReference
      = node.members.map fun member =>
        [member.accessor ++ "(&self)", "->", "&" ++ publicType m member] := by
  have hcall : between "    pub fn " " \x7b" (callLine node) = none :=
    between_of_not_ends (ends_append (by decide) _)
  have hvalues : (node.members.map (initLine m)).filterMap (between "    pub fn " " \x7b") = [] :=
    filterMap_map_eq_nil fun member _ => between_of_not_ends (ends_append (by decide) _)
  have htarget : ∀ member : Member, between "    pub fn " " \x7b" (targetLine member) = none :=
    fun member => between_of_not_starts (Apart.starts_append (by decide) _)
  have hnew : between "    pub fn " " \x7b" (newLine m node) = some ("new("
      ++ ", ".intercalate (node.members.map (param m)) ++ ") ->" ++ " " ++ "Self") :=
    between_eq_some_iff.mpr (newHead_eq _)
  have haccept := between_eq_some_iff.mpr (acceptLine_eq m)
  have haccessor : ∀ member : Member, between "    pub fn " " \x7b" (accessorLine m member)
      = some (member.accessor ++ "(&self)" ++ " " ++ "->" ++ " " ++ ("&" ++ publicType m member)) :=
    fun member => between_eq_some_iff.mpr (accessorLine_eq m member)
  have hmethods : (node.members.flatMap fun member =>
      (between "    pub fn " " \x7b" (accessorLine m member)).toList
        ++ (between "    pub fn " " \x7b" (targetLine member)).toList).map tokens
      = node.members.map fun member =>
        [member.accessor ++ "(&self)", "->", "&" ++ publicType m member] := by
    rw [List.map_flatMap, List.map_eq_flatMap]
    refine List.flatMap_congr fun member hmem => ?_
    rw [haccessor, htarget, Option.toList_some, Option.toList_none, List.append_nil,
      List.map_singleton, tokens_accessor (h.members member hmem)]
  -- the initializer returns the type itself, and the method for visitors what the visitor does
  have hself : ∀ rest, returnsReference (tokens (rest ++ " " ++ "Self")) = false := fun rest =>
    (returnsReference_tokens (by decide) rest).trans (by decide)
  have hresult : ∀ rest, returnsReference (tokens (rest ++ " " ++ "T")) = false := fun rest =>
    (returnsReference_tokens (by decide) rest).trans (by decide)
  rw [filterMap_implBody (by decide) hcall, hvalues, hnew, haccept, List.nil_append,
    List.map_append, List.map_append, hmethods, List.filter_append, List.filter_append,
    List.filter_eq_nil_iff.mpr, List.filter_eq_self.mpr, List.filter_eq_nil_iff.mpr,
    List.append_nil, List.nil_append]
  · exact List.forall_mem_singleton.mpr (Bool.eq_false_iff.mp (hresult _))
  · exact List.forall_mem_map.mpr fun member _ => starts_append_self "&" _
  · exact List.forall_mem_singleton.mpr (Bool.eq_false_iff.mp (hself _))

end Impl

/-! ## 3. The views of a node type -/

theorem tokens_structHead (node : NodeType) (h : Solid node.name.toList) :
    (tokens (structHead node)).getD 2 "" = node.name := by
  have hwords : ∀ brace, "pub struct " ++ node.name ++ " " ++ brace
      = "pub" ++ " " ++ ("struct" ++ " " ++ (node.name ++ " " ++ brace)) := by
    have hfront : "pub struct " = "pub" ++ " " ++ "struct" ++ " " := by decide
    intro brace
    rw [hfront]
    simp only [String.append_assoc]
  unfold structHead
  rw [hwords, tokens_cons (by decide), tokens_cons (by decide), tokens_cons h]
  rfl

theorem tokens_implLine {name : String} (h : Solid name.toList) :
    (tokens (implLine name)).getD 1 "" = name := by
  have hwords : implLine name = "impl" ++ " " ++ (name ++ " " ++ "\x7b") := by
    have hfront : "impl " = "impl" ++ " " := by decide
    have hback : " \x7b" = " " ++ "\x7b" := by decide
    unfold implLine
    rw [hfront, hback]
    simp only [String.append_assoc]
  rw [hwords, tokens_cons (by decide), tokens_cons h]
  rfl

/-- A structure shows the name of its node type, and the lines of the fields. -/
theorem structView_node (m : Module) {node : NodeType} (h : Solid node.name.toList) :
    StructView.ofBlock (structHead node, node.members.map (fieldLine m)) =
      { name := node.name
        fields :=
          ((node.members.map (fieldLine m)).filterMap (between "    " ",")).map tokens } := by
  unfold StructView.ofBlock
  dsimp only
  rw [tokens_structHead node h]

/-- **An implementation shows its node type**: the name, the one initializer with its parameters,
the values, and for each member an accessor and what this refers to. -/
theorem implView_node (m : Module) {node : NodeType} (h : node.SolidNames) :
    ImplView.ofBlock (implLine node.name, implBody m node) =
      { name := node.name
        initializers := [(entries (", ".intercalate (node.members.map (param m)))).map tokens]
        values :=
          ((node.members.map (initLine m)).filterMap (between "            " ",")).map tokens
        accessors := node.members.map fun member =>
          [member.accessor ++ "(&self)", "->", "&" ++ publicType m member]
        targets := node.members.map Member.accessor } := by
  unfold ImplView.ofBlock
  dsimp only
  rw [tokens_implLine h.name, initializers_implBody h, values_implBody, targets_implBody,
    accessors_implBody h, List.map_singleton]

end VisitorNodes.Rust
