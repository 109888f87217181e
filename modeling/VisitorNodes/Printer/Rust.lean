import VisitorNodes.Module
import VisitorNodes.Printer.Boxing
import VisitorNodes.Text.Lines

/-!
# Modules as Rust text

The base type becomes an `enum` over the node types, the visitor a `trait`, and every node type a
`struct` with an initializer, one accessor per member and a method that accepts visitors. Accessors
and visit methods keep their capitalized names, so the module allows `non_snake_case`.

A member whose type is the category itself is stored in a box that the initializer makes and the
accessor sees through. Any other type is written with its mentions of the category boxed (`Boxing`),
and so stored, taken and returned alike.

Parameters that are keywords are written raw (`r#type`), but `self`, `Self`, `super` and `crate`
cannot be raw and get an underscore behind them.
-/

namespace VisitorNodes

open Text

/-- How Rust text is set up: what is imported. -/
structure Rust where
  uses : List String := []
  deriving Repr, DecidableEq

namespace Rust

/-! ## 1. Identifiers -/

/-- The words that are no identifiers in Rust. -/
def keywords : List String :=
  ["as", "async", "await", "break", "const", "continue", "crate", "dyn", "else", "enum",
   "extern", "false", "fn", "for", "gen", "if", "impl", "in", "let", "loop", "match", "mod",
   "move", "mut", "pub", "ref", "return", "self", "Self", "static", "struct", "super", "trait",
   "true", "try", "type", "unsafe", "use", "where", "while", "abstract", "become", "box", "do",
   "final", "macro", "override", "priv", "typeof", "unsized", "virtual", "yield"]

/-- The keywords that cannot be written as raw identifiers. -/
def pathKeywords : List String := ["self", "Self", "super", "crate"]

/-- A parameter name that is not a keyword. -/
def identifier (name : String) : String :=
  if name ∈ pathKeywords then name ++ "_"
  else if name ∈ keywords then "r#" ++ name
  else name

/-! ## 2. The types of a member -/

/-- A member typed exactly as the category. -/
def isBase (m : Module) (member : Member) : Bool := member.type = m.base

/-- The type in which a member is stored. -/
def storedType (m : Module) (member : Member) : String := Boxing.box member.type m.base

/-- The type that the initializer takes and the accessor returns a reference to. -/
def publicType (m : Module) (member : Member) : String :=
  if isBase m member then member.type else Boxing.box member.type m.base

/-! ## 3. The lines of the parts -/

/-- The head of a method that accepts visitors. -/
def acceptLine (m : Module) : String :=
  "    pub fn Accept<T, V: " ++ m.visitor.name ++ "<T> + ?Sized>(&self, visitor: &mut V) -> T \x7b"

/-- The arm that forwards a visitor to a node. -/
def armLine (m : Module) (node : NodeType) : String :=
  "            " ++ m.base ++ "::" ++ node.name ++ "(node) => node.Accept(visitor),"

/-- How the base type forwards a visitor; without node types there is nothing to match. -/
def matchLines (m : Module) : List String :=
  if m.nodes = [] then ["        match *self \x7b\x7d"]
  else ["        match self \x7b"] ++ m.nodes.map (armLine m) ++ ["        \x7d"]

/-- The enumeration of the node types and its method. -/
def baseLines (m : Module) : List String :=
  ["",
   "pub enum " ++ m.base ++ " \x7b"]
  ++ m.nodes.map (fun node => "    " ++ node.name ++ "(" ++ node.name ++ "),")
  ++ ["\x7d",
      "",
      "impl " ++ m.base ++ " \x7b",
      acceptLine m]
  ++ matchLines m
  ++ ["    \x7d",
      "\x7d"]

/-- The declaration of a visit method. -/
def methodLine (method : VisitMethod) : String :=
  "    fn " ++ method.name ++ "(&mut self, node: &" ++ method.nodeType ++ ") -> T;"

/-- The visitor trait. -/
def visitorLines (m : Module) : List String :=
  let head := "pub trait " ++ m.visitor.name ++ "<T> \x7b"
  "" :: if m.visitor.methods = [] then [head ++ "\x7d"]
    else [head] ++ m.visitor.methods.map methodLine ++ ["\x7d"]

/-- The field that stores a member. -/
def fieldLine (m : Module) (member : Member) : String :=
  "    " ++ member.accessor ++ ": " ++ storedType m member ++ ","

/-- The structure of a node type. -/
def structLines (m : Module) (node : NodeType) : List String :=
  let head := "pub struct " ++ node.name ++ " \x7b"
  if node.members = [] then [head ++ "\x7d"]
  else [head] ++ node.members.map (fieldLine m) ++ ["\x7d"]

/-- The initializer's parameter for a member. -/
def param (m : Module) (member : Member) : String :=
  identifier member.param ++ ": " ++ publicType m member

/-- How the initializer sets a member. -/
def initLine (m : Module) (member : Member) : String :=
  let value := identifier member.param
  "            " ++ member.accessor ++ ": "
    ++ (if isBase m member then "Box::new(" ++ value ++ ")" else value) ++ ","

/-- The initializer. -/
def newLines (m : Module) (node : NodeType) : List String :=
  ["    pub fn new(" ++ ", ".intercalate (node.members.map (param m)) ++ ") -> Self \x7b"]
  ++ (if node.members = [] then ["        Self \x7b\x7d"]
      else ["        Self \x7b"] ++ node.members.map (initLine m) ++ ["        \x7d"])
  ++ ["    \x7d"]

/-- The accessor of a member. -/
def accessorLines (m : Module) (member : Member) : List String :=
  ["",
   "    pub fn " ++ member.accessor ++ "(&self) -> &" ++ publicType m member ++ " \x7b",
   "        &self." ++ member.accessor,
   "    \x7d"]

/-- A node type: its structure and its methods. -/
def nodeLines (m : Module) (node : NodeType) : List String :=
  [""]
  ++ structLines m node
  ++ ["",
      "impl " ++ node.name ++ " \x7b"]
  ++ newLines m node
  ++ node.members.flatMap (accessorLines m)
  ++ ["",
      acceptLine m,
      "        visitor." ++ node.visitMethod ++ "(self)",
      "    \x7d",
      "\x7d"]

/-! ## 4. The text -/

/-- What stands before the types. -/
def headerLines (style : Rust) : List String :=
  ["// @generated by visitgen",
   "#![allow(non_snake_case)]"]
  ++ if style.uses = [] then []
     else "" :: style.uses.map (fun path => "use " ++ path ++ ";")

/-- All lines of a module. -/
def moduleLines (style : Rust) (m : Module) : List String :=
  style.headerLines ++ baseLines m ++ visitorLines m ++ m.nodes.flatMap (nodeLines m)

/-- The buffer with a module as Rust text. -/
def print (style : Rust) (m : Module) (out : String) : String :=
  pushLines out (style.moduleLines m)

end Rust

end VisitorNodes
