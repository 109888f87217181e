import VisitorNodes.Module
import VisitorNodes.Text.Lines
import VisitorNodes.Text.Words

/-!
# Modules as C# text

A module becomes `using` directives and one `namespace` block with an abstract class, a visitor
interface and a class per node type. The block's body is written first, as a text of its own, and
then moved one level to the right line by line.

Parameters that are C# keywords are written as verbatim identifiers (`@operator`). The visitor's
parameter is the base type's name in lower camel case.
-/

namespace VisitorNodes

open Text

/-- How C# text is set up: the namespace, and what is imported. -/
structure CSharp where
  namespaceName : String
  usings : List String := ["System", "System.Collections.Generic"]
  deriving Repr, DecidableEq

namespace CSharp

/-! ## 1. Identifiers -/

/-- The words that are no identifiers in C#. -/
def keywords : List String :=
  ["abstract", "as", "base", "bool", "break", "byte", "case", "catch", "char", "checked",
   "class", "const", "continue", "decimal", "default", "delegate", "do", "double", "else",
   "enum", "event", "explicit", "extern", "false", "finally", "fixed", "float", "for",
   "foreach", "goto", "if", "implicit", "in", "int", "interface", "internal", "is", "lock",
   "long", "namespace", "new", "null", "object", "operator", "out", "override", "params",
   "private", "protected", "public", "readonly", "ref", "return", "sbyte", "sealed", "short",
   "sizeof", "stackalloc", "static", "string", "struct", "switch", "this", "throw", "true",
   "try", "typeof", "uint", "ulong", "unchecked", "unsafe", "ushort", "using", "virtual",
   "void", "volatile", "while"]

/-- An identifier, verbatim (`@operator`) if it is a keyword. -/
def identifier (name : String) : String := if name ∈ keywords then "@" ++ name else name

/-- The parameter of every visit method. -/
def visitorParam (m : Module) : String :=
  identifier (String.ofList (lowerCamelCase m.base.toList))

/-! ## 2. The lines of the parts -/

/-- The abstract class of the base type. -/
def baseLines (m : Module) : List String :=
  ["public abstract class " ++ m.base,
   "\x7b",
   "    public abstract T Accept<T>(" ++ m.visitor.name ++ "<T> visitor);",
   "\x7d"]

/-- The declaration of a visit method. -/
def methodLine (m : Module) (method : VisitMethod) : String :=
  "    T " ++ method.name ++ "(" ++ method.nodeType ++ " " ++ visitorParam m ++ ");"

/-- The visitor interface. -/
def visitorLines (m : Module) : List String :=
  ["",
   "public interface " ++ m.visitor.name ++ "<T>",
   "\x7b"]
  ++ m.visitor.methods.map (methodLine m)
  ++ ["\x7d"]

/-- The property that reads a member. -/
def propertyLine (member : Member) : String :=
  "    public " ++ member.type ++ " " ++ member.accessor ++ " \x7b get; \x7d"

/-- The constructor's parameter for a member. -/
def param (member : Member) : String := member.type ++ " " ++ identifier member.param

/-- The head of the constructor. -/
def constructorLine (node : NodeType) : String :=
  "    public " ++ node.name ++ "(" ++ ", ".intercalate (node.members.map param) ++ ")"

/-- The assignment of a member in the constructor. -/
def assignmentLine (member : Member) : String :=
  "        " ++ member.accessor ++ " = " ++ identifier member.param ++ ";"

/-- The method by which a node accepts a visitor, and the end of its class. -/
def acceptLines (m : Module) (node : NodeType) : List String :=
  ["",
   "    public override T Accept<T>(" ++ m.visitor.name ++ "<T> visitor)",
   "    \x7b",
   "        return visitor." ++ node.visitMethod ++ "(this);",
   "    \x7d",
   "\x7d"]

/-- The class of a node type. -/
def nodeLines (m : Module) (node : NodeType) : List String :=
  ["",
   "public class " ++ node.name ++ " : " ++ m.base,
   "\x7b"]
  ++ node.members.map propertyLine
  ++ (if node.members = [] then [] else [""])
  ++ [constructorLine node,
      "    \x7b"]
  ++ node.members.map assignmentLine
  ++ ["    \x7d"]
  ++ acceptLines m node

/-! ## 3. The text -/

/-- What stands before the body of the namespace. -/
def headerLines (style : CSharp) : List String :=
  style.usings.map (fun path => "using " ++ path ++ ";")
  ++ ["namespace " ++ style.namespaceName,
      "\x7b"]

/-- The body of the namespace, not yet moved to the right. -/
def bodyLines (m : Module) : List String :=
  baseLines m ++ visitorLines m ++ m.nodes.flatMap (nodeLines m)

/-- The buffer with a module as C# text. -/
def print (style : CSharp) (m : Module) (out : String) : String :=
  let header := pushLines out style.headerLines
  let block := pushIndented header (pushLines "" (bodyLines m)) 1
  pushLine block "\x7d"

end CSharp

end VisitorNodes
