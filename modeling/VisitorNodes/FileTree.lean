import VisitorNodes.Dictionary

/-!
# File trees

A file tree is a value: what stands at which place, and the directory that relative paths start
from. A place is the list of names from the root. There are directories and files; what a file holds
is text or bytes that are not text.

Paths are followed name by name. Each name is looked up in a directory, so a missing or an ordinary
file on the way is a fault, also before `..`. A path that ends in a slash names a directory. Names
and paths have limits of length, counted in UTF-8 bytes: a longer path is refused at once, a longer
name where it is looked up.

Statements about a tree go through its view `node?`: the order in which entries are kept is not
observed.
-/

namespace VisitorNodes

/-! ## 1. Trees -/

/-- What a file holds. Bytes are kept as such only if they are not text. -/
inductive Content where
  | text (s : String)
  | binary (bytes : List UInt8)
  deriving Repr, DecidableEq

/-- Bytes as the content of a file: text if they are well-formed UTF-8. -/
def Content.ofBytes (bytes : ByteArray) : Content :=
  match String.fromUTF8? bytes with
  | some s => .text s
  | none => .binary bytes.toList

/-- What stands at a place. -/
inductive Node where
  | dir
  | file (content : Content)
  deriving Repr, DecidableEq

/-- The names from the root to a node. -/
abbrev Place := List String

/-- A tree of directories and files, seen from its working directory. -/
structure FileTree where
  /-- The working directory. -/
  here : Place
  /-- Everything but the root, which is always a directory. -/
  entries : List (Place × Node)
  deriving Repr, DecidableEq

/-- Why a file operation did not happen. -/
inductive FileTree.Fault where
  | missing
  | exists
  | notDirectory
  | isDirectory
  | tooLong
  | notText
  deriving Repr, DecidableEq

/-- The words for a fault. -/
def FileTree.Fault.message : FileTree.Fault → String
  | .missing => "No such file or directory (os error 2)"
  | .exists => "File exists (os error 17)"
  | .notDirectory => "Not a directory (os error 20)"
  | .isDirectory => "Is a directory (os error 21)"
  | .tooLong => "File name too long (os error 36)"
  | .notText => "stream did not contain valid UTF-8"

namespace FileTree

/-- What stands at a place. -/
def node? (t : FileTree) (place : Place) : Option Node :=
  if place = [] then some .dir else Dictionary.get? place t.entries

/-- The tree with a node at a place. -/
def put (t : FileTree) (place : Place) (node : Node) : FileTree :=
  { t with entries := Dictionary.set place node t.entries }

/-- **Putting a node is seen at its place, and nothing else changes.** -/
theorem node?_put (t : FileTree) {place : Place} (h : place ≠ []) (node : Node) (other : Place) :
    (t.put place node).node? other = if place = other then some node else t.node? other := by
  by_cases ho : other = []
  · simp [node?, ho, h]
  · simp [node?, put, ho, Dictionary.get?_set]

/-- The tree that holds the working directory and nothing else. -/
def empty : FileTree where
  here := ["tmp", "work"]
  entries := [(["tmp"], .dir), (["tmp", "work"], .dir)]

end FileTree

/-! ## 2. Paths -/

namespace Path

/-- The names in a path, `.` and `..` among them. -/
def names (path : String) : List String :=
  ((path.toList.splitOn '/').filter (· ≠ [])).map String.ofList

/-- A path from the root. -/
def isAbsolute (path : String) : Bool := path.toList.head? = some '/'

/-- A path that ends in a slash. -/
def endsInSlash (path : String) : Bool := path.toList.getLast? = some '/'

/-- The most bytes that a name may have. -/
def nameLimit : Nat := 255

/-- The most bytes that a path may have. -/
def limit : Nat := 4095

/-- A name that is too long for an entry of a directory. -/
def isLongName (name : String) : Bool := nameLimit < name.utf8ByteSize

/-- A path that is too long to be followed. -/
def isLong (path : String) : Bool := limit < path.utf8ByteSize

/-- A path in a directory. A path from the root leaves the directory aside. -/
def join (directory path : String) : String :=
  if isAbsolute path then path
  else if directory = "" ∨ endsInSlash directory then directory ++ path
  else directory ++ "/" ++ path

/-- The names of a path as its parents see them: `.` counts only at the start. -/
def plainNames (path : String) : List String :=
  match names path with
  | [] => []
  | first :: rest =>
    if first = "." && isAbsolute path then rest.filter (· ≠ ".")
    else first :: rest.filter (· ≠ ".")

/-- The non-empty proper beginnings of a list, the longest first. -/
def beginnings : List String → List (List String)
  | [] => []
  | [_] => []
  | name :: next :: rest => (beginnings (next :: rest)).map (name :: ·) ++ [[name]]

/-- A path and its parents, the longest first, each by its names. -/
def lineage (path : String) : List (List String) := names path :: beginnings (plainNames path)

end Path

/-! ## 3. Operations -/

namespace FileTree

/-- Where a path starts. -/
def start (t : FileTree) (path : String) : Place := if Path.isAbsolute path then [] else t.here

/-- Checks that a directory stands at a place. -/
def checkDir (t : FileTree) (place : Place) : Except Fault Unit :=
  match t.node? place with
  | none => .error .missing
  | some (.file _) => .error .notDirectory
  | some .dir => .ok ()

/-- The place that names lead to. Every place but the last must be a directory. -/
def walk (t : FileTree) (place : Place) : List String → Except Fault Place
  | [] => .ok place
  | name :: names =>
    match t.checkDir place with
    | .error fault => .error fault
    | .ok () =>
      if name = "." then t.walk place names
      else if name = ".." then t.walk place.dropLast names
      else if Path.isLongName name then .error .tooLong
      else t.walk (place ++ [name]) names

/-- The directory that names but the last lead to, in which the last can be looked up. -/
def walkParent (t : FileTree) (place : Place) (names : List String) (last : String) :
    Except Fault Place :=
  match t.walk place names with
  | .error fault => .error fault
  | .ok parent =>
    match t.checkDir parent with
    | .error fault => .error fault
    | .ok () => if Path.isLongName last then .error .tooLong else .ok parent

/-- The text of a file. -/
def read (t : FileTree) (path : String) : Except Fault String :=
  if path = "" then .error .missing
  else if Path.isLong path then .error .tooLong
  else
    match t.walk (t.start path) (Path.names path) with
    | .error fault => .error fault
    | .ok place =>
      match t.node? place with
      | none => .error .missing
      | some .dir => .error .isDirectory
      | some (.file content) =>
        if Path.endsInSlash path then .error .notDirectory
        else
          match content with
          | .text s => .ok s
          | .binary _ => .error .notText

/-- Whether names lead to a directory. -/
def leadsToDir (t : FileTree) (place : Place) (names : List String) : Bool :=
  match t.walk place names with
  | .ok found => t.node? found = some .dir
  | .error _ => false

/-- The tree with a directory where names lead to. Its parent must be there and itself not. -/
def makeDir (t : FileTree) (place : Place) (names : List String) : Except Fault FileTree :=
  match names.getLast? with
  | none => .error .exists
  | some last =>
    match t.walkParent place names.dropLast last with
    | .error fault => .error fault
    | .ok parent =>
      if last = "." ∨ last = ".." ∨ (t.node? (parent ++ [last])).isSome then .error .exists
      else .ok (t.put (parent ++ [last]) .dir)

/-- The tree with the first directory of a lineage, for which missing parents, the rest of the
lineage, are made before. A directory that is there already is no fault. After a fault the parents
made so far stay. -/
def makeLineage (t : FileTree) (place : Place) : List (List String) → Except Fault Unit × FileTree
  | [] => (.ok (), t)
  | names :: parents =>
    match t.makeDir place names with
    | .ok made => (.ok (), made)
    | .error .missing =>
      match t.makeLineage place parents with
      | (.error fault, after) => (.error fault, after)
      | (.ok (), after) =>
        match after.makeDir place names with
        | .ok made => (.ok (), made)
        | .error fault =>
          if after.leadsToDir place names then (.ok (), after) else (.error fault, after)
    | .error fault => if t.leadsToDir place names then (.ok (), t) else (.error fault, t)

/-- The tree with a directory at a path and its missing parents. The empty path needs none. -/
def makeDirs (t : FileTree) (path : String) : Except Fault Unit × FileTree :=
  if path = "" then (.ok (), t)
  else if Path.isLong path then (.error .tooLong, t)
  else t.makeLineage (t.start path) (Path.lineage path)

/-- The tree with a content in the file at a path, new or in place of what it held. -/
def store (t : FileTree) (path : String) (content : Content) : Except Fault FileTree :=
  if Path.isLong path then .error .tooLong
  else
    match (Path.names path).getLast? with
    | none => if Path.isAbsolute path then .error .isDirectory else .error .missing
    | some last =>
      match t.walkParent (t.start path) (Path.names path).dropLast last with
      | .error fault => .error fault
      | .ok parent =>
        if last = "." ∨ last = ".." ∨ Path.endsInSlash path
            ∨ t.node? (parent ++ [last]) = some .dir then .error .isDirectory
        else .ok (t.put (parent ++ [last]) (.file content))

/-- The tree with a text in the file at a path. -/
def write (t : FileTree) (path text : String) : Except Fault FileTree := t.store path (.text text)

/-! ## 4. Setting up and listing -/

/-- The tree with a directory at a path and all its parents, as far as they can be made. -/
def withDir (t : FileTree) (path : String) : FileTree := (t.makeDirs path).2

/-- The tree with a file at a path and all its parents, as far as they can be made. -/
def withFile (t : FileTree) (path : String) (content : Content) : FileTree :=
  let made := (t.makeLineage (t.start path) (Path.beginnings (Path.names path))).2
  match made.store path content with
  | .ok stored => stored
  | .error _ => made

/-- What stands below the working directory: paths and nodes. The path of a directory ends in a
slash. -/
def listing (t : FileTree) : List (String × Node) :=
  t.entries.filterMap fun (place, node) =>
    if t.here.isPrefixOf place && place ≠ t.here then
      let path := "/".intercalate (place.drop t.here.length)
      some (if node = .dir then path ++ "/" else path, node)
    else none

end FileTree

end VisitorNodes
