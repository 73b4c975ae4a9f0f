import ArmScript.Disk.Basic

/-!
A directory and all below it, as a value. Paths are read from that directory; what lies outside of it is there
but holds no files.
-/
set_option autoImplicit false

namespace ArmScript

inductive FileNode where
  | file (bytes : ByteArray)
  | directory

/-- Files and directories by the names that lead to them. The directories on the way need not be listed. -/
structure FileTree where
  nodes : List (List String × FileNode)

def pathNames (path : String) : List String :=
  (path.splitOn "/").filter fun name => name != "" && name != "."

def FileTree.ofPaths (files : List (String × FileNode)) : FileTree :=
  ⟨files.map fun (path, node) => (pathNames path, node)⟩

def readBytes (bytes : ByteArray) : Found :=
  match String.fromUTF8? bytes with
  | some content => .text content
  | none => .notText

def FileTree.at (tree : FileTree) (names : List String) : Found :=
  match tree.nodes.find? fun n => n.1 == names with
  | some (_, .file bytes) => readBytes bytes
  | some (_, .directory) => .directory
  | none =>
    if names.isEmpty || tree.nodes.any fun n => n.1.take names.length == names then .directory
    else .missing

inductive Place where
  | inside (names : List String)
  | outside
  | nowhere
  deriving DecidableEq, Repr

def FileTree.found (tree : FileTree) : Place → Found
  | .inside names => tree.at names
  | .outside => .directory
  | .nowhere => .missing

def Place.step (place : Place) (name : String) : Place :=
  match place with
  | .inside names =>
    if name = "." then place
    else if name = ".." then (if names.isEmpty then .outside else .inside names.dropLast)
    else .inside (names ++ [name])
  | .outside => if name = "." || name = ".." then .outside else .nowhere
  | .nowhere => .nowhere

def FileTree.follow (tree : FileTree) (place : Place) : List String → Found
  | [] => tree.found place
  | name :: names =>
    match tree.found place with
    | .directory => tree.follow (place.step name) names
    | .missing => .missing
    | _ => .notDirectory

/-- The steps of a path. A slash at its end asks for a directory, as `.` does. -/
def pathSteps (path : String) : List String :=
  (path.splitOn "/").filter (· != "") ++ if path.toList.getLast? = some '/' then ["."] else []

def FileTree.look (tree : FileTree) (path : String) : Found :=
  if path.isEmpty then .missing
  else tree.follow (if path.toList.head? = some '/' then .outside else .inside []) (pathSteps path)

end ArmScript
