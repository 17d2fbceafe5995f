import PatternBuild.Table
import PatternBuild.FileSystem
import PatternBuild.Path.Component

/-!
# Trees: files in memory

A tree binds clean paths to files and directories; every spelling of a path means its clean form.
Adding a path also adds the directories above it, up to the first that is there already, and lists
every path in the one above it.

`lineage` gives, for a path, the directory and the name under which each of its ancestors and the
path itself are listed, from the bottom up.
-/

namespace PatternBuild

open Path Text

/-- what stands at a path -/
inductive Node where
  | file (content : Bytes)
  /-- a directory with the names it lists -/
  | dir (children : Table String Unit)
  deriving DecidableEq

/-- files and directories by clean path -/
structure Tree where
  nodes : Table String Node
  deriving DecidableEq

namespace Tree

/-! ## lineage -/

/-- where the path with the given parts, in reverse order, and its ancestors are listed -/
def lineageOf (rooted : Bool) : List Part → List (String × String)
  | [] => []
  | name :: above =>
    (String.ofList (render rooted above.reverse), String.ofList name) :: lineageOf rooted above

/-- where a path and its ancestors are listed, from the bottom up -/
def lineage (path : String) : List (String × String) :=
  let rooted := isRooted path.toList
  lineageOf rooted (resolve rooted (parts path.toList)).reverse

/-! ## adding -/

def emptyDir : Node := .dir .empty

/-- the tree that holds an empty working directory -/
def empty : Tree := ⟨Table.empty.insert "." emptyDir⟩

def get? (t : Tree) (path : String) : Option Node := t.nodes.get? (clean path)

def set (t : Tree) (key : String) (n : Node) : Tree := ⟨t.nodes.insert key n⟩

/-- list a name in a directory; nothing happens where a file stands -/
def addChild (t : Tree) (dir name : String) : Tree :=
  match t.nodes.get? dir with
  | some (.dir children) => t.set dir (.dir (children.insert name ()))
  | _ => t

/-- list every member of a lineage, adding missing directories -/
def link (t : Tree) : List (String × String) → Tree
  | [] => t
  | (dir, name) :: above =>
    let t := if t.nodes.contains dir then t else link (t.set dir emptyDir) above
    t.addChild dir name

/-- add or replace a file -/
def addFile (t : Tree) (path : String) (content : Bytes) : Tree :=
  (t.link (lineage path)).set (clean path) (.file content)

/-- add an empty directory, unless something is there -/
def addDir (t : Tree) (path : String) : Tree :=
  if t.nodes.contains (clean path) then t
  else (t.set (clean path) emptyDir).link (lineage path)

/-! ## as a file system -/

def isFile (t : Tree) (path : String) : Bool :=
  match t.get? path with
  | some (.file _) => true
  | _ => false

def isDir (t : Tree) (path : String) : Bool :=
  match t.get? path with
  | some (.dir _) => true
  | _ => false

def list (t : Tree) (path : String) : Except FileFault (List String) :=
  match t.get? path with
  | some (.dir children) =>
    .ok (children.keys.map fun name => String.ofList (join path.toList name.toList))
  | _ => .error (.notListable path)

def read (t : Tree) (path : String) : Except FileFault Bytes :=
  match t.get? path with
  | some (.file content) => .ok content
  | some (.dir _) => .error (.isDirectory path)
  | none => .error (.notFound path)

def readText (t : Tree) (path : String) : Except FileFault String := do
  match decode (← t.read path) with
  | .ok cs => return String.ofList cs
  | .error e => throw (.notText e)

/-- a tree as the tool sees it -/
def fileSystem (t : Tree) : FileSystem where
  isFile := t.isFile
  isDir := t.isDir
  isPresent path := (t.get? path).isSome
  list := t.list
  read := t.read
  readText := t.readText

end Tree

end PatternBuild
