import PatternBuild.FileSystem
import PatternBuild.Path.Component
import PatternBuild.Table
import PatternBuild.Text.Utf8

/-!
# Disks: files with links and a working directory

A disk binds physical paths, which are absolute and pass through no link, to what stands there:
files, directories, symbolic links, devices and named pipes.  A file is known by a number, so it may
stand in several places.  `Disk.resolve` walks a path from the working directory and follows the
links on its way, at most forty of them.  Reading and changing files rest on it.  The user owns what
lies below one directory, `home`; of all else the user is a stranger, and the modes say who may do what.

Names on a disk are octets.  `Disk.fileSystem` shows a disk by text.
-/

namespace PatternBuild

open Path Text

/-- a physical path, by its parts -/
abbrev Location := List String

/-- a file apart from its names -/
structure FileData where
  content : Bytes
  /-- who may read, write and run it, as twelve bits -/
  mode : Nat
  /-- when it was last changed, in nanoseconds since 1970 -/
  modified : Nat
  deriving DecidableEq, Repr

/-- what stands at a location -/
inductive DiskNode where
  | file (number : Nat)
  | dir (mode modified : Nat)
  | link (target : String) (modified : Nat)
  | device (name : String)
  /-- a pipe with a name -/
  | fifo (number : Nat)
  deriving DecidableEq, Repr

/-- why a path cannot be used -/
inductive DiskFault where
  | missing
  | notDir
  | isDir
  | exists
  | notEmpty
  | tooManyLinks
  | forbidden
  | notPermitted
  | nameTooLong
  | invalid
  | busy
  | badDescriptor
  | nulInName
  /-- arguments and variables are too many or too long -/
  | tooManyArguments
  deriving DecidableEq, Repr

/-- a fault in the words of a system -/
def DiskFault.message : DiskFault → String
  | .missing => "No such file or directory"
  | .notDir => "Not a directory"
  | .isDir => "Is a directory"
  | .exists => "File exists"
  | .notEmpty => "Directory not empty"
  | .tooManyLinks => "Too many levels of symbolic links"
  | .forbidden => "Permission denied"
  | .notPermitted => "Operation not permitted"
  | .nameTooLong => "File name too long"
  | .invalid => "Invalid argument"
  | .busy => "Device or resource busy"
  | .badDescriptor => "Bad file descriptor"
  | .tooManyArguments => "Argument list too long"
  | .nulInName => "file name contained an unexpected NUL byte"

/-- files by location, and the directory where relative paths start -/
structure Disk where
  nodes : Table String DiskNode
  /-- files by number -/
  files : Table Nat FileData
  /-- a number that no file has -/
  nextFile : Nat
  /-- the time, in nanoseconds since 1970 -/
  now : Nat
  cwd : Location
  /-- the directory below which all belongs to the user -/
  home : Location
  deriving DecidableEq

namespace Disk

/-! ## locations -/

/-- a location as an absolute path -/
def pathOf (l : Location) : String :=
  String.ofList (render true (l.map String.toList))

/-- what stands at a location; the root is a directory -/
def node? (d : Disk) (l : Location) : Option DiskNode :=
  if l.isEmpty then some (.dir 0o755 0) else d.nodes.get? (pathOf l)

/-- put something at a location -/
def put (d : Disk) (l : Location) (n : DiskNode) : Disk :=
  { d with nodes := d.nodes.insert (pathOf l) n }

/-- note that the entries of a directory have changed -/
def markDir (d : Disk) (l : Location) : Disk :=
  match d.node? l with
  | some (.dir mode _) => if l.isEmpty then d else d.put l (.dir mode d.now)
  | _ => d

/-- put something new at a location -/
def add (d : Disk) (l : Location) (n : DiskNode) : Disk := (d.put l n).markDir l.dropLast

/-- take away what stands at a location -/
def drop (d : Disk) (l : Location) : Disk :=
  { d with nodes := d.nodes.erase (pathOf l) }.markDir l.dropLast

/-- the time at which the clock of a disk starts: the first day of 2026 -/
def dawn : Nat := 1767225600000000000

/-- the modes that files and directories get -/
def fileMode : Nat := 0o644
def dirMode : Nat := 0o755

/-- a disk with an empty working directory -/
def empty (cwd : Location) : Disk :=
  let above := (List.range (cwd.length + 1)).map fun n => cwd.take n
  above.foldl (fun d l => if l.isEmpty then d else d.put l (.dir dirMode dawn))
    ⟨.empty, .empty, 1, dawn, cwd, cwd⟩

/-! ## permissions -/

/-- a file by its number -/
def file (d : Disk) (number : Nat) : FileData := (d.files.get? number).getD ⟨[], fileMode, 0⟩

/-- the mode of what stands at a location -/
def modeOf (d : Disk) : DiskNode → Nat
  | .file n => (d.file n).mode
  | .dir mode _ => mode
  | .link _ _ => 0o777
  | .device _ => 0o666
  | .fifo _ => fileMode

/-- directories in which everybody may make files -/
def sharedDirs : List Location := [["tmp"], ["var", "tmp"]]

/-- whether what stands at a location belongs to the user -/
def isOwn (d : Disk) (l : Location) : Bool :=
  d.home.isPrefixOf l || sharedDirs.any fun dir => dir.isPrefixOf l && dir ≠ l

/-- what the user may do, as a sum: 4 to read, 2 to write, 1 to search a directory or run a file -/
def reading : Nat := 4
def writing : Nat := 2
def entering : Nat := 1

/-- whether the user may do something with what stands at a location -/
def allows (d : Disk) (l : Location) (what : Nat) : Bool :=
  match d.node? l with
  | none => true
  | some n =>
    let mode := d.modeOf n
    (if d.isOwn l then mode >>> 6 else mode) &&& what = what

/-- refuse what the user may not do -/
def demand (d : Disk) (l : Location) (what : Nat) : Except DiskFault Unit :=
  if d.allows l what then .ok () else .error .forbidden

/-- refuse a change of the entries of a directory if the user may not make it -/
def demandChange (d : Disk) (l : Location) : Except DiskFault Unit :=
  d.demand l.dropLast (writing + entering)

/-! ## walking -/

/-- the most links that are followed on one walk -/
def maxLinks : Nat := 40

/-- the most octets in the name of an entry, and in a path with the octet that ends it -/
def maxName : Nat := 255
def maxPath : Nat := 4096

/-- walk on from a directory; with `follow` a link at the end is followed too -/
def walk (d : Disk) (follow : Bool) (links : Nat) (dir : Location) (ps : List String) :
    Except DiskFault Location :=
  match ps with
  | [] => .ok dir
  | p :: rest =>
    if p ≠ "" ∧ d.allows dir entering = false then .error .forbidden
    else if p = "" ∨ p = "." then walk d follow links dir rest
    else if p = ".." then walk d follow links dir.dropLast rest
    else if maxName < p.length then .error .nameTooLong
    else
      let here := dir ++ [p]
      match d.node? here with
      | none => if rest.all (· = "") then .ok here else .error .missing
      | some (.dir _ _) => walk d follow links here rest
      | some (.link target _) =>
        if rest.isEmpty ∧ follow = false then .ok here
        else match links with
          | 0 => .error .tooManyLinks
          | links + 1 =>
            let start := if isRooted target.toList then [] else dir
            walk d follow links start ((parts target.toList).map String.ofList ++ rest)
      | some _ => if rest.isEmpty then .ok here else .error .notDir
termination_by (links, ps.length)

/-- the location of a path; its last part need not be there -/
def resolve (d : Disk) (follow : Bool) (path : String) : Except DiskFault Location :=
  if path = "" then .error .missing
  else if path.contains '\x00' then .error .nulInName
  else if maxPath ≤ path.length then .error .nameTooLong
  else
    let start := if isRooted path.toList then [] else d.cwd
    d.walk follow maxLinks start ((parts path.toList).map String.ofList)

/-- what stands behind a path -/
def stat (d : Disk) (path : String) : Except DiskFault (Location × DiskNode) := do
  let l ← d.resolve true path
  match d.node? l with
  | some n => return (l, n)
  | none => throw .missing

/-- what stands at a path, links not followed -/
def linkStat (d : Disk) (path : String) : Except DiskFault (Location × DiskNode) := do
  let l ← d.resolve false path
  match d.node? l with
  | some n => return (l, n)
  | none => throw .missing

def isFile (d : Disk) (path : String) : Bool :=
  match d.stat path with
  | .ok (_, .file _) => true
  | _ => false

def isDir (d : Disk) (path : String) : Bool :=
  match d.stat path with
  | .ok (_, .dir _ _) => true
  | _ => false

def isLink (d : Disk) (path : String) : Bool :=
  match d.linkStat path with
  | .ok (_, .link _ _) => true
  | _ => false

/-- whether something stands behind a path -/
def isPresent (d : Disk) (path : String) : Bool := (d.stat path).isOk

/-- whether something stands at a path, be it a link that leads nowhere -/
def isThere (d : Disk) (path : String) : Bool := (d.linkStat path).isOk

/-- the physical path behind a path, if something is there -/
def canonical? (d : Disk) (path : String) : Option String :=
  match d.stat path with
  | .ok (l, _) => some (pathOf l)
  | .error _ => none

/-- the physical path behind a path of any length, both as text -/
def realPath? (d : Disk) (path : String) : Option String :=
  let cs := (octets path).toList
  let start := if isRooted cs then [] else d.cwd
  if cs.isEmpty || cs.contains '\x00' then none
  else match d.walk true maxLinks start ((parts cs).map String.ofList) with
    | .ok l =>
      let found := pathOf l
      if (d.node? l).isSome && found.length < maxPath then some (textOf found) else none
    | .error _ => none

/-! ## attributes -/

/-- when something was last changed -/
def modifiedOf (d : Disk) : DiskNode → Nat
  | .file n => (d.file n).modified
  | .dir _ t => t
  | .link _ t => t
  | _ => 0

/-- the number of octets that something holds -/
def sizeOf (d : Disk) : DiskNode → Nat
  | .file n => (d.file n).content.length
  | .dir _ _ => 4096
  | .link target _ => target.length
  | _ => 0

/-- how many names a file has -/
def linkCount (d : Disk) (number : Nat) : Nat :=
  (d.nodes.entries.filter fun (_, n) => n = .file number).length

def setMode (d : Disk) (l : Location) (mode : Nat) : Disk :=
  match d.node? l with
  | some (.file n) => { d with files := d.files.insert n { d.file n with mode } }
  | some (.dir _ t) => d.put l (.dir mode t)
  | _ => d

def setModified (d : Disk) (l : Location) (modified : Nat) : Disk :=
  match d.node? l with
  | some (.file n) => { d with files := d.files.insert n { d.file n with modified } }
  | some (.dir mode _) => d.put l (.dir mode modified)
  | some (.link target _) => d.put l (.link target modified)
  | _ => d

/-! ## reading -/

/-- the path of an entry of the directory at the given physical path, below which `child` lies -/
def entryName? (dir child : String) : Option String :=
  let start := if dir = "/" then ['/'] else dir.toList ++ ['/']
  if start.isPrefixOf child.toList then
    let name := child.toList.drop start.length
    if name.isEmpty || name.contains '/' then none else some (String.ofList name)
  else none

/-- the names in a directory, ascending -/
def namesIn (d : Disk) (l : Location) : List String :=
  d.nodes.keys.filterMap (entryName? (pathOf l))

def list (d : Disk) (path : String) : Except DiskFault (List String) := do
  match ← d.stat path with
  | (l, .dir _ _) => do
    d.demand l reading
    return d.namesIn l
  | _ => throw .notDir

def read (d : Disk) (path : String) : Except DiskFault Bytes := do
  match ← d.stat path with
  | (l, .file n) => do
    d.demand l reading
    return (d.file n).content
  | (_, .dir _ _) => throw .isDir
  | _ => return []

/-! ## changing -/

/-- change what a file holds -/
def setContent (d : Disk) (number : Nat) (content : Bytes) : Disk :=
  { d with files := d.files.insert number { d.file number with content, modified := d.now } }

/-- a new file, which has no name yet -/
def newFile (d : Disk) (mode : Nat) (content : Bytes) : Disk × Nat :=
  ({ d with files := d.files.insert d.nextFile ⟨content, mode, d.now⟩, nextFile := d.nextFile + 1 },
    d.nextFile)

/-- what stands behind a path; if nothing does, a new file of the given mode, in a directory that is
there -/
def create (d : Disk) (mode : Nat) (path : String) : Except DiskFault (Disk × DiskNode) := do
  let l ← d.resolve true path
  match d.node? l with
  | some (.dir _ _) => throw .isDir
  | some n => do
    d.demand l writing
    return (d, n)
  | none =>
    if path.endsWith "/" then throw .isDir
    match d.node? l.dropLast with
    | some (.dir _ _) =>
      d.demandChange l
      let (d, n) := d.newFile mode []
      return (d.add l (.file n), .file n)
    | _ => throw .missing

/-- put a file at a path, in a directory that is there; a file there keeps its mode -/
def write (d : Disk) (path : String) (content : Bytes) : Except DiskFault Disk := do
  match ← d.create fileMode path with
  | (d, .file n) => return d.setContent n content
  | (d, _) => return d

/-- make a directory of the given mode -/
def makeDirAs (d : Disk) (mode : Nat) (path : String) : Except DiskFault Disk := do
  let l ← d.resolve false path
  match d.node? l with
  | some _ => throw .exists
  | none =>
    match d.node? l.dropLast with
    | some (.dir _ _) => do
      d.demandChange l
      return d.add l (.dir mode d.now)
    | _ => throw .missing

def makeDir (d : Disk) (path : String) : Except DiskFault Disk := d.makeDirAs dirMode path

/-- the paths of a directory and of those above it, the outermost first -/
def ancestors (path : String) : List String :=
  let rooted := isRooted path.toList
  let ps := (parts path.toList).filter (· ≠ [])
  (List.range ps.length).map fun n =>
    String.ofList ((if rooted then ['/'] else []) ++ joinParts (ps.take (n + 1)))

/-- make a directory and those above it; directories that are there are left alone -/
def makeDirs (d : Disk) (path : String) : Except DiskFault Disk :=
  (ancestors path).foldlM (fun d here => if d.isDir here then .ok d else d.makeDir here) d

/-- the directory part of a path -/
def parentPath (path : String) : String :=
  let ps := (parts path.toList).dropLast
  if ps.isEmpty then "." else if ps = [[]] then "/" else String.ofList (joinParts ps)

/-- put a file at a path, making the directories above it -/
def install (d : Disk) (path : String) (content : Bytes) : Except DiskFault Disk := do
  (← d.makeDirs (parentPath path)).write path content

/-- put something at a path where nothing stands, in a directory that is there -/
def place (d : Disk) (path : String) (n : DiskNode) : Except DiskFault Disk := do
  let cs := (path.toList.reverse.dropWhile (· == '/')).reverse
  let isDirName := path.endsWith "/" && !cs.isEmpty
  let l ← d.resolve false (if isDirName then String.ofList cs else path)
  match d.node? l with
  | some _ => throw .exists
  | none =>
    if isDirName then throw .missing
    match d.node? l.dropLast with
    | some (.dir _ _) => do
      d.demandChange l
      return d.add l n
    | _ => throw .missing

/-- put a symbolic link at a path, in a directory that is there -/
def makeLink (d : Disk) (path target : String) : Except DiskFault Disk :=
  d.place path (.link target d.now)

/-- take away what stands at a location, if the user may -/
def remove (d : Disk) (l : Location) : Except DiskFault Disk := do
  d.demandChange l
  return d.drop l

/-! ## trees -/

/-- the locations at and below a location -/
def subtree (d : Disk) (l : Location) : List (String × DiskNode) :=
  let root := pathOf l
  d.nodes.entries.filter fun (k, _) => k = root || (root.toList ++ ['/']).isPrefixOf k.toList

/-- take away what stands at a location, with all below it -/
def dropTree (d : Disk) (l : Location) : Disk :=
  ((d.subtree l).foldl (fun d (k, _) => { d with nodes := d.nodes.erase k }) d).markDir l.dropLast

/-- move what stands at one location, with all below it, to another -/
def moveTree (d : Disk) (source target : Location) : Disk :=
  let moved := d.subtree source
  let n := (pathOf source).length
  (moved.foldl (fun d (k, v) =>
    { d with nodes := d.nodes.insert (pathOf target ++ String.ofList (k.toList.drop n)) v })
    (d.dropTree source)).markDir target.dropLast

/-! ## as a file system -/

/-- a disk as the tool sees it -/
def fileSystem (d : Disk) : FileSystem where
  isFile path := d.isFile (octets path)
  isDir path := d.isDir (octets path)
  isPresent path := d.isPresent (octets path)
  list path :=
    match d.list (octets path) with
    | .ok names => .ok (names.map fun name => String.ofList (join path.toList (textOf name).toList))
    | .error _ => .error (.unlistable path)
  read path := (d.read (octets path)).mapError fun _ => .unreadable path
  readText path :=
    match d.read (octets path) with
    | .error _ => .error (.unreadable path)
    | .ok bytes =>
      match decode bytes with
      | .ok cs => .ok (String.ofList cs)
      | .error _ => .error (.unreadable path)

end Disk

end PatternBuild
