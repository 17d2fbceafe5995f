import PatternBuild.Shell.Tool.Quantity

/-!
# Paths and backups

Paths are taken apart, followed, and changed where something is in the way.
-/

/-!
## Paths: tools that take paths apart or follow their links
-/

namespace PatternBuild.Shell.Tool

open Activity Path

/-! ### names -/

/-- a path without slashes at its end; one of slashes only keeps one -/
def withoutSlashes (cs : List Char) : List Char :=
  let kept := (cs.reverse.dropWhile (· == '/')).reverse
  if kept.isEmpty && !cs.isEmpty then ['/'] else kept

/-- the last part of a path -/
def baseOf (path : String) : String :=
  let cs := withoutSlashes path.toList
  if cs == ['/'] then "/" else String.ofList (cs.reverse.takeWhile (· ≠ '/')).reverse

/-- the path of the directory that the last part of a path is in -/
def dirOf (path : String) : String :=
  let cs := withoutSlashes path.toList
  if cs == ['/'] then "/"
  else
    let above := (cs.reverse.dropWhile (· ≠ '/')).reverse
    if above.isEmpty then "." else String.ofList (withoutSlashes above)

/-- a name without an ending that is not all of it -/
def withoutEnding (ending name : String) : String :=
  if ending ≠ "" && name ≠ ending && name.endsWith ending then
    String.ofList (name.toList.take (name.length - ending.length))
  else name

def basename (args : List String) : Activity Nat :=
  withOptions "basename" { OptionRules.of "az" "s" [("multiple", "a", .never), ("suffix", "s", .always),
    ("zero", "z", .never)] with mixes := false } 1 args fun g => do
  let ending := if g.has "z" then "\x00" else "\n"
  let isMany := g.has "a" || g.has "s"
  match g.operands with
  | [] => misuse "basename" "missing operand" 1
  | name :: rest =>
    if isMany then
      for name in g.operands do
        Tool.say (withoutEnding ((g.value? "s").getD "") (baseOf name) ++ ending)
      return 0
    match rest with
    | [] =>
      Tool.say (baseOf name ++ ending)
      return 0
    | [suffix] =>
      Tool.say (withoutEnding suffix (baseOf name) ++ ending)
      return 0
    | _ :: extra :: _ => extraOperand "basename" extra 1

def dirname (args : List String) : Activity Nat :=
  withOptions "dirname" (.of "z" "" [("zero", "z", .never)]) 1 args fun g => do
  if g.operands.isEmpty then return ← misuse "dirname" "missing operand" 1
  for name in g.operands do Tool.say (dirOf name ++ if g.has "z" then "\x00" else "\n")
  return 0

/-! ### physical paths -/

/-- what has to be there of a path that is followed -/
inductive Presence where
  | all
  | allButLast
  | nothing
  deriving DecidableEq, Repr

/-- follow a path part by part; what is not there is taken as it is written, and so are links when too
many of them have been followed -/
def followLoosely (d : Disk) (links : Nat) (dir : Location) (ps : List String) : Location :=
  match ps with
  | [] => dir
  | p :: rest =>
    if p = "" ∨ p = "." then followLoosely d links dir rest
    else if p = ".." then followLoosely d links dir.dropLast rest
    else
      let here := dir ++ [p]
      match d.node? here, links with
      | some (.link target _), links + 1 =>
        let start := if isRooted target.toList then [] else dir
        followLoosely d links start ((parts target.toList).map String.ofList ++ rest)
      | _, links => followLoosely d links here rest
termination_by (links, ps.length)

/-- the physical path that a path leads to -/
def physicalPath (d : Disk) (needs : Presence) (path : String) : Except DiskFault Location := do
  if path = "" then throw .missing
  match needs with
  | .all => return (← d.stat path).1
  | .allButLast =>
    let l ← d.resolve true path
    match d.node? l with
    | none => return l
    | some (.dir _ _) => return l
    | some _ => if path.endsWith "/" then throw .notDir else return l
  | .nothing =>
    let start := if isRooted path.toList then [] else d.cwd
    return followLoosely d Disk.maxLinks start ((parts path.toList).map String.ofList)

/-- a path made absolute without following links -/
def writtenPath (d : Disk) (path : String) : Location :=
  let start := if isRooted path.toList then [] else d.cwd
  ((parts path.toList).map String.ofList).foldl (fun (dir : Location) p =>
    if p = "" ∨ p = "." then dir else if p = ".." then dir.dropLast else dir ++ [p]) start

/-- a path from one directory to another place -/
def relativeTo (base target : Location) : String :=
  let shared := ((base.zip target).takeWhile fun (a, b) => a = b).length
  let steps := List.replicate (base.length - shared) ".." ++ target.drop shared
  if steps.isEmpty then "." else "/".intercalate steps

def isBelow (base target : Location) : Bool := base.isPrefixOf target

def realpath (args : List String) : Activity Nat :=
  withOptions "realpath" (.of "emLPqsz" "" [("canonicalize-existing", "e", .never),
    ("canonicalize-missing", "m", .never), ("logical", "L", .never), ("physical", "P", .never),
    ("quiet", "q", .never), ("relative-to", "to", .always), ("relative-base", "base", .always),
    ("strip", "s", .never), ("no-symlinks", "s", .never), ("zero", "z", .never)]) 1 args fun g => do
  if g.operands.isEmpty then return ← misuse "realpath" "missing operand" 1
  let d ← disk
  let needs : Presence := match g.last? ["e", "m"] with
    | some "e" => .all
    | some _ => .nothing
    | none => .allButLast
  let find (path : String) : Except DiskFault Location := do
    if g.has "s" && needs ≠ .all && path ≠ "" then return writtenPath d path
    let l ← physicalPath d needs path
    return if g.has "s" then writtenPath d path else l
  let base? := (g.value? "base").bind fun path => (find path).toOption
  let to? := match g.value? "to" with
    | some path => (find path).toOption
    | none => base?
  let mut code := 0
  for path in g.operands do
    match find path with
    | .error f =>
      if !g.has "q" then Tool.complain "realpath" s!"{shown path}: {f.message}"
      code := 1
    | .ok l =>
      let text := match to? with
        | some dir => if base?.all (isBelow · l) then relativeTo dir l else Disk.pathOf l
        | none => Disk.pathOf l
      Tool.say (text ++ if g.has "z" then "\x00" else "\n")
  return code

def readlink (args : List String) : Activity Nat :=
  withOptions "readlink" (.of "femnqsvz" "" [("canonicalize", "f", .never),
    ("canonicalize-existing", "e", .never), ("canonicalize-missing", "m", .never),
    ("no-newline", "n", .never), ("quiet", "q", .never), ("silent", "s", .never),
    ("verbose", "v", .never), ("zero", "z", .never)]) 1 args fun g => do
  if g.operands.isEmpty then return ← misuse "readlink" "missing operand" 1
  if g.has "n" && 1 < g.operands.length then
    Tool.complain "readlink" "ignoring --no-newline with multiple arguments"
  let d ← disk
  let ending := if g.has "n" && g.operands.length = 1 then "" else if g.has "z" then "\x00" else "\n"
  let find (path : String) : Except DiskFault String := do
    match g.last? ["f", "e", "m"] with
    | some name =>
      let needs : Presence := if name = "e" then .all else if name = "m" then .nothing else .allButLast
      return Disk.pathOf (← physicalPath d needs path)
    | none =>
      match ← d.linkStat path with
      | (_, .link target _) => return target
      | _ => throw .invalid
  let mut code := 0
  for path in g.operands do
    match find path with
    | .ok text => Tool.say (text ++ ending)
    | .error f =>
      if g.has "v" then Tool.complain "readlink" s!"{shown path}: {f.message}"
      code := 1
  return code

def pathchk (args : List String) : Activity Nat :=
  withOptions "pathchk" (.of "pP" "" [("portability", "p", .never)]) 1 args fun g => do
  if g.operands.isEmpty then return ← misuse "pathchk" "missing operand" 1
  let mut code := 0
  for path in g.operands do
    let parts := path.splitOn "/"
    let isPlain (c : Char) : Bool := c.isAlphanum || "._-/".toList.contains c
    let fault : Option String := match (← disk).linkStat path, path.toList.find? (!isPlain ·) with
      | _, some c => if g.has "p" then some s!"non-portable character '{c}' in file name {quoted path}" else none
      | .error .notDir, _ => some s!"{shown path}: Not a directory"
      | .error f, _ => if path = "" then some s!"{quoted path}: {f.message}" else none
      | .ok _, _ => none
    match fault with
    | some message =>
      Tool.complain "pathchk" message
      code := 1
    | none =>
      if parts.any fun p => Disk.maxName < p.length then
        Tool.complain "pathchk" "limit 255 exceeded by length of file name component"
        code := 1
  return code

/-! ### directories -/

def pwd (args : List String) : Activity Nat :=
  withOptions "pwd" (.of "LP" "" [("logical", "L", .never), ("physical", "P", .never)]) 1 args
    fun g => do
  let p ← own
  let physical := Disk.pathOf p.cwd
  let d ← disk
  let named := (p.environment.lookup "PWD").filter fun path =>
    path.startsWith "/" && (d.canonical? path) = some physical
  Tool.say ((if g.last? ["L", "P"] = some "L" then named.getD physical else physical) ++ "\n")
  return 0

end PatternBuild.Shell.Tool

/-!
## Backups: names for files that others take the place of

A file in the way may be kept under another name.  Its ending is fixed, or it holds a number that no
earlier backup has.
-/

namespace PatternBuild.Shell.Tool

/-- how the endings of backups are found -/
inductive BackupKind where
  | simple
  | numbered
  /-- numbered if there are numbered ones -/
  | existing
  deriving DecidableEq, Repr

/-- how files in the way are kept -/
structure Backup where
  kind : BackupKind
  /-- the ending of those without a number -/
  ending : String
  deriving DecidableEq, Repr

/-- the number of the backup of a name -/
def backupNumber? (base name : String) : Option Nat :=
  let start := (base ++ ".~").toList
  let cs := name.toList
  if start.isPrefixOf cs && cs.getLast? == some '~' then
    natural? (String.ofList ((cs.drop start.length).dropLast))
  else none

/-- the ending of the name that is kept next -/
def Backup.endingFor (b : Backup) (d : Disk) (l : Location) : String :=
  let numbers := (d.namesIn l.dropLast).filterMap (backupNumber? (l.getLastD ""))
  let latest := numbers.foldl max 0
  let next := s!".~{latest + 1}~"
  match b.kind with
  | .simple => b.ending
  | .numbered => next
  | .existing => if numbers.isEmpty then b.ending else next

/-- keep what stands at a place under another name -/
def setAside (ending : String) (l : Location) (d : Disk) : Disk :=
  let kept := l.dropLast ++ [l.getLastD "" ++ ending]
  (d.dropTree kept).moveTree l kept

/-- the kinds of backups, as they are written -/
def backupChoices : List (List String) :=
  [["none", "off"], ["simple", "never"], ["existing", "nil"], ["numbered", "t"]]

/-- how files in the way are kept, going by options, which the environment completes -/
def withBackup (program : String) (g : Given) (body : Option Backup → Activity Nat) : Activity Nat := do
  let environment := (← Activity.own).environment
  let usual := ((environment.lookup "SIMPLE_BACKUP_SUFFIX").filter (· ≠ "")).getD "~"
  let ending := (g.value? "S").getD usual
  if !(g.has "b" || g.has "S") then body none
  else
    let (option, text) := match (g.values "b").reverse.find? (· ≠ ""), environment.lookup "VERSION_CONTROL" with
      | some text, _ => ("backup type", text)
      | none, some text => ("$VERSION_CONTROL", if text = "" then "existing" else text)
      | none, none => ("backup type", "existing")
    withChoice program option backupChoices 1 text fun kind =>
      body (match kind with
        | "none" => none
        | "simple" => some ⟨.simple, ending⟩
        | "numbered" => some ⟨.numbered, ending⟩
        | _ => some ⟨.existing, ending⟩)

end PatternBuild.Shell.Tool
