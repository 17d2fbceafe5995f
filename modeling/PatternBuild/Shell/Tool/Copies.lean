import PatternBuild.Shell.Tool.Changes
import PatternBuild.Shell.Tool.Paths

/-!
# Copies: tools that copy files

A copy goes on from directory to directory.  What it has made so far is kept in a `CopyState`, so
that a directory is not copied into itself and that operands do not take each other's place.
-/

namespace PatternBuild.Shell.Tool

open Activity Path

/-! ## files in place of others -/

/-- what happens to a file that is in the way -/
inductive Overwriting where
  | always
  /-- it stays, which is a fault -/
  | never
  /-- it stays -/
  | skips
  | asks
  deriving DecidableEq, Repr

/-- how files are copied or moved -/
structure CopyStyle where
  program : String
  isMove : Bool
  isRecursive : Bool
  /-- links are followed: those that are named, and those inside of directories -/
  followsNamed : Bool
  followsAll : Bool
  keepsMode : Bool
  dropsMode : Bool
  keepsTime : Bool
  /-- files with several names have them in the copy as well -/
  keepsNames : Bool
  overwriting : Overwriting
  /-- files in the way stay unless they are older -/
  onlyNewer : Bool
  /-- a file in the way is taken away first -/
  removesFirst : Bool
  isForced : Bool
  isVerbose : Bool
  backup : Option Backup
  /-- links are made, symbolic ones or others -/
  makesLinks : Option Bool
  onlyAttributes : Bool

/-- a file as it is copied, without any options -/
def CopyStyle.plain (program : String) : CopyStyle where
  program
  isMove := false
  isRecursive := false
  followsNamed := true
  followsAll := true
  keepsMode := false
  dropsMode := false
  keepsTime := false
  keepsNames := false
  overwriting := .always
  onlyNewer := false
  removesFirst := false
  isForced := false
  isVerbose := false
  backup := none
  makesLinks := none
  onlyAttributes := false

/-- what stands at a place -/
structure FileEntry where
  place : Location
  node : DiskNode
  deriving DecidableEq, Repr

namespace FileEntry

def isLink (e : FileEntry) : Bool :=
  match e.node with
  | .link _ _ => true
  | _ => false

def isDir (e : FileEntry) : Bool :=
  match e.node with
  | .dir _ _ => true
  | _ => false

def isFile (e : FileEntry) : Bool :=
  match e.node with
  | .file _ => true
  | _ => false

/-- two names of the same file -/
def isSame (a b : FileEntry) : Bool :=
  a.place = b.place || match a.node, b.node with
    | .file m, .file n => m = n
    | _, _ => false

/-- how many names a file has -/
def names (d : Disk) (e : FileEntry) : Nat :=
  match e.node with
  | .file n => d.linkCount n
  | _ => 1

/-- what stands at a path, or behind it if links are followed, or what a descriptor leads to -/
def find (d : Disk) (follows : Bool) (path : String) : Except DiskFault FileEntry :=
  if (descriptorPath? path).isSome then .ok ⟨["dev", path], .device path⟩
  else (if follows then d.stat path else d.linkStat path).map fun (place, node) => ⟨place, node⟩

end FileEntry

/-- what becomes of a copy, as far as the file in the way is the one that is copied -/
inductive Sameness where
  | goesOn
  /-- there is nothing to do -/
  | isDone
  | isSame
  deriving DecidableEq, Repr

/-- whether a file may take the place of another, which may be the file itself -/
def sameness (s : CopyStyle) (d : Disk) (follows : Bool) (source target : String) (a b : FileEntry) :
    Sameness :=
  let isSameName := (d.resolve false source).toOption == (d.resolve false target).toOption
  if !follows && a.isLink && b.isLink then if isSameName then .isSame else .goesOn
  else if follows && !a.isSame b then .goesOn
  else
    -- the entries that are named, links not followed
    let x := if follows then ((FileEntry.find d false source).toOption).getD a else a
    let y := if follows then ((FileEntry.find d false target).toOption).getD b else b
    let clears := s.isMove || s.removesFirst
    if follows && x.isLink && y.isLink && s.removesFirst then .goesOn
    else if s.backup.isSome then
      if x.isSame y then (if isSameName then .isSame else .goesOn)
      else if !s.isMove && follows && x.isLink && !y.isLink then .isSame
      else .goesOn
    else if clears && y.isLink then .goesOn
    else if clears && x.isSame y && 1 < y.names d && !isSameName then
      if s.isMove then .isSame else .goesOn
    else if !x.isLink && !y.isLink && !x.isSame y then .goesOn
    else if !x.isLink && !y.isLink && s.makesLinks == some false then .isDone
    else if s.makesLinks == some true && y.isLink then .goesOn
    else if follows then .isSame
    else
      match FileEntry.find d true source, FileEntry.find d true target with
      | .ok x, .ok y =>
        if !x.isSame y then .goesOn
        else if s.makesLinks == some false && !b.isLink then .isDone
        else .isSame
      | _, _ => .goesOn

/-! ## what has been done -/

/-- what a run of copies has done so far -/
structure CopyState where
  /-- there are several operands, which must not take each other's place -/
  areMany : Bool
  /-- the operands so far, with what they lead to -/
  sources : List (String × Location)
  /-- where operands were put -/
  made : List Location
  /-- directories that were copied or made, with their copies -/
  dirs : List (Location × Location)
  /-- whether a directory was made for the operand in hand -/
  hasDir : Bool
  /-- whether a directory turned out to be copied into itself -/
  isOver : Bool
  /-- files with several names, with their copies -/
  files : List (Nat × Location)

def CopyState.start (areMany : Bool) : CopyState := ⟨areMany, [], [], [], false, false, []⟩

/-- work that goes on from what has been done -/
abbrev Copying := StateT CopyState Activity

/-- tell why something cannot be copied -/
def CopyStyle.refuse (s : CopyStyle) (message : String) : Copying Bool := do
  Tool.complain s.program message
  return false

/-- tell that a copy is made -/
def CopyStyle.announce (s : CopyStyle) (source target : String) (backup : Option String) :
    Activity Unit := do
  if s.isVerbose then
    let note := match backup with
      | some ending => " (backup: " ++ quoted (target ++ ending) ++ ")"
      | none => ""
    let start := if s.isMove then "renamed " else ""
    Tool.say s!"{start}{quoted source} -> {quoted target}{note}\n"

/-- give a copy the attributes of its source -/
def CopyStyle.keepAttributes (s : CopyStyle) (source : DiskNode) (l : Location) (d : Disk) : Disk :=
  let d := if s.keepsMode then d.setMode l (d.modeOf source) else d
  if s.keepsTime then d.setModified l (d.modifiedOf source) else d

/-- what is to be done about the entry that is in the way -/
inductive Clearance where
  /-- nothing is copied; tells whether that is as it should be -/
  | over (isFine : Bool)
  /-- the copy goes on; the entry was kept under a name with the given ending, or it is still there -/
  | goesOn (backup : Option String) (isGone : Bool)

/-- make way for a copy -/
def CopyStyle.makeWay (s : CopyStyle) (isNamed follows : Bool) (source target : String) (a b : FileEntry) :
    Copying Clearance := do
  let d ← disk
  let refused (message : String) : Copying Clearance := do
    return .over (← s.refuse message)
  let verdict := if s.overwriting = .never || s.overwriting = .skips then Sameness.goesOn
    else sameness s d follows source target a b
  if verdict = .isSame then
    return ← refused s!"{quoted source} and {quoted target} are the same file"
  if s.onlyNewer && !a.isDir && d.modifiedOf a.node ≤ d.modifiedOf b.node then return .over true
  let isDirOntoDir := !s.isMove && a.isDir && b.isDir
  if !isDirOntoDir then
    match s.overwriting with
    | .always => pure ()
    | .skips => return .over true
    | .never => return ← refused s!"not replacing {quoted target}"
    | .asks =>
      if !(← confirmed s!"{s.program}: overwrite {quoted target}? ") then return .over false
  if verdict = .isDone then return .over true
  let mayChangeKind := s.isMove && s.backup.isSome
  if !b.isDir && a.isDir && !mayChangeKind then
    return ← refused s!"cannot overwrite non-directory {quoted target} with directory {quoted source}"
  if !b.isDir && isNamed && (← get).areMany && (← get).made.contains b.place then
    return ← refused s!"will not overwrite just-created {quoted target} with {quoted source}"
  if b.isDir && !a.isDir && !mayChangeKind then
    return ← refused s!"cannot overwrite directory {quoted target} with non-directory"
  let last := baseOf source
  match s.backup with
  | some backup =>
    if last ≠ "." && last ≠ ".." && (s.isMove || !b.isDir) then
      let ending := backup.endingFor d b.place
      if backup.kind ≠ .numbered && (b.place.dropLast ++ [b.place.getLastD "" ++ ending]) = a.place then
        let what := if s.isMove then "moved" else "copied"
        return ← refused
          s!"backing up {quoted target} might destroy source;  {quoted source} not {what}"
      setDisk (setAside ending b.place d)
      return .goesOn (some ending) true
  | none =>
    let isShared := s.keepsNames && 1 < b.names d
    let isReplaced := s.removesFirst || isShared || (!follows && !a.isFile)
    if !b.isDir && !s.isMove && isReplaced then
      setDisk (d.drop b.place)
      if s.isVerbose then Tool.say s!"removed {quoted target}\n"
      return .goesOn none true
  return .goesOn none false

/-! ## copying -/

/-- put octets into the file at a path, which is new or takes them over; `a` tells its mode -/
def CopyStyle.fill (s : CopyStyle) (a : FileEntry) (isNew : Bool) (source target : String) :
    Copying Bool := do
  match ← contentOf source with
  | .error f => s.refuse s!"cannot open {quoted source} for reading: {f.message}"
  | .ok cs =>
    let d ← disk
    if isNew && d.isLink target && !d.isPresent target then
      return ← s.refuse s!"not writing through dangling symlink {quoted target}"
    let mode := match a.node, s.dropsMode with
      | .file n, false => (d.file n).mode &&& 0o777
      | _, _ => 0o666
    let refused (f : DiskFault) : Copying Bool :=
      let f := if f = .isDir then DiskFault.notDir else f
      s.refuse s!"cannot create regular file {quoted target}: {f.message}"
    let bits := Mode.without mode (← own).mask
    let found := if (descriptorPath? target).isSome then .ok (d, .device target)
      else d.create bits target
    match found with
    | .error f => refused f
    | .ok (d, .file n) =>
      let d := if s.onlyAttributes && !isNew then d
        else d.setContent n (if s.onlyAttributes then [] else Text.toBytes cs)
      setDisk (match d.stat target with
        | .ok (l, _) => s.keepAttributes a.node l d
        | .error _ => d)
      return true
    | .ok _ =>
      match ← openToWrite target false with
      | .error f => refused f
      | .ok fd =>
        let isWritten ← Activity.write fd cs
        close fd
        if isWritten then return true
        s.refuse s!"error writing {quoted target}: No space left on device"

/-- copy what is no directory to a place that is free, or to a file that takes its content -/
def CopyStyle.copyFile (s : CopyStyle) (a : FileEntry) (isNew : Bool) (source target : String) :
    Copying Bool := do
  let d ← disk
  let put (what : String) (node : DiskNode) : Copying Bool := do
    match d.place target node with
    | .ok d =>
      setDisk d
      return true
    | .error f => s.refuse s!"cannot create {what}: {f.message}"
  let cleared := if isNew || !s.isForced then d
    else match d.linkStat target with
      | .ok (l, _) => d.drop l
      | .error _ => d
  match s.makesLinks, a.node with
  | some true, _ =>
    let above := dirOf target
    let isHere := (d.resolve true above).toOption == some d.cwd
    if !isRooted source.toList && !isHere then
      return ← s.refuse (shown target ++ ": can make relative symbolic links only in current directory")
    setDisk cleared
    match cleared.place target (.link source d.now) with
    | .ok d =>
      setDisk d
      return true
    | .error f => s.refuse s!"cannot create symbolic link {quoted target} to {quoted source}: {f.message}"
  | some false, node =>
    setDisk cleared
    match cleared.place target node with
    | .ok d =>
      setDisk d
      return true
    | .error f => s.refuse s!"cannot create hard link {quoted target} to {quoted source}: {f.message}"
  | none, .link text t =>
    put s!"symbolic link {quoted target}" (.link text (if s.keepsTime then t else d.now))
  | none, .fifo pipe =>
    if s.isRecursive then put s!"fifo {quoted target}" (.fifo pipe) else s.fill a isNew source target
  | none, .device name =>
    if s.isRecursive then put s!"special file {quoted target}" (.device name)
    else s.fill a isNew source target
  | none, _ => s.fill a isNew source target

/-- copy what stands at a path to another one, with all below it; `isNamed` holds for the operands
themselves, of which `top` is the one in hand with its target -/
def CopyStyle.copyTree (s : CopyStyle) : Nat → Bool → String × String → String → String → Copying Bool
  | 0, _, _, _, _ => return false
  | n + 1, isNamed, top, source, target => do
    let d ← disk
    let follows := s.followsAll || (isNamed && s.followsNamed)
    match FileEntry.find d follows source with
    | .error f => s.refuse s!"cannot stat {quoted source}: {f.message}"
    | .ok a =>
      if a.isDir && !s.isRecursive then
        return ← s.refuse (if s.program = "install" then s!"omitting directory {quoted source}"
          else s!"-r not specified; omitting directory {quoted source}")
      let state ← get
      if isNamed && state.areMany then
        if !a.isDir && s.backup.isNone && state.sources.contains (source, a.place) then
          Tool.complain s.program s!"warning: source file {quoted source} specified more than once"
          return true
        modify fun state => { state with sources := (source, a.place) :: state.sources }
      let looksAtLink := (!a.isFile && (s.isRecursive || a.isDir || a.isLink)) || s.makesLinks.isSome ||
        s.backup.isSome || s.removesFirst
      let clearance ← match FileEntry.find d (!looksAtLink) target with
        | .error .missing => pure (Clearance.goesOn none true)
        | .error f => pure (.over (← s.refuse s!"cannot stat {quoted target}: {f.message}"))
        | .ok b => s.makeWay isNamed follows source target a b
      match clearance with
      | .over isFine => return isFine
      | .goesOn backup isNew =>
        if !a.isDir then s.announce source target backup
        let d ← disk
        let targetAt := ((d.resolve false target).toOption).getD []
        match a.node with
        | .dir mode t =>
          let earlier := (← get).dirs.lookup a.place
          let derefs := s.followsAll || (isNamed && s.followsNamed)
          match earlier with
          | some place =>
            if (d.resolve false source).toOption == some place then
              modify fun state => { state with isOver := true }
              return ← s.refuse
                s!"cannot copy a directory, {quoted top.1}, into itself, {quoted top.2}"
            if targetAt = place then
              Tool.complain s.program
                s!"warning: source directory {quoted top.1} specified more than once"
              return true
            if !derefs then
              return ← s.refuse
                s!"will not create hard link {quoted target} to directory {quoted source}"
          | none =>
            if isNamed then modify fun state => { state with dirs := (a.place, targetAt) :: state.dirs }
          let umask := (← own).mask
          let isMade ← if !isNew then pure true else do
            let bits := if s.keepsMode then mode
              else Mode.without (if s.dropsMode then 0o777 else mode) umask
            match d.makeDirAs bits target with
            | .ok d =>
              setDisk d
              if !(← get).hasDir then
                modify fun state => { state with dirs := (targetAt, targetAt) :: state.dirs, hasDir := true }
              s.announce source target none
              pure true
            | .error f => s.refuse s!"cannot create directory {quoted target}: {f.message}"
          if !isMade then return false
          -- a directory that was made for the copy comes last, and ends it
          let made := (← get).dirs.map (·.1)
          let isMadeHere (name : String) : Bool := made.contains (a.place ++ [name])
          let all := (← disk).namesIn a.place
          let mut isDone := true
          for name in all.filter (!isMadeHere ·) ++ all.filter isMadeHere do
            if (← get).isOver then break
            if !(← CopyStyle.copyTree s n false top (entryPath source name) (entryPath target name)) then
              isDone := false
          let d ← disk
          match d.stat target with
          | .ok (l, _) =>
            setDisk (s.keepAttributes (.dir mode t) l d)
          | .error _ => pure ()
          return isDone
        | node =>
          let shared? : Option Nat := match node, s.keepsNames && 1 < a.names d with
            | .file k, true => some k
            | _, _ => none
          let copied := (← get).files
          match shared?, shared?.bind (fun k => copied.lookup k) with
          | some _, some place =>
            match d.node? place with
            | some copy =>
              let d := if isNew then d else d.drop targetAt
              match d.place target copy with
              | .ok d =>
                setDisk d
                return true
              | .error f =>
                s.refuse s!"cannot create hard link {quoted target} to {quoted (Disk.pathOf place)}: {f.message}"
            | none => return false
          | shared?, _ =>
            let isDone ← s.copyFile a isNew source target
            if isDone then
              let place := (((← disk).resolve true target).toOption).getD targetAt
              modify fun state => { state with
                made := if isNamed then place :: state.made else state.made
                files := match shared? with
                  | some k => (k, place) :: state.files
                  | none => state.files }
            return isDone

/-! ## operands -/

/-- the targets of operands: each with its source, and whether they lie in a directory; or a
complaint, and whether it is one about the operands -/
def destinations (d : Disk) (g : Given) : Except (String × Bool) (List (String × String) × Bool) := do
  let into (dir : String) (sources : List String) : List (String × String) × Bool :=
    (sources.map fun source =>
      let last := baseOf source
      (source, if last = ".." then dir else entryPath dir last), true)
  match g.value? "t" with
  | some dir =>
    if g.operands.isEmpty then throw ("missing file operand", true)
    if g.has "T" then
      throw ("cannot combine --target-directory (-t) and --no-target-directory (-T)", false)
    match d.stat dir with
    | .ok (_, .dir _ _) => return into dir g.operands
    | .ok _ => throw (s!"target directory {quoted dir}: Not a directory", false)
    | .error f => throw (s!"target directory {quoted dir}: {f.message}", false)
  | none =>
    match g.operands with
    | [] => throw ("missing file operand", true)
    | [source] => throw (s!"missing destination file operand after {quoted source}", true)
    | [source, target] =>
      if d.isDir target && !g.has "T" then return into target [source]
      else return ([(source, target)], false)
    | many =>
      if g.has "T" then throw (s!"extra operand {quoted (firstOf (many.drop 2))}", true)
      let dir := many.getLastD ""
      match d.stat dir with
      | .ok (_, .dir _ _) => return into dir many.dropLast
      | .ok _ => throw (s!"target {quoted dir}: Not a directory", false)
      | .error f => throw (s!"target {quoted dir}: {f.message}", false)

/-- what happens to files that are in the way, and whether they stay unless they are older; the last of
the options counts -/
def overwritingOf (refusal : Overwriting) (forces : Bool) (g : Given) : Overwriting × Bool :=
  let (how, isNewer) := g.options.foldl (fun (how, isNewer) (name, value) =>
    match name with
    | "f" => if forces then (.always, isNewer) else (how, isNewer)
    | "i" => (.asks, isNewer)
    | "n" => (refusal, isNewer)
    | "u" =>
      if how = .never then (how, isNewer)
      else if value = "" then (how, true)
      else match choice? [["all"], ["none"], ["older"]] value with
        | some "all" => (.always, false)
        | some "none" => (.skips, false)
        | _ => (.always, true)
    | _ => (how, isNewer)) (Overwriting.always, false)
  (how, isNewer && how ≠ .never)

/-- the values of options that have only some -/
def withCopyChoices (program : String) (g : Given) (body : Activity Nat) : Activity Nat :=
  let updates := match (g.values "u").find? fun text =>
      text ≠ "" && (choice? [["all"], ["none"], ["older"]] text).isNone with
    | some text => withChoice program "--update" [["all"], ["none"], ["older"]] 1 text fun _ => pure 0
    | none => body
  match (g.value? "reflink").filter (· ≠ "") with
  | some text => withChoice program "--reflink" [["auto"], ["always"], ["never"]] 1 text fun _ => updates
  | none => updates

/-! ## cp -/

/-- what `--preserve` may name -/
def keptChoices : List (List String) :=
  [["mode"], ["timestamps"], ["ownership"], ["links"], ["context"], ["xattr"], ["all"]]

/-- make the directories that a source lies in below a directory -/
def makeSourceDirs (isVerbose : Bool) (dir source : String) : Activity Unit := do
  if dirOf source ≠ "." then
    for part in Disk.ancestors (dirOf source) do
      let path := entryPath dir part
      if !(← disk).isDir path then
        match (← disk).makeDir path with
        | .ok d =>
          setDisk d
          if isVerbose then Tool.say s!"{part} -> {path}\n"
        | .error _ => pure ()

/-- how `cp` copies, going by its options -/
def copyStyleOf (g : Given) (backup : Option Backup) : CopyStyle :=
  let isRecursive := g.has "r" || g.has "R" || g.has "a"
  let listed (option : String) : List String :=
    (g.values option).flatMap fun text => if text = "" then ["mode", "timestamps"]
      else (text.splitOn ",").filterMap (choice? keptChoices)
  let names (option what : String) : Bool :=
    (listed option).contains what || (listed option).contains "all"
  let keeps (what : String) : Bool :=
    (g.has "a" || names "preserve" what) && !names "no-preserve" what
  let keepsUsual := g.has "p"
  let links := g.last? ["H", "L", "P", "d", "a"]
  let (overwriting, onlyNewer) := overwritingOf .skips false g
  { CopyStyle.plain "cp" with
    isRecursive
    followsNamed := match links with
      | some "H" => true
      | some "L" => true
      | some _ => false
      | none => !isRecursive
    followsAll := match links with
      | some "L" => true
      | some _ => false
      | none => !isRecursive
    keepsMode := keepsUsual || keeps "mode"
    dropsMode := !keepsUsual && !keeps "mode" && names "no-preserve" "mode"
    keepsTime := keepsUsual || keeps "timestamps"
    keepsNames := g.has "d" || keeps "links"
    overwriting
    onlyNewer
    removesFirst := g.has "rd"
    isForced := g.has "f"
    isVerbose := g.has "v" || g.has "debug"
    backup
    makesLinks := if g.has "s" then some true else if g.has "l" then some false else none
    onlyAttributes := g.has "attributes" }

/-- copy operands to their targets -/
def copyPairs (s : CopyStyle) (g : Given) (pairs : List (String × String)) (areIn : Bool) :
    Activity Nat := do
  let mut code := 0
  let mut state := CopyState.start (areIn && 1 < pairs.length)
  for (source, target) in pairs do
    if g.has "parents" then makeSourceDirs s.isVerbose ((g.value? "t").getD (g.operands.getLastD "")) source
    -- a file that is forced onto itself is kept as its own backup
    let d ← disk
    let kept : Option String := match s.backup, d.linkStat target with
      | some backup, .ok (l, .file _) =>
        if s.isForced && source = target then some (backup.endingFor d l) else none
      | _, _ => none
    let (s, target) := match kept with
      | some ending => ({ s with backup := none }, target ++ ending)
      | none => (s, target)
    let (isDone, after) ← (s.copyTree deepest true (source, target) source target).run
      { state with hasDir := false, isOver := false }
    state := after
    if !isDone then code := 1
  return code

def cp (args : List String) : Activity Nat :=
  withOptions "cp" (.of "abdfHilLnPpRrsTuvxZ" "tS" [("archive", "a", .never),
    ("attributes-only", "attributes", .never), ("backup", "b", .maybe),
    ("copy-contents", "contents", .never), ("debug", "debug", .never), ("force", "f", .never),
    ("interactive", "i", .never), ("link", "l", .never), ("dereference", "L", .never),
    ("no-clobber", "n", .never), ("no-dereference", "P", .never), ("preserve", "preserve", .maybe),
    ("no-preserve", "no-preserve", .always), ("recursive", "R", .never), ("parents", "parents", .never),
    ("remove-destination", "rd", .never), ("symbolic-link", "s", .never), ("suffix", "S", .always),
    ("target-directory", "t", .always), ("no-target-directory", "T", .never), ("update", "u", .maybe),
    ("verbose", "v", .never), ("one-file-system", "x", .never),
    ("strip-trailing-slashes", "strip", .never), ("reflink", "reflink", .maybe),
    ("sparse", "sparse", .always)]) 1 args fun g =>
  withCopyChoices "cp" g do
  let wrong := ((g.values "preserve" ++ g.values "no-preserve").flatMap (·.splitOn ",")).find? fun text =>
    text ≠ "" && (choice? keptChoices text).isNone
  match wrong with
  | some text =>
    let option := if (g.values "preserve").any fun list => (list.splitOn ",").contains text
      then "--preserve" else "--no-preserve"
    withChoice "cp" option keptChoices 1 text fun _ => pure 1
  | none =>
    if g.has "n" then
      Tool.complain "cp"
        "warning: behavior of -n is non-portable and may change in future; use --update=none instead"
    withBackup "cp" g fun backup => do
    let s := copyStyleOf g backup
    let dir := (g.value? "t").getD (g.operands.getLastD "")
    let sources := if g.has "t" then g.operands else g.operands.dropLast
    let d ← disk
    let found := if !g.has "parents" then destinations d g
      else if d.isDir dir then .ok (sources.map fun source => (source, entryPath dir source), true)
      else .error ("with --parents, the destination must be a directory", true)
    match found with
    | .error (message, isMisuse) => if isMisuse then misuse "cp" message 1 else refuse "cp" message 1
    | .ok (pairs, areIn) => copyPairs s g pairs areIn

/-! ## install -/

/-- make the directories of a path, telling of each that is new -/
def installDirs (isVerbose : Bool) (mode : Nat) (path : String) : Activity Bool := do
  let mut isDone := true
  let all := Disk.ancestors path
  for part in all do
    let d ← disk
    if isDone && !d.isDir part then
      let bits := if part = all.getLastD "" then mode else 0o755
      let isMade ← changeDisk (d.makeDirAs bits part)
        (fun f => Tool.complain "install" s!"cannot create directory {quoted part}: {f.message}")
        (if isVerbose then Tool.say s!"install: creating directory {quoted part}\n" else return)
      if !isMade then isDone := false
  return isDone

def install (args : List String) : Activity Nat :=
  withOptions "install" (.of "bcCdDpsTv" "gmotS" [("backup", "b", .maybe), ("compare", "C", .never),
    ("directory", "d", .never), ("group", "g", .always), ("mode", "m", .always),
    ("owner", "o", .always), ("preserve-timestamps", "p", .never), ("strip", "s", .never),
    ("suffix", "S", .always), ("target-directory", "t", .always),
    ("no-target-directory", "T", .never), ("verbose", "v", .never)]) 1 args fun g => do
  match Mode.changed? 0 (g.has "d") ((g.value? "m").getD "755") 0 with
  | none => refuse "install" ("invalid mode " ++ quoted (g.valueOf "m")) 1
  | some mode =>
    if g.has "d" then
      if g.operands.isEmpty then return ← misuse "install" "missing file operand" 1
      let mut code := 0
      for path in g.operands do
        if ← installDirs (g.has "v") mode path then
          match (← disk).stat path with
          | .ok (l, _) => setDisk ((← disk).setMode l mode)
          | .error _ => pure ()
        else code := 1
      return code
    else
      withBackup "install" g fun backup => do
      let s : CopyStyle := { CopyStyle.plain "install" with
        keepsTime := g.has "p"
        removesFirst := true
        isVerbose := g.has "v"
        backup }
      if g.has "D" then
        match g.value? "t", g.operands with
        | some dir, _ => discard (installDirs (g.has "v") 0o755 dir)
        | none, [_, target] =>
          let dir := dirOf target
          if dir ≠ "." then discard (installDirs (g.has "v") 0o755 dir)
        | none, _ => pure ()
      match destinations (← disk) g with
      | .error (message, isMisuse) =>
        if isMisuse then misuse "install" message 1 else refuse "install" message 1
      | .ok (pairs, areIn) =>
        let mut code := 0
        let mut state := CopyState.start (areIn && 1 < pairs.length)
        for (source, target) in pairs do
          let (isDone, after) ← (s.copyTree deepest true (source, target) source target).run state
          state := after
          if isDone then
            match (← disk).stat target with
            | .ok (l, _) => setDisk ((← disk).setMode l mode)
            | .error _ => pure ()
          else code := 1
        return code

end PatternBuild.Shell.Tool
