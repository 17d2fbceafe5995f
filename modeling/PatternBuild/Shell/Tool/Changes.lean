import PatternBuild.Shell.Mode
import PatternBuild.Shell.Tool.Calendar
import PatternBuild.Shell.Tool.Calendar.Reading
import PatternBuild.Shell.Tool.Paths

/-!
# Changes: tools that make files and directories or take them away
-/

namespace PatternBuild.Shell.Tool

open Activity Path

/-- the path of an entry of a directory -/
def entryPath (dir name : String) : String := if dir.endsWith "/" then dir ++ name else dir ++ "/" ++ name

/-- what the user answers to a question -/
def confirmed (question : String) : Activity Bool := do
  discard flush
  tell question
  let (line, _) ← readLine 0
  return line.head?.any fun c => c == 'y' || c == 'Y'

/-- change the disk, or tell why that fails and note it -/
def changeDisk (change : Except DiskFault Disk) (onFault : DiskFault → Activity Unit)
    (after : Activity Unit) : Activity Bool := do
  match change with
  | .ok d =>
    setDisk d
    after
    return true
  | .error f =>
    onFault f
    return false

/-! ## mkdir and rmdir -/

/-- make the directories of a path that are not there -/
def makeParents (program : String) (isVerbose : Bool) (mode : Nat) : List String → Activity Bool
  | [] => return true
  | path :: rest => do
    let d ← disk
    if d.isDir path then makeParents program isVerbose mode rest
    else
      let isLast := rest.isEmpty
      let umask := (← own).mask
      let bits := if isLast then mode else Mode.without 0o777 umask ||| 0o300
      let isMade ← changeDisk (d.makeDirAs bits path)
        (fun f => do
          let f := match d.linkStat path with
            | .ok _ => if isLast then DiskFault.exists else .notDir
            | .error _ => f
          Tool.complain program s!"cannot create directory {quoted path}: {f.message}")
        (if isVerbose then Tool.say s!"mkdir: created directory {quoted path}\n" else return)
      if isMade then makeParents program isVerbose mode rest else return false

def mkdir (args : List String) : Activity Nat :=
  withOptions "mkdir" (.of "pvZ" "m" [("mode", "m", .always), ("parents", "p", .never),
    ("verbose", "v", .never)]) 1 args fun g => do
  if g.operands.isEmpty then return ← misuse "mkdir" "missing operand" 1
  let umask := (← own).mask
  let usual := Mode.without 0o777 umask
  let mode? := match g.value? "m" with
    | some text => Mode.changed? umask true text 0o777
    | none => some usual
  match mode? with
  | none => refuse "mkdir" ("invalid mode " ++ quoted (g.valueOf "m")) 1
  | some mode =>
    let mut code := 0
    for path in g.operands do
      let isMade ← if g.has "p" && path ≠ "" then
          makeParents "mkdir" (g.has "v") mode (Disk.ancestors path)
        else
          changeDisk ((← disk).makeDirAs mode path)
            (fun f => Tool.complain "mkdir" s!"cannot create directory {quoted path}: {f.message}")
            (if g.has "v" then Tool.say s!"mkdir: created directory {quoted path}\n" else return)
      if !isMade then code := 1
    return code

/-- take an empty directory away -/
def removeDir (d : Disk) (path : String) : Except DiskFault Disk := do
  match ← d.linkStat path with
  | (l, .dir _ _) =>
    if d.isLink (String.ofList (withoutSlashes path.toList)) then throw .notDir
    if (Tool.withoutSlashes path.toList).reverse.takeWhile (· ≠ '/') == ['.'] then throw .invalid
    if !(d.namesIn l).isEmpty then throw .notEmpty
    if l.isEmpty then throw .busy
    d.remove l
  | _ => throw .notDir

def rmdir (args : List String) : Activity Nat :=
  withOptions "rmdir" (.of "pv" "" [("parents", "p", .never), ("verbose", "v", .never),
    ("ignore-fail-on-non-empty", "ignore", .never)]) 1 args fun g => do
  if g.operands.isEmpty then return ← misuse "rmdir" "missing operand" 1
  let mut code := 0
  for operand in g.operands do
    let paths := if g.has "p" then (Disk.ancestors operand).reverse else [operand]
    let mut isFirst := true
    let mut goesOn := true
    for path in paths do
      if goesOn then
        let path := if isFirst then operand else path
        if g.has "v" then Tool.say s!"rmdir: removing directory, {quoted path}\n"
        let what := if isFirst then "" else "directory "
        let ignores := g.has "ignore"
        match removeDir (← disk) path with
        | .ok d => setDisk d
        | .error f =>
          goesOn := false
          let d ← disk
          let isBehindLink := d.isLink (String.ofList (withoutSlashes path.toList)) && d.isDir path
          let reason := if path.endsWith "/" && isBehindLink then "Symbolic link not followed"
            else f.message
          if !(ignores && f = .notEmpty) then
            Tool.complain "rmdir" s!"failed to remove {what}{quoted path}: {reason}"
            code := 1
        isFirst := false
  return code

/-! ## rm -/

/-- what something is called in questions -/
def kindName (d : Disk) : DiskNode → String
  | .file n => if (d.file n).content.isEmpty then "regular empty file" else "regular file"
  | .dir _ _ => "directory"
  | .link _ _ => "symbolic link"
  | .device _ => "character special file"
  | .fifo _ => "fifo"

/-- how `rm` works -/
structure RemovalStyle where
  isRecursive : Bool
  isForced : Bool
  asks : Bool
  isVerbose : Bool
  takesEmptyDirs : Bool

/-- take away what stands at a path, with all below it; false if something stays -/
def removeTree (s : RemovalStyle) : Nat → String → Activity Bool
  | 0, _ => return false
  | n + 1, path => do
    let d ← disk
    let refused (f : DiskFault) : Activity Bool := do
      Tool.complain "rm" s!"cannot remove {quoted path}: {f.message}"
      return false
    match d.linkStat path with
    | .error f => if f = .missing && s.isForced then return true else refused f
    | .ok (l, .dir _ _) =>
      let name := String.ofList (((withoutSlashes path.toList).reverse.takeWhile (· ≠ '/')).reverse)
      let isBehindLink := d.isLink (String.ofList (withoutSlashes path.toList))
      if !s.isRecursive && !(s.takesEmptyDirs && (d.namesIn l).isEmpty) then
        return ← refused (if s.takesEmptyDirs then .notEmpty else .isDir)
      else if name = "." || name = ".." then
        Tool.complain "rm"
          s!"refusing to remove '.' or '..' directory: skipping {quoted path}"
        return false
      else if l.isEmpty then
        Tool.complain "rm" "it is dangerous to operate recursively on '/'"
        Tool.complain "rm" "use --no-preserve-root to override this failsafe"
        return false
      else if isBehindLink then refused .notDir
      else
        let names := d.namesIn l
        if !d.allows l Disk.reading then
          if names.isEmpty then
            match d.remove l with
            | .ok d =>
              setDisk d
              return true
            | .error f => return ← refused f
          return ← refused .forbidden
        if s.asks && !names.isEmpty then
          if !(← confirmed s!"rm: descend into directory {quoted path}? ") then return true
        let mut isDone := true
        for name in names do
          if !(← removeTree s n (entryPath path name)) then isDone := false
        if !isDone then return false
        if s.asks then
          if !(← confirmed s!"rm: remove directory {quoted path}? ") then return true
        let d ← disk
        if !(d.namesIn l).isEmpty then
          if s.asks then return true
          return ← refused .notEmpty
        match d.remove l with
        | .error f => refused f
        | .ok d =>
          setDisk d
          if s.isVerbose then Tool.say s!"removed directory {quoted path}\n"
          return true
    | .ok (l, node) =>
      if s.asks then
        if !(← confirmed s!"rm: remove {kindName d node} {quoted path}? ") then return true
      match (← disk).remove l with
      | .error f => refused f
      | .ok d =>
        setDisk d
        if s.isVerbose then Tool.say s!"removed {quoted path}\n"
        return true

/-- a nesting of directories that no path exceeds -/
def deepest : Nat := 5000

/-- the options of `rm` -/
def removalOptions : OptionRules :=
  .of "dfiIrRv" "" [("force", "f", .never), ("interactive", "i", .maybe), ("recursive", "r", .never),
    ("dir", "d", .never), ("verbose", "v", .never), ("one-file-system", "one", .never),
    ("no-preserve-root", "root", .never), ("preserve-root", "keep", .maybe)]

/-- tell how a file can be removed whose name looks like an option -/
def hintAtNames (args : List String) : Activity Unit := do
  let d ← disk
  let isName (a : String) : Bool := a.startsWith "-" && a ≠ "-" && d.isThere a
  match args.find? isName with
  | some a => tell ("Try 'rm ./" ++ shown a ++ "' to remove the file " ++ quoted a ++ ".\n")
  | none => return

def rm (args : List String) : Activity Nat := do
  match readOptions removalOptions args with
  | .error p =>
    Tool.complain "rm" p.message
    hintAtNames args
    tryHelp "rm"
    return 1
  | .ok g =>
    let isForced := g.last? ["f", "i", "I"] = some "f"
    if g.operands.isEmpty then
      return ← if isForced then return 0 else misuse "rm" "missing operand" 1
    let s : RemovalStyle := ⟨g.has "r" || g.has "R", isForced, g.last? ["f", "i"] = some "i", g.has "v",
      g.has "d"⟩
    let asksOnce := g.last? ["f", "i", "I"] = some "I" && (3 < g.operands.length || s.isRecursive)
    if asksOnce then
      let count := g.operands.length
      let what := if s.isRecursive then " recursively" else ""
      let noun := if count = 1 then "argument" else "arguments"
      if !(← confirmed s!"rm: remove {count} {noun}{what}? ") then return 0
    let mut code := 0
    for path in g.operands do
      if !(← removeTree s deepest path) then code := 1
    return code

def unlink (args : List String) : Activity Nat :=
  withOptions "unlink" (.of "" "" []) 1 args fun g => do
  match g.operands with
  | [] => misuse "unlink" "missing operand" 1
  | _ :: extra :: _ => extraOperand "unlink" extra 1
  | [path] =>
    let d ← disk
    let change : Except DiskFault Disk := do
      match ← d.linkStat path with
      | (_, .dir _ _) => throw .isDir
      | (l, _) => d.remove l
    let isDone ← changeDisk change
      (fun f => Tool.complain "unlink" s!"cannot unlink {quoted path}: {f.message}") (return)
    return if isDone then 0 else 1

/-! ## touch -/

/-- the moment of a stamp: the last two digits of a year or all four of them, and what follows -/
def stampMoment? (zone : Calendar.Zone) (now : Nat) (text : String) : Option Int := do
  let (digits, seconds) ← match text.splitOn "." with
    | [digits] => some (digits, 0)
    | [digits, s] => if s.length = 2 then (natural? s).map ((digits, ·)) else none
    | _ => none
  let n ← natural? digits
  let year : Int := match digits.length with
    | 8 => (Calendar.dateOf now).year
    | 10 => let y := n / 100000000; if y < 69 then 2000 + y else 1900 + y
    | 12 => n / 100000000
    | _ => 0
  if digits.length ≠ 8 ∧ digits.length ≠ 10 ∧ digits.length ≠ 12 then none
  let month := n / 1000000 % 100
  let day := n / 10000 % 100
  let hour := n / 100 % 100
  let minute := n % 100
  if month = 0 ∨ 12 < month ∨ day = 0 ∨ 31 < day ∨ 23 < hour ∨ 59 < minute ∨ 60 < seconds then none
  else
    let d : Calendar.Date := ⟨year, month, day, hour, minute, seconds, 0⟩
    if (Calendar.dateOf d.moment).month = month then zone.moment? none d.moment else none

/-- set when something was changed; a file that is not there is made -/
def touchPath (makes followsLinks : Bool) (mask : Nat) (moment : Nat) (path : String) (d : Disk) :
    Except DiskFault Disk := do
  match if followsLinks then d.stat path else d.linkStat path with
  | .ok (l, _) =>
    if !d.isOwn l && !d.allows l Disk.writing then throw .forbidden
    return d.setModified l moment
  | .error f =>
    if f = .missing && makes then
      let (d, _) ← d.create (Mode.without 0o666 mask) path
      let l ← d.resolve true path
      return d.setModified l moment
    else if f = .missing && !makes then return d
    else throw f

/-- the times of a file, as they are written -/
def timeChoices : List (List String) := [["atime", "access", "use"], ["mtime", "modify"]]

/-- the value of `--time` must name a time -/
def withTimeChoice (g : Given) (body : Activity Nat) : Activity Nat :=
  match (g.values "time").find? fun text => (choice? timeChoices text).isNone with
  | some text => withChoice "touch" "--time" timeChoices 1 text fun _ => pure 1
  | none => body

def touch (args : List String) : Activity Nat :=
  withOptions "touch" (.of "acfhm" "drt" [("no-create", "c", .never), ("date", "d", .always),
    ("no-dereference", "h", .never), ("reference", "r", .always), ("time", "time", .always)]) 1 args
    fun g =>
  withTimeChoice g do
  let d ← disk
  let zone ← currentZone
  let moment : Except String Int := match g.value? "d", g.value? "t", g.value? "r" with
    | some text, _, reference => do
      let start ← match reference with
        | some path => match d.stat path with
          | .ok (_, node) => .ok (d.modifiedOf node)
          | .error f => .error s!"failed to get attributes of {quoted path}: {f.message}"
        | none => .ok d.now
      match Calendar.readMomentIn? zone start text with
      | some t => .ok t
      | none => .error s!"invalid date format {cited text}"
    | none, some text, _ => match stampMoment? zone d.now text with
      | some t => .ok t
      | none => .error s!"invalid date format {cited text}"
    | none, none, some path => match d.stat path with
      | .ok (_, node) => .ok (d.modifiedOf node)
      | .error f => .error s!"failed to get attributes of {quoted path}: {f.message}"
    | none, none, none => .ok d.now
  match moment with
  | .error message => refuse "touch" message 1
  | .ok t =>
    if g.operands.isEmpty then return ← misuse "touch" "missing file operand" 1
    let mut code := 0
    let times := (g.values "time").filterMap (choice? timeChoices)
    let onlyAccess := (g.has "a" || times.contains "atime") && !(g.has "m" || times.contains "mtime")
    for path in g.operands do
      let d ← disk
      if onlyAccess && d.isThere path then continue
      if path = "-" then continue
      let isDone ← changeDisk
        (touchPath (!(g.has "c" || g.has "h")) (!g.has "h") (← own).mask t.toNat path d)
        (fun f =>
          if f = .isDir || f = .notDir && path.endsWith "/" then
            let reason := if f = .isDir then DiskFault.missing else f
            Tool.complain "touch" s!"setting times of {quoted path}: {reason.message}"
          else Tool.complain "touch" s!"cannot touch {quoted path}: {f.message}")
        (return)
      if !isDone then code := 1
    return code

/-! ## chmod and owners -/

/-- permissions as letters -/
def modeLetters (mode : Nat) : String :=
  let bit (b : Nat) (c : Char) : Char := if mode &&& b ≠ 0 then c else '-'
  let special (b x : Nat) (both alone : Char) : Char :=
    if mode &&& b ≠ 0 then (if mode &&& x ≠ 0 then both else alone)
    else bit x 'x'
  String.ofList [bit 0o400 'r', bit 0o200 'w', special 0o4000 0o100 's' 'S', bit 0o40 'r',
    bit 0o20 'w', special 0o2000 0o10 's' 'S', bit 0o4 'r', bit 0o2 'w', special 0o1000 0o1 't' 'T']

/-- the paths at and below a path, links not followed -/
def pathsBelow (d : Disk) : Nat → String → List String
  | 0, path => [path]
  | n + 1, path =>
    match d.linkStat path with
    | .ok (l, .dir _ _) =>
      path :: (d.namesIn l).flatMap fun name => pathsBelow d n (entryPath path name)
    | _ => [path]

def chmod (args : List String) : Activity Nat := do
  -- words such as `-x` are modes
  let isMode (a : String) : Bool := match a.toList with
    | '-' :: c :: _ => "rwxXstugoa".toList.contains c
    | _ => false
  let mode? := args.find? isMode
  let rest := match mode? with
    | some mode => args.erase mode
    | none => args
  withOptions "chmod" (.of "cfvR" "" [("changes", "c", .never), ("silent", "f", .never),
    ("quiet", "f", .never), ("verbose", "v", .never), ("recursive", "R", .never),
    ("reference", "reference", .always), ("preserve-root", "keep", .never),
    ("no-preserve-root", "root", .never)]) 1 rest fun g => do
    let umask := (← own).mask
    let d ← disk
    let (text, paths) := match mode?, g.value? "reference", g.operands with
      | some mode, _, paths => (some mode, paths)
      | none, some path, paths =>
        (some (match d.stat path with
          | .ok (_, node) => Mode.octal 4 (d.modeOf node)
          | .error _ => ""), paths)
      | none, none, mode :: paths => (some mode, paths)
      | none, none, [] => (none, [])
    match text with
    | none => misuse "chmod" "missing operand" 1
    | some mode =>
      if (Mode.changed? umask false mode 0).isNone then misuse "chmod" s!"invalid mode: {cited mode}" 1
      else if paths.isEmpty then
        misuse "chmod" (if mode?.isSome then "missing operand" else s!"missing operand after {cited mode}") 1
      else
        let mut code := 0
        for operand in paths do
          let all := if g.has "R" then pathsBelow d deepest operand else [operand]
          for path in all do
            let d ← disk
            if path ≠ operand && d.isLink path then continue
            match d.stat path with
            | .error f =>
              if !g.has "f" then
                Tool.complain "chmod" (if d.isLink path then
                  s!"cannot operate on dangling symlink {quoted path}"
                  else s!"cannot access {quoted path}: {f.message}")
              code := 1
            | .ok (l, node) =>
              if !d.isOwn l then
                if !g.has "f" then
                  Tool.complain "chmod"
                    s!"changing permissions of {quoted path}: {DiskFault.notPermitted.message}"
                code := 1
                continue
              let isDir := match node with
                | .dir _ _ => true
                | _ => false
              let old := d.modeOf node
              let new := (Mode.changed? umask isDir mode old).getD old
              -- short octal numbers keep the special bits of directories
              let new := if isDir && mode.toList.all Char.isDigit && mode.length ≤ 4 then
                  new ||| (old &&& 0o6000) else new
              setDisk (d.setMode l new)
              let name (m : Nat) : String := s!"{Mode.octal 4 m} ({modeLetters m})"
              if old ≠ new && (g.has "v" || g.has "c") then
                Tool.say s!"mode of {quoted path} changed from {name old} to {name new}\n"
              else if g.has "v" then Tool.say s!"mode of {quoted path} retained as {name old}\n"
              -- what looks like an option may leave more than it says
              let plain := (Mode.changed? 0 isDir mode old).getD old
              if mode?.isSome && Mode.without new plain ≠ 0 then
                Tool.complain "chmod"
                  s!"{shown path}: new permissions are {modeLetters new}, not {modeLetters plain}"
                code := 1
        return code

/-- change owners, of which there is only one -/
def chown (program : String) (args : List String) : Activity Nat :=
  withOptions program (.of "cfvhRHLP" "" [("changes", "c", .never), ("silent", "f", .never),
    ("quiet", "f", .never), ("verbose", "v", .never), ("recursive", "R", .never),
    ("no-dereference", "h", .never), ("reference", "reference", .always),
    ("from", "from", .always)]) 1 args fun g => do
  match g.operands with
  | [] => misuse program "missing operand" 1
  | [owner] => misuse program s!"missing operand after {cited owner}" 1
  | owner :: paths =>
    let parts := owner.splitToList fun c => c == ':' || c == '.'
    let isKnown (name : String) : Bool := name = "" || name = "root" || (natural? name).isSome
    match parts.find? (!isKnown ·) with
    | some _ =>
      let what := if program = "chgrp" || isKnown (parts.headD "") then "group" else "user"
      refuse program s!"invalid {what}: {cited owner}" 1
    | none =>
      let mut code := 0
      for path in paths do
        match (← disk).linkStat path with
        | .ok _ => pure ()
        | .error f =>
          if !g.has "f" then Tool.complain program s!"cannot access {quoted path}: {f.message}"
          code := 1
      return code

/-! ## truncate, mkfifo and mktemp -/

/-- octets cut or filled up to a size -/
def resized (size : Nat) (content : Text.Bytes) : Text.Bytes :=
  content.take size ++ List.replicate (size - content.length) 0

/-- how a size is meant -/
inductive SizeMode where
  | exact
  | change
  | most
  | least
  /-- a multiple that is not larger, or not smaller -/
  | roundDown
  | roundUp
  deriving DecidableEq, Repr

/-- the size that a text writes, and how it is meant -/
def readSize (text : String) : Except String (SizeMode × Int) := do
  let skip (cs : List Char) : List Char := cs.dropWhile fun c => c == ' ' || c == '\t'
  let cs := skip text.toList
  let (mode, cs) : SizeMode × List Char := match cs with
    | '<' :: cs => (.most, skip cs)
    | '>' :: cs => (.least, skip cs)
    | '/' :: cs => (.roundDown, skip cs)
    | '%' :: cs => (.roundUp, skip cs)
    | cs => (.exact, cs)
  let isSigned := cs.head?.any fun c => c == '+' || c == '-'
  if isSigned && mode ≠ .exact then throw "multiple relative modifiers specified"
  let digits := String.ofList cs
  let n ← (integerWithin "EgGkKmMPtTYZ0" (-9223372036854775808) 9223372036854775807 digits).mapError
    fun reason => "Invalid number: " ++ cited digits ++ reason
  if n = 0 && (mode = .roundDown || mode = .roundUp) then throw "division by zero"
  return (if isSigned then .change else mode, n)

/-- a size by how it is meant, from the one before -/
def SizeMode.apply (m : SizeMode) (old : Nat) (n : Int) : Nat :=
  let n' := n.toNat
  match m with
  | .exact => n'
  | .change => (old + n : Int).toNat
  | .most => min old n'
  | .least => max old n'
  | .roundDown => old / n' * n'
  | .roundUp => (old + n' - 1) / n' * n'

def truncate (args : List String) : Activity Nat :=
  withOptions "truncate" (.of "co" "rs" [("no-create", "c", .never), ("io-blocks", "o", .never),
    ("reference", "r", .always), ("size", "s", .always)]) 1 args fun g => do
  let read? := (g.values "s").mapM readSize
  match read? with
  | .error message =>
    if message.startsWith "multiple" then misuse "truncate" message 1 else refuse "truncate" message 1
  | .ok sizes =>
    let size? := sizes.getLast?
    let reference? := g.value? "r"
    let both := "'--size' with '--reference'"
    let mut problem? : Option String := none
    if reference?.isNone && size?.isNone then
      problem? := some "you must specify either '--size' or '--reference'"
    else if reference?.isSome && size?.any (·.1 = .exact) then
      problem? := some s!"you must specify a relative {both}"
    else if g.has "o" && size?.isNone then
      problem? := some "'--io-blocks' was specified but '--size' was not"
    else if g.operands.isEmpty then problem? := some "missing file operand"
    if let some message := problem? then return ← misuse "truncate" message 1
    let base? ← match reference? with
      | none => pure none
      | some path =>
        let d ← disk
        match d.stat path with
        | .error f => return ← refuse "truncate" s!"cannot stat {quoted path}: {f.message}" 1
        | .ok (_, node) => pure (some (d.sizeOf node))
    let mut code := 0
    for path in g.operands do
      let d ← disk
      if g.has "c" && (match d.stat path with
        | .error .missing => true
        | _ => false) then continue
      match d.create (Mode.without 0o666 (← own).mask) path with
      | .error f =>
        Tool.complain "truncate" s!"cannot open {quoted path} for writing: {f.message}"
        code := 1
      | .ok (d, .file k) =>
        let content := (d.file k).content
        let old := base?.getD content.length
        let size := match size? with
          | some (mode, n) => mode.apply old (if g.has "o" then n * 4096 else n)
          | none => old
        setDisk (d.setContent k (resized size content))
      | .ok (d, _) => setDisk d
    return code

def mkfifo (args : List String) : Activity Nat :=
  withOptions "mkfifo" (.of "Z" "m" [("mode", "m", .always)]) 1 args fun g => do
  if g.operands.isEmpty then return ← misuse "mkfifo" "missing operand" 1
  let mut code := 0
  for path in g.operands do
    let (m, n) := (← machine).addPipe false
    match ({ m.disk with cwd := (← own).cwd }).place path (.fifo n) with
    | .ok d => modifyMachine fun _ => { m with disk := d }
    | .error f =>
      Tool.complain "mkfifo" s!"cannot create fifo {quoted path}: {f.message}"
      code := 1
  return code

/-- letters that make a name new, from a number -/
def nameLetters : Nat → Nat → List Char
  | 0, _ => []
  | n + 1, k =>
    let letters := "abcdefghijklmnopqrstuvwxyzABCDEFGHIJKLMNOPQRSTUVWXYZ0123456789".toList
    (letters[k % 62]?).getD 'a' :: nameLetters n (k * 7 / 3 + 17)

/-- a number for a new name -/
def freshNumber : Activity Nat := do
  let m ← machine
  return m.nextProcess * 7919 + m.disk.nextFile * 104729 + m.disk.nodes.size * 31 + m.disk.now / 1000

def mktemp (args : List String) : Activity Nat :=
  withOptions "mktemp" (.of "dqtu" "p" [("directory", "d", .never), ("quiet", "q", .never),
    ("dry-run", "u", .never), ("tmpdir", "tmpdir", .maybe), ("suffix", "suffix", .always)]) 1 args
    fun g => do
  match g.operands with
  | _ :: _ :: _ => misuse "mktemp" "too many templates" 1
  | operands =>
    let template := operands.headD "tmp.XXXXXXXXXX" ++ (g.value? "suffix").getD ""
    let p ← own
    let temporary := ((p.environment.lookup "TMPDIR").filter (· ≠ "")).getD "/tmp"
    let dir? := if g.has "p" then g.value? "p"
      else if g.has "tmpdir" then (g.value? "tmpdir").map fun dir => if dir = "" then temporary else dir
      else if operands.isEmpty || g.has "t" then some temporary else none
    let cs := template.toList
    let ending := cs.reverse.takeWhile (· ≠ 'X')
    let marks := (cs.reverse.drop ending.length).takeWhile (· == 'X')
    let start := cs.take (cs.length - ending.length - marks.length)
    if marks.length < 3 then refuse "mktemp" s!"too few X's in template {quoted template}" 1
    else if g.has "t" && template.contains '/' then
      refuse "mktemp" s!"invalid template, {cited template}, contains directory separator" 1
    else if dir?.isSome && template.startsWith "/" then
      refuse "mktemp" s!"invalid template, {cited template}; with --tmpdir, it may not be absolute" 1
    else
      let name := String.ofList (start ++ nameLetters marks.length (← freshNumber) ++ ending.reverse)
      let path := match dir? with
        | some dir => entryPath dir name
        | none => name
      let d ← disk
      let change : Except DiskFault Disk := if g.has "u" then .ok d
        else if g.has "d" then d.makeDirAs 0o700 path
        else (d.create 0o600 path).map (·.1)
      let what := if g.has "d" then "directory" else "file"
      let shownTemplate := match dir? with
        | some dir => entryPath dir template
        | none => template
      let isDone ← changeDisk change
        (fun f => if g.has "q" then return else
          Tool.complain "mktemp" s!"failed to create {what} via template {quoted shownTemplate}: {f.message}")
        (Tool.say (path ++ "\n"))
      return if isDone then 0 else 1

end PatternBuild.Shell.Tool
