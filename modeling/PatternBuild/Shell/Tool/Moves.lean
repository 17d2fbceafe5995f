import PatternBuild.Shell.Tool.Copies

/-!
# Tools that give files other or further names
-/

/-!
## Moves: tools that give files other names
-/

namespace PatternBuild.Shell.Tool

open Activity Path

/-! ### other names -/

/-- the place that a path names in a directory that is there, whether it ends with a slash, and whether
its last part is a name -/
def namedPlace (d : Disk) (path : String) : Except DiskFault (Location × Bool × Bool) := do
  if path = "" then throw .missing
  let last := baseOf path
  let above := dirOf path
  match d.stat above with
  | .ok (dir, .dir _ _) =>
    if Disk.maxName < last.length then throw .nameTooLong
    return (dir ++ [last], path.endsWith "/", last ≠ "." && last ≠ ".." && last ≠ "/")
  | .ok _ => throw .notDir
  | .error f => throw f

/-- give what stands at a path another name; with `spares` nothing may stand there -/
def renamed (d : Disk) (spares : Bool) (source target : String) : Except DiskFault Disk := do
  let (old, oldHasSlash, oldIsName) ← namedPlace d source
  let (new, newHasSlash, newIsName) ← namedPlace d target
  if !oldIsName then throw .busy
  if !newIsName then throw (if spares then .exists else .busy)
  match d.node? old with
  | none => throw .missing
  | some node =>
    let there := d.node? new
    if spares && there.isSome then throw .exists
    let a : FileEntry := ⟨old, node⟩
    if !a.isDir && (oldHasSlash || newHasSlash) then throw .notDir
    if a.isDir && old ≠ new && old.isPrefixOf new then throw .invalid
    if old ≠ new && new.isPrefixOf old then throw .notEmpty
    match there with
    | none => return d.moveTree old new
    | some other =>
      let b : FileEntry := ⟨new, other⟩
      if a.isSame b then return d
      match a.isDir, b.isDir with
      | true, false => throw .notDir
      | false, true => throw .isDir
      | true, true =>
        if !(d.namesIn new).isEmpty then throw .notEmpty
        return (d.drop new).moveTree old new
      | false, false => return (d.drop new).moveTree old new

/-! ### mv -/

/-- move what stands at a path; `first` is what came of the first attempt, if there was one -/
def CopyStyle.move (s : CopyStyle) (first : Option DiskFault) (source target : String) :
    Copying Bool := do
  let done (d : Disk) (backup : Option String) : Copying Bool := do
    setDisk d
    s.announce source target backup
    let place := ((d.resolve false target).toOption).getD []
    modify fun state => { state with made := place :: state.made }
    return true
  let d ← disk
  let attempt : Except DiskFault Disk := match first with
    | some f => .error f
    | none => renamed d true source target
  match attempt with
  | .ok d => done d none
  | .error f =>
    let isKept := s.overwriting = .never || s.overwriting = .skips
    let source? := FileEntry.find d false source
    match source? with
    | .error g =>
      if f ≠ .exists || !isKept then return ← s.refuse s!"cannot stat {quoted source}: {g.message}"
    | .ok _ => pure ()
    let a := (source?.toOption).getD ⟨[], .dir 0 0⟩
    let clearance ← if target = "" then
        pure (Clearance.over (← s.refuse s!"cannot overwrite directory {quoted target} with non-directory"))
      else match FileEntry.find d false target with
        | .error .missing => pure (Clearance.goesOn none true)
        | .error g => pure (Clearance.over (← s.refuse s!"cannot stat {quoted target}: {g.message}"))
        | .ok b => s.makeWay true false source target a b
    match clearance with
    | .over isFine => return isFine
    | .goesOn backup _ =>
      let d ← disk
      let outcome : Except DiskFault Disk := if f = .exists then renamed d false source target else .error f
      match outcome with
      | .ok d => done d backup
      | .error .invalid =>
        s.refuse s!"cannot move {quoted source} to a subdirectory of itself, {quoted target}"
      | .error f =>
        if f = .exists || f = .isDir || f = .notEmpty then
          s.refuse s!"cannot overwrite {quoted target}: {f.message}"
        else s.refuse s!"cannot move {quoted source} to {quoted target}: {f.message}"

def mv (args : List String) : Activity Nat :=
  withOptions "mv" (.of "bfinTuvZ" "tS" [("backup", "b", .maybe), ("debug", "v", .never),
    ("force", "f", .never), ("interactive", "i", .never), ("no-clobber", "n", .never),
    ("no-copy", "no-copy", .never), ("suffix", "S", .always), ("target-directory", "t", .always),
    ("no-target-directory", "T", .never), ("update", "u", .maybe), ("verbose", "v", .never),
    ("strip-trailing-slashes", "strip", .never)]) 1 args fun g =>
  withCopyChoices "mv" g do
  -- two operands are first taken for an old and a new name
  let d ← disk
  let attempt? : Option (String × String × Except DiskFault Disk) := match g.value? "t", g.operands with
    | none, [source, target] => some (source, target, renamed d true source target)
    | _, _ => none
  match attempt? with
  | some (_, _, .ok d) => setDisk d
  | _ => pure ()
  let (overwriting, onlyNewer) := overwritingOf .never true g
  withBackup "mv" g fun backup => do
  let s : CopyStyle := { CopyStyle.plain "mv" with
    isMove := true
    isRecursive := true
    followsNamed := false
    followsAll := false
    overwriting
    onlyNewer
    isVerbose := g.has "v"
    backup }
  match attempt? with
  | some (source, target, .ok _) =>
    s.announce source target none
    return 0
  | _ =>
    match destinations d g with
    | .error (message, isMisuse) => if isMisuse then misuse "mv" message 1 else refuse "mv" message 1
    | .ok (pairs, areIn) =>
      let first : Option DiskFault := match areIn, attempt? with
        | false, some (_, _, .error f) => some f
        | _, _ => none
      let mut code := 0
      let mut state := CopyState.start (areIn && 1 < pairs.length)
      for (source, target) in pairs do
        let (isDone, after) ← (s.move first source target).run state
        state := after
        if !isDone then code := 1
      return code

end PatternBuild.Shell.Tool

/-!
## Links: tools that give files further names
-/

namespace PatternBuild.Shell.Tool

open Activity Path

/-- how `ln` works -/
structure LinkStyle where
  isSymbolic : Bool
  /-- what is in the way is taken away -/
  isForced : Bool
  asks : Bool
  isVerbose : Bool
  /-- links lead to their targets from where they are -/
  isRelative : Bool
  followsSource : Bool
  /-- names for directories are asked for, which no system gives -/
  takesDirs : Bool
  backup : Option Backup

/-- the text of a symbolic link at a path -/
def LinkStyle.text (s : LinkStyle) (d : Disk) (source path : String) : String :=
  if s.isRelative && s.isSymbolic then
    let base := (physicalPath d .nothing (dirOf path)).toOption.getD d.cwd
    relativeTo base ((physicalPath d .nothing source).toOption.getD [source])
  else source

/-- put a link at a path where nothing stands -/
def LinkStyle.put (s : LinkStyle) (d : Disk) (source path : String) : Except DiskFault Disk := do
  if s.isSymbolic then
    if source = "" then throw .missing
    d.place path (.link source d.now)
  else
    match ← FileEntry.find d s.followsSource source with
    | ⟨_, .dir _ _⟩ => throw .notPermitted
    | e => d.place path e.node

/-- put a link at a path; `made` are the places of links that were made for other operands -/
def LinkStyle.link (s : LinkStyle) (made : List Location) (source path : String) : Activity Bool := do
  let refused (message : String) : Activity Bool := do
    Tool.complain "ln" message
    return false
  let failed (text : String) (f : DiskFault) : Activity Bool := do
    let what := if s.isSymbolic then "symbolic" else "hard"
    let arrow := if s.isSymbolic then (if f = .nameTooLong || text = "" then " -> " ++ quoted text else "")
      else if f = .exists then "" else " => " ++ quoted text
    refused s!"failed to create {what} link {quoted path}{arrow}: {f.message}"
  let done (text : String) (backup : Option String) : Activity Bool := do
    if s.isVerbose then
      let arrow := if s.isSymbolic then "->" else "=>"
      let kept := match backup with
        | some ending => quoted (path ++ ending) ++ " ~ "
        | none => ""
      Tool.say s!"{kept}{quoted path} {arrow} {quoted text}\n"
    return true
  let d ← disk
  let first : Except DiskFault Disk := if s.isSymbolic && s.isRelative then .error .exists
    else s.put d source path
  match first with
  | .ok d =>
    setDisk d
    done source none
  | .error fault =>
    let e? := FileEntry.find d s.followsSource source
    match e?, s.isSymbolic with
    | .error f, false => refused s!"failed to access {quoted source}: {f.message}"
    | e?, _ =>
      let isDir := (e?.toOption).any (·.isDir)
      if !s.isSymbolic && !s.takesDirs && isDir then
        return ← refused s!"{shown source}: hard link not allowed for directory"
      let text := s.text d source path
      if !(s.isForced || s.asks || s.backup.isSome) then
        match (if s.isSymbolic && s.isRelative then s.put d text path else .error fault) with
        | .ok d =>
          setDisk d
          return ← done text none
        | .error f => return ← failed text f
      match FileEntry.find d false path with
      | .error .missing =>
        match s.put d text path with
        | .ok d =>
          setDisk d
          done text none
        | .error f => failed text f
      | .error f => refused s!"failed to access {quoted path}: {f.message}"
      | .ok old =>
        if old.isDir then return ← refused s!"{shown path}: cannot overwrite directory"
        if !s.isSymbolic && made.contains old.place then
          return ← refused s!"will not overwrite just-created {quoted path} with {quoted source}"
        if s.backup.isNone || !s.isSymbolic then
          let same := match if s.isSymbolic then FileEntry.find d true source else e? with
            | .ok e => e.isSame old &&
              (e.names d = 1 || (d.resolve false source).toOption == some old.place)
            | .error _ => false
          if same then return ← refused s!"{quoted source} and {quoted path} are the same file"
        if s.asks then
          if !(← confirmed s!"ln: replace {quoted path}? ") then return false
        let ending := s.backup.map fun b => b.endingFor d old.place
        let cleared := match ending with
          | some ending => setAside ending old.place d
          | none => d.drop old.place
        match s.put cleared text path with
        | .ok d =>
          setDisk d
          done text ending
        | .error f => failed text f

def ln (args : List String) : Activity Nat :=
  withOptions "ln" (.of "bdfFiLnPrsTv" "St" [("force", "f", .never), ("interactive", "i", .never),
    ("logical", "L", .never), ("no-dereference", "n", .never), ("physical", "P", .never),
    ("relative", "r", .never), ("symbolic", "s", .never), ("target-directory", "t", .always),
    ("no-target-directory", "T", .never), ("verbose", "v", .never), ("backup", "b", .maybe),
    ("directory", "d", .never), ("suffix", "S", .always)]) 1 args fun g => do
  let d ← disk
  let refused (message : String) : Activity Nat := refuse "ln" message 1
  let leadsToDir (path : String) : Bool := d.isDir path && !(g.has "n" && d.isLink path)
  let into (dir : String) (sources : List String) : List (String × String) :=
    sources.map fun source => (source, entryPath dir (baseOf source))
  if g.operands.isEmpty then return ← misuse "ln" "missing file operand" 1
  if g.has "r" && !g.has "s" then return ← refused "cannot do --relative without --symbolic"
  let found : Except (String × Bool) (List (String × String)) := match g.value? "t", g.operands with
    | some dir, sources =>
      if g.has "T" then .error ("cannot combine --target-directory and --no-target-directory", false)
      else match d.stat dir with
        | .ok (_, .dir _ _) => .ok (into dir sources)
        | .ok _ => .error (s!"target {quoted dir} is not a directory", false)
        | .error f => .error (s!"failed to access {quoted dir}: {f.message}", false)
    | none, [source] =>
      if g.has "T" then .error (s!"missing destination file operand after {quoted source}", true)
      else .ok (into "." [source])
    | none, [source, path] =>
      if leadsToDir path && !g.has "T" then .ok (into path [source]) else .ok [(source, path)]
    | none, many =>
      let dir := many.getLastD ""
      if g.has "T" then .error (s!"extra operand {quoted (firstOf (many.drop 2))}", true)
      else if leadsToDir dir then .ok (into dir many.dropLast)
      else
        let f := if d.isPresent dir then DiskFault.notDir else .missing
        .error (s!"target {quoted dir}: {f.message}", false)
  match found with
  | .error (message, isMisuse) => if isMisuse then misuse "ln" message 1 else refused message
  | .ok pairs =>
    withBackup "ln" g fun backup => do
    let s : LinkStyle := {
      isSymbolic := g.has "s"
      isForced := g.last? ["f", "i"] = some "f"
      asks := g.last? ["f", "i"] = some "i"
      isVerbose := g.has "v"
      isRelative := g.has "r"
      followsSource := g.last? ["L", "P"] = some "L"
      takesDirs := g.has "d" || g.has "F"
      backup }
    let mut code := 0
    let mut made : List Location := []
    for (source, path) in pairs do
      if ← s.link made source path then
        if 1 < pairs.length then
          made := (((← disk).resolve false path).toOption.getD []) :: made
      else code := 1
    return code

def link (args : List String) : Activity Nat :=
  withOptions "link" (.of "" "" []) 1 args fun g => do
  match g.operands with
  | [] => misuse "link" "missing operand" 1
  | [a] => misuse "link" s!"missing operand after {cited a}" 1
  | _ :: _ :: extra :: _ => extraOperand "link" extra 1
  | [a, b] =>
    let d ← disk
    let change : Except DiskFault Disk := do
      let (_, node) ← d.linkStat a
      d.place b node
    let isDone ← changeDisk change
      (fun f => Tool.complain "link" s!"cannot create link {quoted b} to {quoted a}: {f.message}") (return)
    return if isDone then 0 else 1

end PatternBuild.Shell.Tool
