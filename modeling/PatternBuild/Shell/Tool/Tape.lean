import PatternBuild.Shell.Tool.Tape.Taping

/-!
# Tape

Files are stored as members of an archive and restored from it, by the tool `tar`.
-/

/-!
## Storing: files as members of an archive

A file with several names is stored once; its further names become links to the first one.
-/

namespace PatternBuild.Shell.Tool.Tape

open Activity Archive

/-- what is known while files are stored -/
structure Store where
  rules : Rules
  /-- the archive itself, which is not stored -/
  archive : Option DiskNode
  /-- whether files with one name are remembered too -/
  remembersAll : Bool

namespace Store

/-- write a member, which is told under a name; false if that cannot be done -/
def putMember (s : Store) (m : Member) (name : List Char) : Taping Bool := do
  match m.blocks s.rules.format with
  | .error fault =>
    let reason := match fault with
      | .nameTooLong => if s.rules.format = Format.early then "file name is too long (max 99)" else "file name is too long (max 256)"
      | .nameNotCut => "file name is too long (cannot be split)"
      | .targetTooLong => "link name is too long"
    let text := if fault = .targetTooLong then named m.target else named m.name
    note s!"{text}: {reason}; not dumped"
    return false
  | .ok cs =>
    modify fun t => { t with block := t.size / blockLength }
    if 0 < s.rules.verbosity then s.rules.tellMember m (if s.rules.showsChanged then m.name else name)
    modify fun t => { t with lines := s.rules.printed name :: t.lines }
    put cs
    return true

/-- the member of something at a location -/
def memberOf (s : Store) (d : Disk) (name : List Char) (kind : MemberKind) (node : DiskNode) : Activity Member := do
  let r := s.rules
  let isDir := kind = .directory
  let mode := d.modeOf node
  let mask := (← own).mask
  let mode := match r.modeChange with
    | some text => (Mode.changed? mask isDir text mode).getD mode
    | none => mode
  let user := r.user.getD ("root".toList, 0)
  let group := r.group.getD ("root".toList, 0)
  return { name, kind, target := [], mode, userNumber := user.2, groupNumber := group.2, user := user.1,
           group := group.1, modified := r.modified.getD ((d.modifiedOf node : Int) / 1000000000),
           device := (1, 3), content := [] }

/-- tell that something cannot be looked at -/
def refuse (s : Store) (name : List Char) (what : String) (isTop : Bool) (f : DiskFault) : Taping Unit := do
  let text := named name
  if !isTop && f = .missing then
    tellFault s!"{text}: File removed before we read it"
    modify fun t => { t with code := max t.code 1 }
  else if s.rules.toleratesUnreadable then tellFault s!"{text}: Warning: Cannot {what}: {f.message}"
  else note s!"{text}: Cannot {what}: {f.message}"

/-- what a directory with a certain file lacks in the archive -/
def omission? (s : Store) (d : Disk) (path : String) : Option (Omission × String) :=
  let hasMark (name : String) : Bool := match d.read (entryPath path name) with
    | .ok content => "Signature: 8a477f597d28d172789f06886806bc55".toList.isPrefixOf (Text.ofBytes content)
    | .error _ => false
  (s.rules.omissions.find? fun (_, name, isMarked) =>
    if isMarked then hasMark name else d.isThere (entryPath path name)).map fun (kind, name, _) => (kind, name)

/-- store a further name of a file that is stored already; false if it is not -/
def putLink (s : Store) (m : Member) (key : String) (name : List Char) : Taping Bool := do
  match (← get).stored.find? (·.key = key) with
  | none => return false
  | some found =>
    modify fun t => { t with stored := t.stored.map fun f => if f.key = key then { f with others := f.others - 1 } else f }
    discard (s.putMember { m with kind := .hardLink, target := found.name } name)
    return true

/-- remember a file for its further names -/
def remember (s : Store) (key : String) (count : Nat) (name : List Char) : Taping Unit := do
  if s.rules.splitsLinks || !(s.remembersAll || 1 < count) then return
  let target := s.rules.changed NameChange.forHardLinks (← s.rules.safe true name)
  modify fun t => { t with stored := ⟨key, target, count - 1⟩ :: t.stored }

/-- whether something is old enough to be left out -/
def isOld (s : Store) (d : Disk) (node : DiskNode) : Bool :=
  match s.rules.newerThan, node with
  | none, _ => false
  | _, .dir _ _ => false
  | some t, node =>
    let seconds (n : Nat) : Int := (n : Int) / 1000000000
    seconds (d.modifiedOf node) < t && (!s.rules.newerByChange || seconds d.now < t)

/-- store what stands at a path, down to `n` levels -/
def store (s : Store) : Nat → Bool → String → List Char → Taping Unit
  | 0, _, _, _ => return
  | n + 1, isTop, dir, name => do
    let r := s.rules
    if !(← r.agrees "add" name) then return
    let inner := r.changed NameChange.forFiles (← r.safe false name)
    let path := pathIn dir (String.ofList name)
    let d ← disk
    match if r.follows then d.stat path else d.linkStat path with
    | .error f => s.refuse name "stat" isTop f
    | .ok (l, node) =>
      let isOpened := match node with
        | .file _ => true
        | .dir _ _ => true
        | _ => false
      if isOpened && !d.allows l Disk.reading then return ← s.refuse name "open" isTop .forbidden
      let text := named name
      if s.isOld d node then
        if 0 < r.verbosity then tellFault s!"{text}: file is unchanged; not dumped"
        return
      if s.archive == some node then
        return ← tellFault s!"{text}: file is the archive; not dumped"
      match node with
      | .dir _ _ =>
        let closed := name ++ if name.getLast? == some '/' then [] else ['/']
        let m ← s.memberOf d (bare inner ++ ['/']) .directory node
        let omitted := s.omission? d path
        let tellOmission (tag what : String) : Taping Unit := do
          if 0 < r.verbosity then tellFault s!"{text}/: contains a cache directory tag {tag}; {what}"
        match omitted with
        | some (.all, tag) => tellOmission tag "directory not dumped"
        | omitted =>
          if !(← s.putMember m closed) then return
          let names ← match omitted with
            | some (.below, tag) => do
              tellOmission tag "contents not dumped"
              pure []
            | some (_, tag) => do
              tellOmission tag "contents not dumped"
              pure [tag]
            | none => pure (if r.descends then d.namesIn l else [])
          for entry in names do
            let below := closed ++ entry.toList
            if !r.excludes? below then s.store n false dir below
          if r.removesFiles && !isTop || r.removesFiles && name ≠ ['.'] then
            modify fun t => { t with removals := path :: t.removals }
      | .file number =>
        let content := Text.ofBytes (d.file number).content
        let m ← s.memberOf d inner .file node
        let key := s!"number {number}"
        let count := d.linkCount number
        let isLink ← if r.splitsLinks || !(s.remembersAll || 1 < count) then pure false
          else s.putLink m key name
        if !isLink then
          if ← s.putMember { m with content } name then s.remember key count name
        if r.removesFiles then modify fun t => { t with removals := path :: t.removals }
      | .link target _ =>
        let m ← s.memberOf d inner .symbolicLink node
        let key := Disk.pathOf l
        if !(← if s.remembersAll && !r.splitsLinks then s.putLink m key name else pure false) then
          let m := { m with target := r.changed NameChange.forSymbolicLinks target.toList }
          if ← s.putMember m name then s.remember key 1 name
        if r.removesFiles then modify fun t => { t with removals := path :: t.removals }
      | .fifo _ =>
        discard (s.putMember (← s.memberOf d inner .fifo node) name)
        if r.removesFiles then modify fun t => { t with removals := path :: t.removals }
      | .device _ => discard (s.putMember (← s.memberOf d inner .characters node) name)

/-- store all that is named -/
def storeAll (s : Store) (wanted : List Wanted) : Taping Unit := do
  for w in wanted do
    w.dir.check
    if !s.rules.excludes? w.name then s.store deepest true w.dir.path w.name

/-- take away what was stored, and tell which names were not met -/
def finish (s : Store) : Taping Unit := do
  if s.rules.checksLinks then
    for f in (← get).stored.reverse do
      if 0 < f.others then
        let text := cited (String.ofList f.name)
        tellFault s!"Missing links to {text}."
  for path in (← get).removals.reverse do
    let d ← disk
    match d.linkStat path with
    | .ok (l, .dir _ _) =>
      if (d.namesIn l).isEmpty then
        match d.remove l with
        | .ok d => setDisk d
        | .error f => note s!"{path}: Cannot rmdir: {f.message}"
    | .ok (l, _) =>
      match d.remove l with
      | .ok d => setDisk d
      | .error f => note s!"{path}: Cannot unlink: {f.message}"
    | .error _ => pure ()

end Store

/-- how files are stored -/
def Rules.store (r : Rules) (wanted : List Wanted) : Taping Store := do
  let d ← disk
  let archive := if r.archive = "-" then none else (d.stat r.archive).toOption.map (·.2)
  return ⟨r, archive.filter fun
    | .file _ => true
    | _ => false, 1 < wanted.length || r.follows⟩

/-- tell how much was written -/
def Rules.tellTotals (r : Rules) : Taping Unit := do
  if r.showsTotals then
    let t ← get
    let size := t.size + (ending (r.blocking * blockLength) t.size).length
    let kibi := size / 1024
    discard flush
    tell s!"Total bytes written: {size} ({kibi}KiB, 10MiB/s)\n"

/-- make an archive -/
def Rules.create (r : Rules) : Taping Unit := do
  if r.archive ≠ "-" then
    match ← (openToWrite r.archive false : Activity _) with
    | .error f => giveUp s!"{r.archive}: Cannot open: {f.message}"
    | .ok fd => close fd
  match r.label with
  | some text => put (labelHeader text.toList ((← disk).now / 1000000000))
  | none => pure ()
  let (wanted, _) ← r.wanted
  let s ← r.store wanted
  s.storeAll wanted
  r.save
  if r.isVerified && 0 < r.verbosity then
    for line in (← get).lines.reverse do r.speak s!"Verify {line}\n"
  s.finish
  r.tellTotals

end PatternBuild.Shell.Tool.Tape

/-!
## Restoring: members of an archive as files, and archives that are changed

Members are taken one after the other.  Directories get their attributes when all is done, so that files
can be put into them before.
-/

namespace PatternBuild.Shell.Tool.Tape

open Activity Archive

/-! ### going through an archive -/

/-- what came before a block -/
inductive Before where
  | nothing
  | good
  | bad
  deriving DecidableEq, Repr

/-- go through at most `n` members of an archive -/
def Rules.walk (r : Rules) (visit : Member → List Char → Taping Unit) :
    Nat → Before → Nat → List Char → Taping Unit
  | 0, _, _, _ => return
  | n + 1, before, place, cs => do
    modify fun t => { t with block := place }
    let after (rest : List Char) : Nat := place + (cs.length - rest.length) / blockLength
    match next cs with
    | .nothing =>
      if r.showsBlocks && 0 < r.verbosity then r.speak s!"block {place}: ** End of File **\n"
    | .zeros rest =>
      if r.showsBlocks && 0 < r.verbosity then r.speak s!"block {place}: ** Block of NULs **\n"
      if r.ignoresZeros then r.walk visit n before (after rest) rest
      else match next rest with
        | .zeros _ => return
        | .nothing =>
          if rest.isEmpty then
            let block := place + 1
            tellFault s!"A lone zero block at {block}"
        | _ =>
          let block := place + 1
          tellFault s!"A lone zero block at {block}"
    | .junk rest =>
      match before with
      | .nothing =>
        note "This does not look like a tar archive"
        note "Skipping to next header"
      | .good => note "Skipping to next header"
      | .bad => pure ()
      r.walk visit n .bad (after rest) rest
    | .member m blocks isWhole rest =>
      visit m blocks
      if !isWhole then giveUp "Unexpected EOF in archive"
      r.walk visit n .good (after rest) rest

/-- go through an archive -/
def Rules.walkAll (r : Rules) (cs : List Char) (visit : Member → List Char → Taping Unit) : Taping Unit :=
  r.walk visit (cs.length / blockLength + 2) .nothing 0 cs

/-! ### which members are meant -/

/-- the members that are wanted, and where they go -/
structure Choice where
  wanted : List Wanted
  last : StartDir

/-- the directory of a member that is wanted -/
def Choice.take? (c : Choice) (r : Rules) (m : Member) : Option StartDir × Choice :=
  let name := bare m.name
  if c.wanted.isEmpty then (if r.excludes? name then none else some c.last, c)
  else
    let rec go : List Wanted → List Wanted → Option (StartDir × List Wanted)
      | _, [] => none
      | seen, w :: rest =>
        if w.matching.fits w.name name then
          some (w.dir, seen.reverse ++ { w with count := w.count + 1 } :: rest)
        else go (w :: seen) rest
    match go [] c.wanted with
    | none => (none, c)
    | some (dir, wanted) =>
      let count := ((wanted.zip c.wanted).find? fun (a, b) => a.count ≠ b.count).map fun (a, _) => a.count
      let isMeant := match r.occurrence with
        | some k => count == some k
        | none => true
      (if isMeant && !r.excludes? name then some dir else none, { c with wanted })

/-- tell which names were not met -/
def Choice.finish (c : Choice) (r : Rules) : Taping Unit := do
  let missing := c.wanted.filter fun w => match r.occurrence with
    | some k => w.count < k
    | none => w.count = 0
  if r.wildcards.isNone && missing.any fun w => hasSigns w.name then
    tellFault "Pattern matching characters used in file names"
    tellFault "Use --wildcards to enable pattern matching, or --no-wildcards to suppress this warning"
  for w in missing do
    let text := named w.name
    if w.count = 0 then note s!"{text}: Not found in archive"
    else note s!"{text}: Required occurrence not found in archive"

/-- go through the members that are wanted -/
def Rules.forWanted (r : Rules) (visit : StartDir → Member → Taping Unit) : Taping Unit := do
  let (wanted, last) ← r.wanted
  let cs ← r.load
  if r.work = some .extract then last.check
  let holder : Choice := ⟨wanted, last⟩
  let rec go : Nat → Choice → Before → Nat → List Char → Taping Choice
    | 0, c, _, _, _ => return c
    | n + 1, c, before, place, cs => do
      match next cs with
      | .member m _ isWhole rest =>
        modify fun t => { t with block := place }
        let (dir?, c) := c.take? r m
        match dir? with
        | some dir =>
          if r.work = some .extract then dir.check
          visit dir m
        | none =>
          if r.showsOmitted && m.kind = .directory then
            let text := named (bare m.name)
            tellFault s!"{text}: Omitting"
        if !isWhole then giveUp "Unexpected EOF in archive"
        go n c .good (place + (cs.length - rest.length) / blockLength) rest
      | .zeros rest =>
        if r.ignoresZeros then go n c before (place + 1) rest
        else
          r.walk (fun _ _ => return) 1 before place cs
          return c
      | .junk rest =>
        -- what is wrong is told, and the next header looked for
        r.walk (fun _ _ => return) 1 before place cs
        go n c .bad (place + 1) rest
      | .nothing =>
        r.walk (fun _ _ => return) 1 before place cs
        return c
  let c ← go (cs.length / blockLength + 2) holder .nothing 0 cs
  c.finish r

/-! ### listing -/

/-- list members -/
def Rules.list (r : Rules) : Taping Unit :=
  r.forWanted fun _ m => do
    let name ← if m.kind = .label then pure m.name else r.outside false (bare m.name)
    let target ← if m.kind = .hardLink then r.outside true m.target else pure m.target
    let isDir := m.kind = .directory
    if r.showsChanged then
      r.tellMember { m with target } (if isDir then name ++ ['/'] else name)
    else r.tellMember m m.name

/-! ### taking files out -/

/-- what came of an attempt -/
inductive Outcome where
  | done
  | skipped
  | failed (f : DiskFault)

/-- make the directories above a path; false if there is nothing to make -/
def makeAbove (path : String) : Taping Bool := do
  let above := ((Disk.ancestors path).dropLast)
  let mask := (← own).mask
  let mut hasMade := false
  for dir in above do
    let d ← disk
    if !d.isThere dir then
      match d.makeDirAs (Mode.without 0o777 mask) dir with
      | .ok d =>
        setDisk d
        hasMade := true
      | .error _ => return hasMade
  return hasMade

/-- take away what stands at a path, of directories only empty ones; false if it stays -/
def clear (empties : Bool) (path : String) : Taping Bool := do
  let d ← disk
  match d.linkStat path with
  | .ok (l, .dir _ _) =>
    if empties then
      setDisk (d.dropTree l)
      return true
    else if (d.namesIn l).isEmpty then
      match d.remove l with
      | .ok d =>
        setDisk d
        return true
      | .error _ => return false
    else return false
  | .ok (l, _) =>
    match d.remove l with
    | .ok d =>
      setDisk d
      return true
    | .error _ => return false
  | .error _ => return false

/-- whether what stands at a path is at least as new as a member -/
def isNewer (path : String) (m : Member) : Activity Bool := do
  let d ← disk
  match d.linkStat path with
  | .ok (_, .dir _ _) => return false
  | .ok (_, node) => return m.modified * 1000000000 ≤ (d.modifiedOf node : Int)
  | .error _ => return false

/-- make something at a path: directories above it are made, and what is in the way is cleared, at most `n`
times -/
def Rules.attempt (r : Rules) (m : Member) (path : String) (change : Disk → Except DiskFault Disk) :
    Nat → Taping Outcome
  | 0 => return .failed .exists
  | n + 1 => do
    match change (← disk) with
    | .ok d =>
      setDisk d
      return .done
    | .error .missing =>
      if ← makeAbove path then r.attempt m path change n else return .failed .missing
    | .error .exists =>
      let goesOn ← match r.clearing with
        | .skips => return .skipped
        | .keeps => pure false
        | .unlinksFirst => pure false
        | .keepsNewer =>
          if ← (isNewer path m : Activity Bool) then pure false else clear r.emptiesDirs path
        | _ => clear r.emptiesDirs path
      if goesOn then r.attempt m path change n else return .failed .exists
    | .error f => return .failed f

/-- give what stands at a path the attributes of a member -/
def Rules.restore (r : Rules) (path : String) (mode : Nat) (modified : Int) : Taping Unit := do
  let d ← disk
  match d.resolve false path with
  | .error _ => return
  | .ok l =>
    let mask := (← own).mask
    let d := d.setMode l (if r.keepsModes then mode else Mode.without (mode &&& 0o777) mask)
    setDisk (if r.keepsTimes then d.setModified l (modified * 1000000000).toNat else d)

/-- give a member to a command -/
def Rules.giveTo (r : Rules) (programs : Programs) (command : String) (m : Member) (name : List Char) :
    Taping Unit := do
  let p ← own
  let (machine, pipe) := (← machine).addPipe true
  let (machine, n) := machine.addStream (.reader pipe)
  modifyMachine fun _ => machine
  discard flush
  modifyMachine fun m' => m'.setPipe pipe ((m'.pipe pipe).write m.content)
  let known : List (String × String) := [("TAR_FILETYPE", "f"), ("TAR_FILENAME", String.ofList name),
    ("TAR_REALNAME", String.ofList m.name), ("TAR_UNAME", String.ofList m.user),
    ("TAR_GNAME", String.ofList m.group), ("TAR_SIZE", toString m.content.length),
    ("TAR_UID", toString m.userNumber), ("TAR_GID", toString m.groupNumber),
    ("TAR_MODE", "0" ++ Mode.octal 0 m.mode), ("TAR_MTIME", toString m.modified),
    ("TAR_SUBCOMMAND", "-x"), ("TAR_ARCHIVE", r.archive)]
  modifyOwn fun p => { p with
    environment := (p.environment.filter fun (name, _) => (known.lookup name).isNone) ++ known }
  let code ← (withDescriptors do
    setDescriptor 0 n
    programs.run ["/bin/sh", "-c", command] : Activity _)
  modifyOwn fun q => { q with environment := p.environment }
  match code with
  | .ok 0 => return
  | .ok code => note s!"{n}: Child returned status {code}"
  | .error f => note s!"{command}: Cannot exec: {f.message}"

/-- put what stands at a path aside, if that is asked for -/
def Rules.setAside (r : Rules) (backup : Option Backup) (path : String) : Taping Unit := do
  let d ← disk
  match backup, d.linkStat path with
  | some _, .ok (_, .dir _ _) => return
  | some b, .ok (l, _) =>
    let ending := b.endingFor d l
    setDisk (Tool.setAside ending l d)
    if 0 < r.verbosity then
      let old := cited path
      let new := cited (path ++ ending)
      r.speak s!"Renaming {old} to {new}\n"
  | _, _ => return

/-- make a directory for a member -/
def Rules.restoreDir (r : Rules) (m : Member) (path : String) (shownName : String) : Taping Unit := do
  let later : Taping Unit := modify fun t =>
    { t with restorations := ⟨path, m.mode, m.modified⟩ :: t.restorations }
  let standing := match (← disk).linkStat path with
    | .ok (_, .dir _ _) => true
    | _ => false
  if standing then
    if r.clearing = .usual || r.clearing = .overwrites then later
  else
    match ← r.attempt m path (fun d => d.makeDirAs m.mode path) 4 with
    | .done => later
    | .failed .exists => return
    | .skipped => return
    | .failed f => note s!"{shownName}: Cannot mkdir: {f.message}"

/-- make a file for a member -/
def Rules.restoreFile (r : Rules) (m : Member) (path : String) (shownName : String) : Taping Unit := do
  let new (d : Disk) : Except DiskFault Disk := do
    let standing := d.linkStat path
    let reused := r.clearing = .overwrites && match standing with
      | .ok (_, .file _) => true
      | _ => false
    if standing.isOk && !reused then throw .exists
    match ← d.create (m.mode &&& 0o777) path with
    | (d, .file n) => return d.setContent n (Text.toBytes m.content)
    | (d, _) => return d
  match ← r.attempt m path new 4 with
  | .done => r.restore path m.mode m.modified
  | .skipped => return
  | .failed f => note s!"{shownName}: Cannot open: {f.message}"

/-- make something else for a member -/
def Rules.restoreOther (r : Rules) (dir : StartDir) (m : Member) (target : List Char) (path : String)
    (shownName : String) : Taping Unit := do
  let text := marked [] target
  match m.kind with
  | .symbolicLink =>
    match ← r.attempt m path (fun d => d.makeLink path (String.ofList target)) 4 with
    | .done =>
      let d ← disk
      match d.resolve false path with
      | .ok l => if r.keepsTimes then setDisk (d.setModified l (m.modified * 1000000000).toNat)
      | .error _ => return
    | .skipped => return
    | .failed f => note s!"{shownName}: Cannot create symlink to '{text}': {f.message}"
  | .hardLink =>
    let source := pathIn dir.path (String.ofList target)
    let link (d : Disk) : Except DiskFault Disk := do
      let (_, node) ← d.linkStat source
      match node with
      | .dir _ _ => throw .notPermitted
      | node =>
        match d.linkStat path with
        | .ok (_, old) => if old = node then return d else throw .exists
        | .error _ => d.place path node
    let isThere := ((← disk).linkStat source).isOk
    match ← (if isThere then r.attempt m path link 4 else return .failed .missing) with
    | .failed f => note s!"{shownName}: Cannot hard link to '{text}': {f.message}"
    | _ => return
  | .fifo =>
    let (machine, n) := (← machine).addPipe false
    modifyMachine fun _ => machine
    match ← r.attempt m path (fun d => d.place path (.fifo n)) 4 with
    | .failed f => note s!"{shownName}: Cannot mkfifo: {f.message}"
    | _ => return
  | .label => return
  | _ => note s!"{shownName}: Cannot mknod: Operation not permitted"

/-- the name of a member below a directory that holds all of them -/
def underTop (top : String) (name : List Char) : List Char :=
  let rest := name.dropWhile fun c => c == '/' || c == '.'
  let isInside := top.toList.isPrefixOf rest &&
    ((rest.drop top.length).isEmpty || (rest.drop top.length).head? == some '/')
  if rest.isEmpty then top.toList
  else if isInside then name
  else top.toList ++ '/' :: (if ['.', '/'].isPrefixOf name then name.drop 2 else name)

/-- the name of an archive without its endings -/
def archiveBase (path : String) : String :=
  let base := (baseOf path).toList
  let ends := [".tar.gz", ".tar.bz2", ".tar.xz", ".tar.Z", ".tgz", ".taz", ".tar"]
  match ends.find? fun ending => ending.toList.isSuffixOf base with
  | some ending => String.ofList (base.take (base.length - ending.length))
  | none => String.ofList base

/-- take a member out -/
def Rules.takeOut (r : Rules) (programs : Programs) (backup : Option Backup) (dir : StartDir) (m : Member) :
    Taping Unit := do
  if m.kind = .label then
    if 0 < r.verbosity then r.tellMember m m.name
    return
  let name ← r.outside false (bare m.name)
  if name.isEmpty then return
  if !(← r.agrees "extract" name) then return
  let name := match r.topDir with
    | some "" => underTop (archiveBase r.archive) name
    | some top => underTop top name
    | none => name
  if 0 < r.verbosity then r.tellMember m m.name
  if !r.keepsLead && climbs m.name then
    let text := named m.name
    return ← note s!"{text}: Member name contains '..'"
  let path := pathIn dir.path (String.ofList name)
  let shownName := named name
  let isContent := match m.kind with
    | .file => true
    | .other _ => true
    | _ => false
  match r.command with
  | some command =>
    if isContent then r.giveTo programs command m name
    return
  | none => pure ()
  if r.toOutput then
    if isContent then Tool.out m.content
    return
  if r.clearing = .keepsNewer && (← (isNewer path m : Activity Bool)) then
    let text := cited (String.ofList name)
    return ← tellFault s!"Current {text} is newer or same age"
  if r.clearing = .unlinksFirst then
    let d ← disk
    if d.isThere path then
      if !(← clear r.emptiesDirs path) then
        return ← note s!"{shownName}: Cannot unlink: Directory not empty"
  r.setAside backup path
  match m.kind with
  | .directory => r.restoreDir m path shownName
  | .file => r.restoreFile m path shownName
  | .other letter =>
    tellFault s!"{shownName}: Unknown file type '{letter}', extracted as normal file"
    r.restoreFile m path shownName
  | .hardLink => do
    let target ← r.outside true m.target
    let target := match r.topDir with
      | some "" => underTop (archiveBase r.archive) target
      | some top => underTop top target
      | none => target
    r.restoreOther dir m target path shownName
  | _ => r.restoreOther dir m (r.changed NameChange.forSymbolicLinks m.target) path shownName

/-- take members out -/
def Rules.extract (r : Rules) (programs : Programs) (backup : Option Backup) : Taping Unit := do
  r.forWanted (r.takeOut programs backup)
  for x in (← get).restorations do r.restore x.path x.mode x.modified

/-! ### comparing -/

/-- compare a member with what stands at its place -/
def Rules.compareMember (r : Rules) (dir : StartDir) (m : Member) : Taping Unit := do
  if 1 < r.verbosity || 0 < r.verbosity then r.tellMember m m.name
  let name ← r.outside false (bare m.name)
  let path := pathIn dir.path (String.ofList name)
  let shownName := r.printed name
  let text := named name
  let differs (what : String) : Taping Unit := do
    Tool.say s!"{shownName}: {what}\n"
    modify fun t => { t with code := max t.code 1 }
  let d ← disk
  let missing (what : String) (f : DiskFault) : Taping Unit := do
    if f = .missing then
      tellFault s!"{text}: Warning: Cannot {what}: {f.message}"
      modify fun t => { t with code := max t.code 1 }
    else note s!"{text}: Cannot {what}: {f.message}"
  match m.kind with
  | .symbolicLink =>
    match d.linkStat path with
    | .error f => missing "readlink" f
    | .ok (_, .link target _) => if target.toList ≠ m.target then differs "Symlink differs"
    | .ok _ => missing "readlink" .invalid
  | .label => return
  | kind =>
    match if r.follows then d.stat path else d.linkStat path with
    | .error f => missing "stat" f
    | .ok (l, node) =>
      match kind, node with
      | .directory, .dir mode _ => if mode ≠ m.mode then differs "Mode differs"
      | .file, .file n =>
        if d.modeOf node ≠ m.mode then differs "Mode differs"
        if (d.modifiedOf node : Int) / 1000000000 ≠ m.modified then differs "Mod time differs"
        let content := Text.ofBytes (d.file n).content
        if content.length ≠ m.content.length then differs "Size differs"
        else if !d.allows l Disk.reading then note s!"{text}: Cannot open: Permission denied"
        else if content ≠ m.content then differs "Contents differ"
      | .hardLink, .file _ =>
        let target ← r.outside true m.target
        match d.linkStat (pathIn dir.path (String.ofList target)) with
        | .ok (_, other) => if other ≠ node then
            let text := marked [] target
            differs s!"Not linked to {text}"
        | .error f => missing "stat" f
      | .fifo, .fifo _ => if d.modeOf node ≠ m.mode then differs "Mode differs"
      | .characters, .device _ => return
      | _, _ => differs "File type differs"

def Rules.compare (r : Rules) : Taping Unit := r.forWanted r.compareMember

/-! ### changing an archive -/

/-- the blocks of the members of an archive, without what ends it -/
def Rules.keepAll (r : Rules) (visit : Member → Taping Bool) (cs : List Char) : Taping Unit :=
  { r with ignoresZeros := false }.walkAll cs fun m blocks => do
    if ← visit m then put blocks

/-- the name of the label of an archive -/
def Rules.testLabel (r : Rules) : Taping Unit := do
  let (wanted, _) ← r.wanted
  match next (← r.load) with
  | .member m _ _ _ =>
    if m.kind = .label then
      if wanted.isEmpty || 0 < r.verbosity then Tool.say (String.ofList m.name ++ "\n")
      if !wanted.isEmpty && !wanted.any fun w => w.name == m.name then
        modify fun t => { t with code := max t.code 1 }
    else if !wanted.isEmpty then modify fun t => { t with code := max t.code 1 }
  | _ => return

end PatternBuild.Shell.Tool.Tape

/-!
## Tape: many files in one

`tar` makes archives, lists them, takes files out of them and changes them.
-/

namespace PatternBuild.Shell.Tool

namespace Tape

open Activity Archive

/-! ### changing an archive -/

/-- the archive that is there already, or nothing -/
def Rules.loadOld (r : Rules) : Taping (List Char) := do
  if (← disk).isPresent r.archive then r.load else return []

/-- what is still to be stored once a member is known -/
def notYet (d : Disk) (m : Member) (wanted : List Wanted) : List Wanted :=
  let name := bare m.name
  wanted.flatMap fun w =>
    if w.name ≠ name then [w]
    else
      let path := pathIn w.dir.path (String.ofList w.name)
      match d.stat path with
      | .ok (l, .dir _ _) =>
        (d.namesIn l).map fun entry => { w with name := w.name ++ '/' :: entry.toList }
      | .ok (_, node) => if (d.modifiedOf node : Int) / 1000000000 ≤ m.modified then [] else [w]
      | .error _ => [w]

/-- what is still to be stored once the members of an archive are known -/
def notYetIn (d : Disk) : Nat → List Wanted → List Char → List Wanted
  | 0, wanted, _ => wanted
  | n + 1, wanted, cs =>
    match next cs with
    | .member m _ _ rest => notYetIn d n (notYet d m wanted) rest
    | _ => wanted

/-- add files at the end of an archive; of those that are members already, only newer ones -/
def Rules.append (r : Rules) (onlyNewer : Bool) : Taping Unit := do
  let (wanted, _) ← r.wanted
  let s ← r.store wanted
  let cs ← r.loadOld
  r.keepAll (fun _ => return true) cs
  let d ← disk
  s.storeAll (if onlyNewer then notYetIn d (cs.length / blockLength + 1) wanted cs else wanted)
  r.save
  s.finish

/-- add the members of other archives -/
def Rules.join (r : Rules) : Taping Unit := do
  let (wanted, _) ← r.wanted
  r.keepAll (fun _ => return true) (← r.loadOld)
  for w in wanted do
    r.keepAll (fun _ => return true) (← { r with archive := pathIn w.dir.path (String.ofList w.name) }.load)
  r.save

/-- leave members out of an archive -/
def Rules.delete (r : Rules) : Taping Unit := do
  let (wanted, last) ← r.wanted
  let cs ← r.load
  let choice : Choice := ⟨wanted, last⟩
  let rec go : Nat → Choice → List Char → Taping Choice
    | 0, c, _ => return c
    | n + 1, c, cs => do
      match next cs with
      | .member m blocks _ rest =>
        let (found, c) := c.take? r m
        if found.isNone || wanted.isEmpty then put blocks
        go n c rest
      | _ => return c
  let c ← go (cs.length / blockLength + 1) choice cs
  r.save
  c.finish r

/-! ### the command -/

/-- do the work -/
def Rules.perform (r : Rules) (programs : Programs) (backup : Option Backup) : Taping Unit :=
  match r.work with
  | some .create => r.create
  | some .append => r.append false
  | some .update => r.append true
  | some .join => r.join
  | some .delete => r.delete
  | some .extract => r.extract programs backup
  | some .list => r.list
  | some .compare => r.compare
  | some .testLabel => r.testLabel
  | none => return

/-- what cannot be done as it is asked for -/
def Rules.misuse? (r : Rules) : Option String :=
  let isNamed := r.namings.any fun
    | .dir _ => false
    | _ => true
  match r.work with
  | none => some "You must specify one of the '-Acdtrux', '--delete' or '--test-label' options"
  | some .create => if isNamed then none else some "Cowardly refusing to create an empty archive"
  | some .append | some .update | some .join =>
    if r.archive = "-" then some "Options '-Aru' are incompatible with '-f -'"
    else if r.packs then some "Cannot update compressed archives"
    else none
  | _ => none

/-- what is printed instead of doing anything -/
def answerTo? (args : List Argument) : Option String :=
  args.findSome? fun
    | .option "version" _ => some "tar (GNU tar) 1.34\n"
    | .option "show-defaults" _ =>
      some "--format=gnu -f- -b20 --quoting-style=escape --rmt-command=/usr/sbin/rmt --rsh-command=/usr/bin/rsh\n"
    | _ => none

end Tape

def tar (programs : Programs) (args : List String) : Activity Nat := do
  let refused (m : Tape.Misuse) (code : Nat) : Activity Nat := do
    Tool.complain "tar" m.message
    Activity.tell m.tail
    return code
  match Tape.spreadFirst args with
  | .error c => refused ⟨s!"Old option '{c}' requires an argument.", Tape.hint⟩ 2
  | .ok args =>
    match readArguments Tape.optionRules args with
    | .error p => refused ⟨p.message, Tape.hint⟩ 64
    | .ok arguments =>
      match Tape.answerTo? arguments with
      | some text =>
        Tool.say text
        return 0
      | none => pure ()
      let archive := ((← Activity.own).environment.lookup "TAPE").getD "-"
      match ← Tape.Rules.plusAll { Tape.Rules.start with archive } arguments with
      | .error m => refused m 2
      | .ok r =>
        match r.misuse? with
        | some message => refused ⟨message, Tape.hint⟩ 2
        | none =>
          let g := Given.ofArguments arguments
          let kept : Given := ⟨g.options.filterMap fun (name, value) =>
            if name = "backup" then some ("b", value) else if name = "suffix" then some ("S", value) else none, []⟩
          withBackup "tar" kept fun backup => do
            match ← ((r.perform programs backup).run Tape.Taped.start).run with
            | .error code => return code
            | .ok (_, t) =>
              if t.code = 2 then Tool.complain "tar" "Exiting with failure status due to previous errors"
              return t.code

end PatternBuild.Shell.Tool
