import PatternBuild.Archive
import PatternBuild.Shell.Tool.Compression
import PatternBuild.Shell.Tool.Tape.Rules

/-!
# Taping: work with an archive that goes on from member to member

The state keeps what has been written, which members other names can refer to, and the worst code so far.
Some faults end the work at once.
-/

namespace PatternBuild.Shell.Tool.Tape

open Activity Archive Editor

/-- a file that was stored under a name -/
structure StoredFile where
  /-- what tells it from other files -/
  key : String
  name : List Char
  /-- how many further names it has -/
  others : Nat

/-- attributes that a directory gets when all is done -/
structure Restoration where
  path : String
  mode : Nat
  modified : Int

/-- how far the work has come -/
structure Taped where
  code : Nat
  /-- parts of names that were told to be left out, of members or of links -/
  told : List (Bool × List Char)
  /-- what is written, the latest first, and its size -/
  pieces : List (List Char)
  size : Nat
  /-- the width of owners and sizes in long lines -/
  width : Nat
  stored : List StoredFile
  restorations : List Restoration
  removals : List String
  /-- the lines of the members that were stored, the latest first -/
  lines : List String
  /-- the number of the current block -/
  block : Nat

def Taped.start : Taped := ⟨0, [], [], 0, 19, [], [], [], [], 0⟩

/-- work on an archive; a fault that ends it gives a code -/
abbrev Taping := StateT Taped (ExceptT Nat Activity)

/-- tell what is wrong -/
def tellFault (message : String) : Taping Unit := Tool.complain "tar" message

/-- tell what is wrong, which makes the code 2 -/
def note (message : String) : Taping Unit := do
  tellFault message
  modify fun t => { t with code := 2 }

/-- tell what is wrong and end -/
def giveUp {α : Type} (message : String) : Taping α := do
  tellFault message
  tellFault "Error is not recoverable: exiting now"
  throw 2

/-- a name in front of a colon -/
def named (name : List Char) : String := marked [':'] name

/-- whether what is told goes to the standard error -/
def Rules.speaksAside (r : Rules) : Bool :=
  r.toOutput || r.command.isSome || (r.work = some .create && r.archive = "-")

/-- print a text -/
def Rules.speak (r : Rules) (text : String) : Taping Unit := do
  if r.speaksAside then
    discard flush
    tell text
  else
    Tool.say text
    discard flush

/-- ask whether something is done with a member -/
def Rules.agrees (r : Rules) (action : String) (name : List Char) : Taping Bool := do
  if !r.asks then return true
  let shownName := cited (String.ofList name)
  r.speak s!"{action} {shownName}?"
  let (line, isEnded) ← readLine 0
  if line.isEmpty && !isEnded then r.speak "\n"
  return line.head?.any fun c => c == 'y' || c == 'Y'

/-! ## names -/

/-- a name inside the place where the work is done: leading slashes and parts that lead upwards are left
out -/
def Rules.safe (r : Rules) (isTarget : Bool) (name : List Char) : Taping (List Char) := do
  if r.keepsLead then return if name.isEmpty then ['.'] else name
  let n := leadLength name
  let rest := name.drop n
  let what := if isTarget then "hard link targets" else "member names"
  if 0 < n then
    let lead := name.take n
    if !(← get).told.contains (isTarget, lead) then
      modify fun t => { t with told := (isTarget, lead) :: t.told }
      let text := String.ofList lead
      tellFault s!"Removing leading \x60{text}' from {what}"
  if rest.isEmpty then
    if n = 0 then
      let what := if isTarget then "hard link target" else "member name"
      tellFault s!"Substituting \x60.' for empty {what}"
    return ['.']
  return rest

/-- a name after the replacements for some kind of names -/
def Rules.changed (r : Rules) (isMeant : NameChange → Bool) (name : List Char) : List Char :=
  (r.changes.filter isMeant).foldl (fun name c => (replaced c.pattern c.change name).getD name) name

/-- the name that a member has outside of the archive -/
def Rules.outside (r : Rules) (isTarget : Bool) (name : List Char) : Taping (List Char) := do
  let changed := r.changed (if isTarget then NameChange.forHardLinks else NameChange.forFiles) name
  return stripped r.strips (← r.safe isTarget changed)

/-- a path from a directory on -/
def pathIn (dir : String) (name : String) : String :=
  if dir = "" || name.startsWith "/" then name else entryPath dir name

/-! ## lines -/

/-- the letter of a kind of member in long lines -/
def kindSign : MemberKind → Char
  | .file => '-'
  | .hardLink => 'h'
  | .symbolicLink => 'l'
  | .characters => 'c'
  | .blocks => 'b'
  | .directory => 'd'
  | .fifo => 'p'
  | .label => 'V'
  | .other _ => '?'

/-- a name as it is printed -/
def Rules.printed (r : Rules) (name : List Char) : String :=
  if r.isLiteral then String.ofList name else marked [] name

/-- the line of a member that is shown under a name, and the width that its columns take -/
def Rules.line (r : Rules) (zone : Calendar.Zone) (width : Nat) (m : Member) (name : List Char) :
    String × Nat :=
  if r.verbosity ≤ 1 then (r.printed name ++ "\n", width)
  else
    let zone := if r.inUniversalTime then .utc else zone
    let time := Calendar.formatIn zone (m.modified * 1000000000)
      (if r.showsSeconds then "%Y-%m-%d %H:%M:%S" else "%Y-%m-%d %H:%M")
    let owner (text : List Char) (n : Nat) : String :=
      if text.isEmpty || r.showsNumbers then toString n else String.ofList text
    let isDevice := m.kind = .characters || m.kind = .blocks
    let size := if isDevice then s!"{m.device.1},{m.device.2}" else toString m.content.length
    let owners := owner m.user m.userNumber ++ "/" ++ owner m.group m.groupNumber
    let width := max width (owners.length + 1 + size.length)
    let target := r.printed m.target
    let ending := match m.kind with
      | .symbolicLink => s!" -> {target}"
      | .hardLink => s!" link to {target}"
      | .label => "--Volume Header--"
      | _ => ""
    let shownName := r.printed name
    let gap := padLeft (width - owners.length - 1) size
    ((kindSign m.kind).toString ++ modeLetters m.mode ++ s!" {owners} {gap} {time} {shownName}{ending}\n", width)

/-- print the line of a member -/
def Rules.tellMember (r : Rules) (m : Member) (name : List Char) : Taping Unit := do
  let t ← get
  let (text, width) := r.line (← currentZone) t.width m name
  set { t with width }
  let place := if r.showsBlocks then s!"block {t.block}: " else ""
  r.speak (place ++ text)

/-! ## what is named -/

/-- a directory where names start, as it was given -/
structure StartDir where
  path : String
  given : String

/-- something that is named -/
structure Wanted where
  dir : StartDir
  name : List Char
  matching : Matching
  count : Nat

/-- go into a directory -/
def StartDir.enter (dir : StartDir) (path : String) : StartDir := ⟨pathIn dir.path path, path⟩

/-- a directory must be there when it is used -/
def StartDir.check (dir : StartDir) : Taping Unit := do
  if dir.path ≠ "" then
    match (← disk).stat dir.path with
    | .ok (_, .dir _ _) => return
    | .ok _ => giveUp s!"{dir.given}: Cannot open: Not a directory"
    | .error f => giveUp s!"{dir.given}: Cannot open: {f.message}"

/-- the names in a text -/
def namesIn (endedByZeros : Bool) (cs : List Char) : List (List Char) :=
  ((partsOf (if endedByZeros then '\x00' else '\n') cs).1).filter fun line => !line.isEmpty

/-- what a line of a list of names means -/
def listedNaming (m : Matching) (verbatim unmarks : Bool) (line : List Char) : List Naming :=
  if verbatim || line.head? ≠ some '-' then [.name (if unmarks then unmarked line else line) m]
  else
    let words := ((String.ofList line).splitOn " ").filter (· ≠ "")
    match readArguments optionRules words with
    | .ok args => args.filterMap fun
      | .option "C" value => some (.dir value)
      | .option "add-file" value => some (.name value.toList m)
      | _ => none
    | .error _ => []

/-- what is named, one after the other, and the last directory -/
def Rules.wantedFrom (r : Rules) : Nat → StartDir → List Naming → Taping (List Wanted × StartDir)
  | 0, dir, _ => return ([], dir)
  | n + 1, dir, namings => do
    match namings with
    | [] => return ([], dir)
    | .dir path :: rest => r.wantedFrom n (dir.enter path) rest
    | .name text matching :: rest =>
      let (more, last) ← r.wantedFrom n dir rest
      return (⟨dir, bare text, matching, 0⟩ :: more, last)
    | .listed path matching endedByZeros verbatim :: rest =>
      match ← contentOf path with
      | .error f => giveUp s!"{path}: Cannot stat: {f.message}"
      | .ok cs =>
        let unmarks := r.unmarksNames && !endedByZeros
        let named := (namesIn endedByZeros cs).flatMap (listedNaming matching verbatim unmarks)
        r.wantedFrom n dir (named ++ rest)

/-- what is named, and the last directory -/
def Rules.wanted (r : Rules) : Taping (List Wanted × StartDir) := do
  let namings := r.namings.map fun
    | .name text m => Naming.name (if r.unmarksNames then unmarked text else text) m
    | other => other
  r.wantedFrom 100000 ⟨"", ""⟩ namings

/-! ## the archive -/

/-- whether the archive is packed -/
def Rules.isPacked (r : Rules) : Bool :=
  r.packs || (r.packsBySuffix && [".gz", ".tgz", ".taz"].any fun ending => r.archive.endsWith ending)

/-- the content of the archive -/
def Rules.load (r : Rules) : Taping (List Char) := do
  let found ← if r.archive = "-" then (readAll 0 : Activity _)
    else do
      match (← disk).stat r.archive with
      | .ok (_, .dir _ _) =>
        tellFault s!"{r.archive}: Cannot read: Is a directory"
        tellFault "At beginning of tape, quitting now"
        tellFault "Error is not recoverable: exiting now"
        throw 2
      | _ => (contentOf r.archive : Activity _)
  match found with
  | .error f => giveUp s!"{r.archive}: Cannot open: {f.message}"
  | .ok cs =>
    let unpacked : Taping (List Char) := do
      match Compression.unpackFile (Compression.bytesOf cs) with
      | .ok found => return Compression.charsOf found.data
      | .error f =>
        discard flush
        tell (f.message "stdin")
        tellFault "Child returned status 1"
        tellFault "Error is not recoverable: exiting now"
        throw 2
    let isPlain := isHeader (cs.take blockLength)
    if r.packs then unpacked
    else if !isPlain && Compression.startsMember (Compression.bytesOf (cs.take 2)) 0 then
      if r.archive = "-" then giveUp "Archive is compressed. Use -z option" else unpacked
    else
      let starts (text : String) : Bool := text.toList.isPrefixOf cs
      if !isPlain && r.archive = "-" && starts "BZh" then giveUp "Archive is compressed. Use -j option"
      else if !isPlain && r.archive = "-" && starts "\xfd7zXZ" then
        giveUp "Archive is compressed. Use -J option"
      else
        if cs.length < blockLength then note "This does not look like a tar archive"
        return cs

/-- add to what is written -/
def put (cs : List Char) : Taping Unit :=
  modify fun t => { t with pieces := cs :: t.pieces, size := t.size + cs.length }

/-- write the archive -/
def Rules.save (r : Rules) : Taping Unit := do
  let t ← get
  let content := t.pieces.reverse.flatten ++ ending (r.blocking * blockLength) t.size
  let content := if r.isPacked then
      Compression.charsOf (Compression.member 6 none 0 (Compression.bytesOf content))
    else content
  if r.archive = "-" then Tool.out content
  else
    match ← (openToWrite r.archive false : Activity _) with
    | .error f => giveUp s!"{r.archive}: Cannot open: {f.message}"
    | .ok fd =>
      discard (write fd content)
      close fd

end PatternBuild.Shell.Tool.Tape
