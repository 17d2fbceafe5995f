import PatternBuild.Shell.Format
import PatternBuild.Shell.Tool.Calendar
import PatternBuild.Shell.Tool.Changes
import PatternBuild.Shell.Tool.Order
import PatternBuild.Shell.Tool.Quantity

/-!
# Listing: what directories hold and what is known about files

`ls` lists directories, and `stat` shows the attributes of files by a format.
-/

namespace PatternBuild.Shell.Tool

open Activity Path

/-! ## attributes -/

/-- the letter of a kind of file -/
def kindLetter : DiskNode → Char
  | .file _ => '-'
  | .dir _ _ => 'd'
  | .link _ _ => 'l'
  | .device _ => 'c'
  | .fifo _ => 'p'

/-- how many names something has -/
def linksOf (d : Disk) (l : Location) : DiskNode → Nat
  | .file n => d.linkCount n
  | .dir _ _ =>
    2 + ((d.namesIn l).filter fun name =>
      match d.node? (l ++ [name]) with
      | some (.dir _ _) => true
      | _ => false).length
  | _ => 1

/-- the number of blocks of 512 octets that something takes -/
def blocksOf (d : Disk) (node : DiskNode) : Nat :=
  match node with
  | .link _ _ => 0
  | .device _ => 0
  | .fifo _ => 0
  | node => (d.sizeOf node + 4095) / 4096 * 8

/-- a number that tells a file from others -/
def fileNumber (d : Disk) (l : Location) : DiskNode → Nat
  | .file n => 1000000 + n
  | _ => 2000000 + (d.nodes.keys.idxOf (Disk.pathOf l))

/-! ## ls -/

/-- an entry that is listed -/
structure Entry where
  name : String
  at_ : Location
  node : DiskNode

/-- how `ls` lists -/
structure ListStyle where
  showsHidden : Bool
  showsDots : Bool
  isLong : Bool
  showsOwner : Bool
  showsGroup : Bool
  numbersOwners : Bool
  /-- `-F` or `-p` -/
  marks : Option Bool
  showsInode : Bool
  showsBlocks : Bool
  /-- how sizes are written for people -/
  sizes : Option Magnitude
  sortsBy : Char
  reverses : Bool
  isRecursive : Bool
  dirsFirst : Bool
  listsDirs : Bool
  /-- `-m` -/
  withCommas : Bool
  quotes : Option Char
  timeStyle : String
  zone : Calendar.Zone
  followsLinks : Bool

/-- a size as it is listed: as it is, or as people read it -/
def ListStyle.sizeText (s : ListStyle) (n : Nat) : String :=
  match s.sizes with
  | some m => m.text n
  | none => toString n

/-- an amount of blocks as it is listed: in kilobytes, or as people read it -/
def ListStyle.blocksText (s : ListStyle) (blocks : Nat) : String :=
  match s.sizes with
  | some m => m.text (blocks * 512)
  | none => toString (blocks / 2)

/-- the order of entries -/
def ListStyle.compare (s : ListStyle) (d : Disk) (a b : Entry) : Ordering :=
  let byName := compareOctets a.name.toList b.name.toList
  let isDir (e : Entry) : Bool := match e.node with
    | .dir _ _ => true
    | _ => false
  let extension (e : Entry) : List Char :=
    let cs := e.name.toList.reverse
    let tail := cs.takeWhile (· ≠ '.')
    if tail.length = cs.length then [] else '.' :: tail.reverse
  let order := match s.sortsBy with
    | 't' => (compareNat (d.modifiedOf b.node) (d.modifiedOf a.node)).then byName
    | 'S' => (compareNat (d.sizeOf b.node) (d.sizeOf a.node)).then byName
    | 'X' => (compareOctets (extension a) (extension b)).then byName
    | 'v' => (compareVersions a.name.toList b.name.toList).then byName
    | 'U' => .eq
    | _ => byName
  let order := if s.reverses then order.swap else order
  if s.dirsFirst then
    match isDir a, isDir b with
    | true, false => .lt
    | false, true => .gt
    | _, _ => order
  else order
where
  compareNat (a b : Nat) : Ordering := Ord.compare a b

def ListStyle.sorted (s : ListStyle) (d : Disk) (es : List Entry) : List Entry :=
  es.mergeSort fun a b => s.compare d a b != .gt

/-- a name with the mark of its kind -/
def ListStyle.nameOf (s : ListStyle) (d : Disk) (e : Entry) : String :=
  let name := match s.quotes with
    | some 'Q' => "\"" ++ String.ofList (e.name.toList.flatMap fun c =>
        if c == '"' || c == '\\' then ['\\', c] else if isHidden c then spelled c else [c]) ++ "\""
    | some 'b' => String.ofList (e.name.toList.flatMap fun c =>
        if c == ' ' || c == '\\' then ['\\', c] else if isHidden c then spelled c else [c])
    | some 'q' => e.name.map fun c => if isHidden c then '?' else c
    | _ => e.name
  let mark : String := match s.marks, e.node with
    | some _, .dir _ _ => "/"
    | some true, .link _ _ => if s.isLong then "" else "@"
    | some true, .fifo _ => "|"
    | some true, .file n => if (d.file n).mode &&& 0o111 ≠ 0 then "*" else ""
    | _, _ => ""
  name ++ mark

/-- the date of an entry -/
def ListStyle.dateOf (s : ListStyle) (d : Disk) (t : Nat) : String :=
  match s.timeStyle with
  | "full-iso" => Calendar.formatIn s.zone t "%Y-%m-%d %H:%M:%S.%N %z"
  | "long-iso" => Calendar.formatIn s.zone t "%Y-%m-%d %H:%M"
  | "iso" => Calendar.formatIn s.zone t (if isRecent t then "%m-%d %H:%M" else "%Y-%m-%d ")
  | style =>
    if style.startsWith "+" then Calendar.formatIn s.zone t (String.ofList (style.toList.drop 1))
    else Calendar.formatIn s.zone t (if isRecent t then "%b %e %H:%M" else "%b %e  %Y")
where
  /-- whether a moment lies in the last half year -/
  isRecent (t : Nat) : Bool := t ≤ d.now && d.now < t + 15778476 * 1000000000

/-- the columns of an entry in front of its name -/
def ListStyle.columns (s : ListStyle) (d : Disk) (e : Entry) : List (Bool × String) :=
  let owner := if s.numbersOwners then "0" else "root"
  let size := d.sizeOf e.node
  (if s.showsInode then [(true, toString (fileNumber d e.at_ e.node))] else []) ++
  (if s.showsBlocks then [(true, s.blocksText (blocksOf d e.node))] else []) ++
  (if s.isLong then
    [(false, (kindLetter e.node).toString ++ modeLetters (d.modeOf e.node)),
      (true, toString (linksOf d e.at_ e.node))] ++
    (if s.showsOwner then [(false, owner)] else []) ++
    (if s.showsGroup then [(false, owner)] else []) ++
    [(true, s.sizeText size),
      (false, s.dateOf d (d.modifiedOf e.node))]
  else [])

/-- print entries -/
def ListStyle.print (s : ListStyle) (d : Disk) (es : List Entry) : Activity Unit := do
  let rows := es.map fun e => (s.columns d e, e)
  let widths := rows.foldl (fun (widths : List Nat) (columns, _) =>
    let lengths := columns.map fun (_, text) => text.length
    if widths.isEmpty then lengths else (widths.zip lengths).map fun (a, b) => max a b) []
  let spelled := rows.map fun (columns, e) =>
    let cells := (columns.zip widths).map fun ((isRight, text), w) =>
      if isRight then padLeft w text else padRight w text
    let arrow := match e.node with
      | .link target _ => if s.isLong then " -> " ++ target else ""
      | _ => ""
    " ".intercalate (cells ++ [s.nameOf d e ++ arrow])
  if s.withCommas then
    let text := (spelled.zipIdx.foldl (fun (text, column) (name, i) =>
      let isLast := i + 1 = spelled.length
      let width := name.length + if isLast then 0 else 2
      if i = 0 then (name, name.length)
      else if 80 < column + 2 + width - (if isLast then 0 else 0) then
        (text ++ ",\n" ++ name, name.length)
      else (text ++ ", " ++ name, column + 2 + name.length)) ("", 0)).1
    if !spelled.isEmpty then Tool.say (text ++ "\n")
  else
    for line in spelled do Tool.say (line ++ "\n")

/-- the entries of a directory that are listed -/
def ListStyle.entriesOf (s : ListStyle) (d : Disk) (l : Location) : List Entry :=
  let isShown (name : String) : Bool := s.showsHidden || !name.startsWith "."
  let inside := ((d.namesIn l).filter isShown).filterMap fun name =>
    (d.node? (l ++ [name])).map fun node =>
      let (at_, node) := if s.followsLinks then
          ((d.stat (Disk.pathOf (l ++ [name]))).toOption).getD (l ++ [name], node)
        else (l ++ [name], node)
      (⟨name, at_, node⟩ : Entry)
  let dots := if s.showsDots then
      [(".", l), ("..", l.dropLast)].filterMap fun (name, l) =>
        (d.node? l).map fun node => (⟨name, l, node⟩ : Entry)
    else []
  s.sorted d (dots ++ inside)

/-- list a directory, and those in it if they are wanted -/
def ListStyle.listDir (s : ListStyle) (isFirst hasHeading : Bool) : Nat → String → Location → Activity Unit
  | 0, _, _ => return
  | n + 1, path, l => do
    let d ← disk
    let es := s.entriesOf d l
    if !isFirst then Tool.say "\n"
    if hasHeading then Tool.say (path ++ ":\n")
    if s.isLong || s.showsBlocks then
      let blocks := es.foldl (fun k e => k + blocksOf d e.node) 0
      Tool.say ("total " ++ s.blocksText blocks ++ "\n")
    s.print d es
    if s.isRecursive then
      for e in es do
        match e.node with
        | .dir _ _ =>
          if e.name ≠ "." && e.name ≠ ".." then
            listDir s false true n (entryPath path e.name) e.at_
        | _ => pure ()

def ls (isColumnar : Bool) (args : List String) : Activity Nat :=
  withOptions "ls" (.of "aAbBcCdDfFgGhHiklLmnNopqQrRsStuUvxXZ1" "ITw" [("all", "a", .never),
    ("almost-all", "A", .never), ("escape", "b", .never), ("ignore-backups", "B", .never),
    ("color", "color", .maybe), ("directory", "d", .never), ("classify", "F", .maybe),
    ("file-type", "p", .never), ("format", "format", .always), ("full-time", "full", .never),
    ("group-directories-first", "first", .never), ("no-group", "G", .never),
    ("human-readable", "h", .never), ("inode", "i", .never), ("ignore", "I", .always),
    ("hide", "I", .always), ("dereference", "L", .never), ("numeric-uid-gid", "n", .never),
    ("literal", "N", .never), ("indicator-style", "indicator", .always),
    ("hide-control-chars", "q", .never), ("quote-name", "Q", .never),
    ("quoting-style", "quoting", .always), ("reverse", "r", .never), ("recursive", "R", .never),
    ("size", "s", .never), ("sort", "sort", .always), ("time", "time", .always),
    ("time-style", "style", .always), ("width", "w", .always), ("show-control-chars", "N", .never),
    ("si", "si", .never)]) 2 args fun g => do
  let d ← disk
  let _ := isColumnar
  let sortsBy : Char := match g.last? ["t", "S", "X", "v", "U", "f", "sort"] with
    | some "sort" =>
      match g.value? "sort" with
      | some "time" => 't'
      | some "size" => 'S'
      | some "extension" => 'X'
      | some "version" => 'v'
      | some "none" => 'U'
      | _ => 'n'
    | some "f" => 'U'
    | some name => name.toList.headD 'n'
    | none => 'n'
  let s : ListStyle := {
    showsHidden := g.has "a" || g.has "A" || g.has "f"
    showsDots := g.has "f" || g.last? ["a", "A"] = some "a"
    isLong := g.has "l" || g.has "n" || g.has "g" || g.has "o" || g.has "full" ||
      g.value? "format" = some "long"
    showsOwner := !g.has "g"
    showsGroup := !(g.has "o" || g.has "G")
    numbersOwners := g.has "n"
    marks := match g.last? ["F", "p"] with
      | some "F" => if g.value? "F" = some "never" then none else some true
      | some _ => some false
      | none => none
    showsInode := g.has "i"
    showsBlocks := g.has "s"
    sizes := (g.last? ["h", "si"]).map fun name => ⟨name = "h", true, false⟩
    sortsBy
    reverses := g.has "r"
    isRecursive := g.has "R" && !g.has "d"
    dirsFirst := g.has "first"
    listsDirs := g.has "d"
    withCommas := g.last? ["m", "l", "1", "C", "x"] = some "m"
    quotes := (g.last? ["Q", "b", "q", "N"]).bind fun name => name.toList.head?
    zone := ← currentZone
    timeStyle := if g.has "full" then "full-iso" else (g.value? "style").getD "locale"
    followsLinks := g.has "L" }
  let operands := if g.operands.isEmpty then ["."] else g.operands
  let mut code := 0
  let mut files : List Entry := []
  let mut dirs : List Entry := []
  for path in operands do
    -- a link to a directory is followed unless it is listed itself
    let followsNamed := s.followsLinks || g.has "H" || (!s.listsDirs && !s.isLong && s.marks ≠ some true)
    let found := if followsNamed then
        match d.stat path with
        | .ok x => .ok x
        | .error _ => d.linkStat path
      else d.linkStat path
    match found with
    | .error f =>
      Tool.complain "ls" s!"cannot access {quoted path}: {f.message}"
      code := 2
    | .ok (l, .dir mode t) =>
      let e : Entry := ⟨path, l, .dir mode t⟩
      if s.listsDirs then files := files ++ [e] else dirs := dirs ++ [e]
    | .ok (l, node) =>
      if path.endsWith "/" && !s.listsDirs then
        match d.stat path with
        | .ok (l, .dir mode t) => dirs := dirs ++ [⟨path, l, .dir mode t⟩]
        | .ok _ =>
          Tool.complain "ls" s!"cannot access {quoted path}: Not a directory"
          code := 2
        | .error f =>
          Tool.complain "ls" s!"cannot access {quoted path}: {f.message}"
          code := 2
      else files := files ++ [⟨path, l, node⟩]
  s.print d (s.sorted d files)
  let hasHeading := s.isRecursive || 1 < operands.length
  let mut isFirst := files.isEmpty
  for e in s.sorted d dirs do
    s.listDir isFirst hasHeading deepest e.name e.at_
    isFirst := false
  return code

/-! ## stat -/

/-- the name of a kind of file -/
def kindTitle (d : Disk) (node : DiskNode) : String := kindName d node

/-- the number of a kind of file with its mode, in hexadecimal digits -/
def rawMode (d : Disk) (node : DiskNode) : String :=
  let kind := match node with
    | .file _ => 0o100000
    | .dir _ _ => 0o040000
    | .link _ _ => 0o120000
    | .device _ => 0o020000
    | .fifo _ => 0o010000
  String.ofList (Nat.toDigits 16 (kind + d.modeOf node))

/-- what a letter of a format of `stat` shows -/
def statField? (zone : Calendar.Zone) (d : Disk) (path : String) (l : Location) (node : DiskNode) (c : Char) :
    Option String :=
  let t := d.modifiedOf node
  let full := Calendar.formatIn zone t "%Y-%m-%d %H:%M:%S.%N %z"
  match c with
  | 'n' => some path
  | 'N' => some (match node with
    | .link target _ => s!"{quoted path} -> {quoted target}"
    | _ => shown path)
  | 's' => some (toString (d.sizeOf node))
  | 'a' => some (Mode.octal 1 (d.modeOf node))
  | 'A' => some ((kindLetter node).toString ++ modeLetters (d.modeOf node))
  | 'f' => some (rawMode d node)
  | 'F' => some (kindTitle d node)
  | 'h' => some (toString (linksOf d l node))
  | 'i' => some (toString (fileNumber d l node))
  | 'b' => some (toString (blocksOf d node))
  | 'B' => some "512"
  | 'o' => some "4096"
  | 'd' => some "66305"
  | 'D' => some "10301"
  | 'm' => some "/"
  | 'u' => some "0"
  | 'g' => some "0"
  | 'U' => some "root"
  | 'G' => some "root"
  | 't' => some "0"
  | 'T' => some "0"
  | 'W' => some (toString (t / 1000000000))
  | 'w' => some full
  | _ =>
    if c == 'X' || c == 'Y' || c == 'Z' then some (toString (t / 1000000000))
    else if c == 'x' || c == 'y' || c == 'z' then some full else none

/-- the attributes of a file by a format -/
def statText (field : Char → Option String) (escapes : Bool) : Nat → List Char → List Char
  | 0, _ => []
  | _ + 1, [] => []
  | n + 1, '%' :: '%' :: cs => '%' :: statText field escapes n cs
  | n + 1, '%' :: cs =>
    let (directive, after) := readDirective allFlags false cs
    match directive.conversion with
    | none => ['%']
    | some c =>
      match field c with
      | some text =>
        let width := match directive.width with
          | some (.fixed k) => k
          | _ => 0
        let text := if directive.flags.contains '-' then padRight width text
          else if directive.flags.contains '0' then Calendar.fillWith '0' width text
          else padLeft width text
        text.toList ++ statText field escapes n after
      | none => '?' :: statText field escapes n after
  | n + 1, '\\' :: cs =>
    if escapes then
      match readEscape .programFormat cs with
      | .octets text rest => text ++ statText field escapes n rest
      | .stop => []
    else '\\' :: statText field escapes n cs
  | n + 1, c :: cs => c :: statText field escapes n cs

/-- what `stat` shows without a format -/
def usualStat : String :=
  "  File: %N\n  Size: %-10s\tBlocks: %-10b IO Block: %-6o %F\nDevice: 1,3\tInode: %-11i Links: %h\n" ++
  "Access: (%04a/%A)  Uid: (    %u/    %U)   Gid: (    %g/    %G)\nAccess: %x\nModify: %y\nChange: %z\n Birth: %w\n"

/-- what `stat` shows in short -/
def terseStat : String := "%n %s %b %f %u %g %D %i %h %t %T %X %Y %Z %W %o\n"

def stat (args : List String) : Activity Nat :=
  withOptions "stat" (.of "Lft" "c" [("dereference", "L", .never), ("format", "c", .always),
    ("printf", "printf", .always), ("file-system", "f", .never), ("terse", "t", .never)]) 1 args
    fun g => do
  if g.operands.isEmpty then return ← misuse "stat" "missing operand" 1
  let d ← disk
  let mut code := 0
  for path in g.operands do
    match if g.has "L" then d.stat path else d.linkStat path with
    | .error f =>
      Tool.complain "stat" s!"cannot statx {quoted path}: {f.message}"
      code := 1
    | .ok (l, node) =>
      let field := statField? (← currentZone) d path l node
      match g.last? ["c", "printf"] with
      | some "c" =>
        let format := (g.value? "c").getD ""
        Tool.out (statText field false (format.length + 1) format.toList ++ ['\n'])
      | some _ =>
        let format := (g.value? "printf").getD ""
        Tool.out (statText field true (format.length + 1) format.toList)
      | none =>
        let format := if g.has "t" then terseStat else usualStat
        Tool.out (statText field false (format.length + 1) format.toList)
  return code

end PatternBuild.Shell.Tool
