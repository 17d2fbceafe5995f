import PatternBuild.Digest
import PatternBuild.Packing.Pack
import PatternBuild.Packing.Unpack
import PatternBuild.Shell.Tool.Changes

/-!
# Compression: files that take less room

`gzip` puts packed data between a header and a checksum.  A file can hold several such members one after
the other, which unpack to all that they hold.
-/

namespace PatternBuild.Shell.Tool

open Activity Packing

namespace Compression

/-! ## members -/

/-- characters as bytes, and bytes as characters -/
def bytesOf (cs : List Char) : ByteArray := ⟨(Text.toBytes cs).toArray⟩
def charsOf (bytes : ByteArray) : List Char := Text.ofBytes bytes.toList

/-- a number in so many bytes, the lowest first -/
def inBytes : Nat → Nat → List UInt8
  | 0, _ => []
  | n + 1, value => value.toUInt8 :: inBytes n (value / 256)

/-- a member with packed data; a file gives it a name and a time in seconds -/
def member (level : Nat) (name : Option String) (seconds : Nat) (data : ByteArray) : ByteArray :=
  let flags : UInt8 := if name.isSome then 8 else 0
  let effort : UInt8 := if level = 9 then 2 else if level = 1 then 4 else 0
  let title := match name with
    | some text => Text.toBytes text.toList ++ [0]
    | none => []
  let header := [0x1f, 0x8b, 8, flags] ++ inBytes 4 seconds ++ [effort, 3] ++ title
  let trailer := inBytes 4 (Digest.Checksum.lowCrc data).toNat ++ inBytes 4 data.size
  ⟨header.toArray⟩ ++ pack level data ++ ⟨trailer.toArray⟩

/-- why a file cannot be unpacked -/
inductive Fault where
  | noFormat
  | ends
  | wrongData
  | wrongSum
  | wrongLength
  deriving DecidableEq, Repr

/-- a complaint about a file -/
def Fault.message (name : String) : Fault → String
  | .noFormat => s!"\ngzip: {name}: not in gzip format\n"
  | .ends => s!"\ngzip: {name}: unexpected end of file\n"
  | .wrongData => s!"\ngzip: {name}: invalid compressed data--format violated\n"
  | .wrongSum => s!"\ngzip: {name}: invalid compressed data--crc error\n"
  | .wrongLength => s!"\ngzip: {name}: invalid compressed data--length error\n"

/-- the byte at a place -/
def byteAt? (data : ByteArray) (i : Nat) : Option Nat :=
  if h : i < data.size then some data[i].toNat else none

/-- a number in so many bytes from a place on, the lowest first -/
def numberAt? (data : ByteArray) : Nat → Nat → Option Nat
  | 0, _ => some 0
  | n + 1, i => do
    let low ← byteAt? data i
    let high ← numberAt? data n (i + 1)
    return low + 256 * high

/-- whether a member begins at a place -/
def startsMember (data : ByteArray) (i : Nat) : Bool :=
  byteAt? data i == some 0x1f && byteAt? data (i + 1) == some 0x8b

/-- the place behind the next zero, and the characters in front of it -/
def untilZero (data : ByteArray) : Nat → Nat → Option (List Char × Nat)
  | 0, _ => none
  | n + 1, i =>
    match byteAt? data i with
    | none => none
    | some 0 => some ([], i + 1)
    | some b => (untilZero data n (i + 1)).map fun (cs, j) => (Char.ofNat b :: cs, j)

/-- the header of a member: its name and time, and where its data begins -/
structure Header where
  name : Option String
  seconds : Nat
  start : Nat

/-- read the header at a place -/
def header (data : ByteArray) (i : Nat) : Except Fault Header := do
  if data.size = i then throw .ends
  if data.size = i + 1 then throw .ends
  if !startsMember data i then throw .noFormat
  match byteAt? data (i + 2), byteAt? data (i + 3), numberAt? data 4 (i + 4) with
  | some method, some flags, some seconds =>
    if method ≠ 8 then throw .noFormat
    let start := i + 10
    let start ← if flags / 4 % 2 = 0 then pure start
      else match numberAt? data 2 start with
        | some n => pure (start + 2 + n)
        | none => throw .ends
    let (name, start) ← if flags / 8 % 2 = 0 then pure (none, start)
      else match untilZero data data.size start with
        | some (cs, next) => pure (some (String.ofList cs), next)
        | none => throw .ends
    let start ← if flags / 16 % 2 = 0 then pure start
      else match untilZero data data.size start with
        | some (_, next) => pure next
        | none => throw .ends
    return ⟨name, seconds, if flags / 2 % 2 = 0 then start else start + 2⟩
  | _, _, _ => throw .ends

/-- what a file holds once it is unpacked -/
structure Unpacked where
  data : ByteArray
  /-- what follows the members is no member -/
  hasRubbish : Bool

/-- unpack the members from a place on, at most `n` of them -/
def members (data : ByteArray) : Nat → Nat → ByteArray → Except Fault Unpacked
  | 0, _, out => .ok ⟨out, false⟩
  | n + 1, i, out => do
    let h ← header data i
    let (part, next) ← match unpack data h.start with
      | .ok found => pure found
      | .error .ends => throw .ends
      | .error .wrong => throw .wrongData
    match numberAt? data 4 next, numberAt? data 4 (next + 4) with
    | some sum, some size =>
      if sum ≠ (Digest.Checksum.lowCrc part).toNat then throw .wrongSum
      if size ≠ part.size % Nat.pow 2 32 then throw .wrongLength
      let next := next + 8
      let out := out ++ part
      if data.size ≤ next then return ⟨out, false⟩
      else if startsMember data next then members data n next out
      else
        let rest := data.extract next data.size
        return ⟨out, !rest.data.all (· == 0)⟩
    | _, _ => throw .ends

/-- unpack a file -/
def unpackFile (data : ByteArray) : Except Fault Unpacked := members data (data.size + 1) 0 .empty

/-! ## gzip -/

/-- what `gzip` is told to do -/
structure Rules where
  unpacks : Bool
  toOutput : Bool
  isForced : Bool
  keeps : Bool
  tests : Bool
  lists : Bool
  isQuiet : Bool
  isVerbose : Bool
  isRecursive : Bool
  namesFiles : Bool
  usesNames : Bool
  suffix : String
  level : Nat

/-- codes: a warning is worse than nothing, and an error is worse than a warning -/
def worse (a b : Nat) : Nat := if a = 1 || b = 1 then 1 else max a b

/-- warn of something -/
def Rules.warn (r : Rules) (message : String) : Activity Nat := do
  if !r.isQuiet then
    discard flush
    tell (message ++ "\n")
  return 2

/-- endings of packed files, with what takes their place -/
def Rules.endings (r : Rules) : List (String × String) :=
  [(r.suffix, ""), (".gz", ""), (".z", ""), (".taz", ".tar"), (".tgz", ".tar"), ("-gz", ""), ("-z", ""),
    ("_z", ""), (".Z", "")]

/-- the name of the unpacked file -/
def Rules.plainName? (r : Rules) (path : String) : Option String :=
  r.endings.findSome? fun (ending, replacement) =>
    let cs := path.toList
    let start := cs.take (cs.length - ending.length)
    if ending ≠ "" && ending.toList.isSuffixOf cs && !start.isEmpty && start.getLast? ≠ some '/' then
      some (String.ofList start ++ replacement)
    else none

/-- a share of a whole in percent, with one digit after the point -/
def ratioText (saved whole : Int) : String :=
  let tenths : Int := if whole = 0 then 0 else
    let n := saved * 2000 + whole * (if saved < 0 then -1 else 1)
    n.tdiv (2 * whole)
  let digits := toString (tenths.natAbs / 10) ++ "." ++ toString (tenths.natAbs % 10)
  padLeft 5 ((if tenths < 0 then "-" else "") ++ digits) ++ "%"

/-- print what a packed file holds -/
def Rules.listFile (r : Rules) (isFirst : Bool) (name : String) (data : ByteArray) : Activity (Option (Nat × Nat)) := do
  match header data 0 with
  | .error f =>
    discard flush
    tell (f.message name)
    return none
  | .ok h =>
    let size := (numberAt? data 4 (data.size - 4)).getD 0
    if isFirst && !r.isQuiet then
      Tool.say "         compressed        uncompressed  ratio uncompressed_name\n"
    let plain := (r.plainName? name).getD name
    let inside := data.size - h.start - 8
    Tool.say (padLeft 19 (toString data.size) ++ " " ++ padLeft 19 (toString size) ++ " " ++
      ratioText ((size : Int) - inside) size ++ " " ++ plain ++ "\n")
    return some (data.size, size)

/-- write what comes of a file, under a name of its own -/
def Rules.replace (r : Rules) (path target : String) (content : ByteArray) (saved whole : Int) :
    Activity Nat := do
  let d ← disk
  if d.isThere target && !r.isForced then
    discard flush
    if !r.isQuiet then tell s!"gzip: {target} already exists;\tnot overwritten\n"
    return 2
  match d.stat path with
  | .error f =>
    Tool.complain "gzip" s!"{path}: {f.message}"
    return 1
  | .ok (source, node) =>
    let d := match d.resolve false target with
      | .ok l => if d.isThere target then d.drop l else d
      | .error _ => d
    match d.create (d.modeOf node) target with
    | .error f =>
      Tool.complain "gzip" s!"{target}: {f.message}"
      return 1
    | .ok (d, new) =>
      let d := match new with
        | .file n => d.setContent n content.toList
        | _ => d
      let d := match d.resolve true target with
        | .ok l => d.setModified l (d.modifiedOf node)
        | .error _ => d
      let removed := if r.keeps then .ok d else d.remove source
      match removed with
      | .ok d => setDisk d
      | .error _ => setDisk d
      if r.isVerbose then
        discard flush
        tell (path ++ ":\t" ++ ratioText saved whole ++ " --")
      return 0

/-- pack or unpack data; the outcome is what comes of it -/
def Rules.convert (r : Rules) (name : String) (title : Option String) (seconds : Nat) (data : ByteArray) :
    Activity (Except Nat ByteArray) := do
  if !r.unpacks then
    return .ok (member r.level (if r.namesFiles then title else none) (if r.namesFiles then seconds else 0) data)
  match unpackFile data with
  | .ok found =>
    if found.hasRubbish then
      let code ← r.warn s!"\ngzip: {name}: decompression OK, trailing garbage ignored"
      if r.toOutput && !r.tests then Tool.out (charsOf found.data)
      if r.toOutput || r.tests then return .error code
    return .ok found.data
  | .error f =>
    if f = .noFormat && r.isForced && r.toOutput then return .ok data
    discard flush
    tell (f.message name)
    return .error 1

/-- the time of a file in seconds -/
def secondsOf (d : Disk) (node : DiskNode) : Nat := d.modifiedOf node / 1000000000

/-- treat the standard input -/
def Rules.treatInput (r : Rules) : Activity Nat := do
  let seconds ← match ← streamOf 0 with
    | some (_, .file n _ _) => do
      let d ← disk
      pure (secondsOf d (.file n))
    | _ => pure 0
  match ← readAll 0 with
  | .error f => refuse "gzip" s!"stdin: {f.message}" 1
  | .ok cs =>
    let data := bytesOf cs
    if r.lists then
      match ← r.listFile true "stdin" data with
      | some _ => return 0
      | none => return 1
    match ← { r with toOutput := true }.convert "stdin" none seconds data with
    | .error code => return code
    | .ok out =>
      if !r.tests then Tool.out (charsOf out)
      return 0

/-- treat a regular file -/
def Rules.treatFile (r : Rules) (path : String) (node : DiskNode) (content : Text.Bytes) : Activity Nat := do
  let data : ByteArray := ⟨content.toArray⟩
  let title := baseOf path
  let d ← disk
  if r.tests then
    match ← r.convert path none 0 data with
    | .ok _ => return 0
    | .error code => return code
  if r.toOutput then
    match ← r.convert path (some title) (secondsOf d node) data with
    | .ok out =>
      Tool.out (charsOf out)
      return 0
    | .error code => return code
  let target? := if r.unpacks then
      match r.plainName? path, header data 0 with
      | some plain, .ok h =>
        match h.name with
        | some name => if r.usesNames then some (entryPath (dirOf path) (baseOf name)) else some plain
        | none => some plain
      | plain, _ => plain
    else some (path ++ r.suffix)
  match target? with
  | none =>
    if r.isVerbose || !(r.isRecursive || r.isQuiet) then r.warn s!"gzip: {path}: unknown suffix -- ignored"
    else return 0
  | some target =>
    let isPacked := (r.plainName? path).isSome
    if !r.unpacks && isPacked && !r.isForced then
      let ending := (r.endings.find? fun (e, _) => e ≠ "" && e.toList.isSuffixOf path.toList).map (·.1)
      let shownEnding := ending.getD ""
      if r.isVerbose || !r.isRecursive then
        discard (r.warn s!"gzip: {path} already has {shownEnding} suffix -- unchanged")
      return 0
    match node with
    | .file n =>
      let links := d.linkCount n
      if 1 < links && !r.isForced then
        let others := links - 1
        let plural := if others = 1 then "" else "s"
        return ← r.warn s!"gzip: {path} has {others} other link{plural} -- file ignored"
    | _ => pure ()
    match r.unpacks, header data 0 with
    | true, .error f =>
      discard flush
      tell (f.message path)
      return 1
    | _, _ => pure ()
    if (← disk).isThere target && !r.isForced then
      return ← r.replace path target .empty 0 0
    match ← r.convert path (some title) (secondsOf d node) data with
    | .error code => return code
    | .ok out =>
      let (packed, plain) := if r.unpacks then (data.size, out.size) else (out.size, data.size)
      let overhead := if r.unpacks then ((header data 0).toOption.map fun h => h.start + 8).getD 18
        else if r.namesFiles then 18 + title.length + 1 else 18
      let code ← r.replace path target out ((plain : Int) - (packed - overhead)) plain
      if r.isVerbose && code = 0 then
        let verb := if r.keeps then "created" else "replaced with"
        tell s!" {verb} {target}\n"
      return code

mutual

/-- treat what an operand names, down to `n` levels -/
def Rules.treat (r : Rules) : Nat → String → Activity Nat
  | 0, _ => return 0
  | n + 1, path => do
    if path = "-" then return ← r.treatInput
    let d ← disk
    let found := if r.toOutput || r.isForced then d.stat path else d.linkStat path
    match found with
    | .error .missing =>
      if r.unpacks && (r.plainName? path).isNone && (d.stat (path ++ r.suffix)).isOk then
        return ← r.treat n (path ++ r.suffix)
      let named := if r.unpacks && (r.plainName? path).isNone then path ++ r.suffix else path
      refuse "gzip" s!"{named}: No such file or directory" 1
    | .error f => refuse "gzip" s!"{path}: {f.message}" 1
    | .ok (_, .dir _ _) =>
      if !r.isRecursive then return ← r.warn s!"gzip: {path} is a directory -- ignored"
      match d.list path with
      | .error f => refuse "gzip" s!"{path}: {f.message}" 1
      | .ok names => r.treatAll n (names.map (entryPath path))
    | .ok (_, .link _ _) =>
      refuse "gzip" s!"{path}: Too many levels of symbolic links" 1
    | .ok (l, .file k) =>
      if !d.allows l Disk.reading then return ← refuse "gzip" s!"{path}: Permission denied" 1
      r.treatFile path (.file k) (d.file k).content
    | .ok _ => r.warn s!"gzip: {path} is not a directory or a regular file - ignored"
termination_by structural n => n

def Rules.treatAll (r : Rules) : Nat → List String → Activity Nat
  | 0, _ => return 0
  | n + 1, paths => do
    match paths with
    | [] => return 0
    | path :: rest =>
      let code ← r.treat n path
      return worse code (← r.treatAll n rest)
termination_by structural n => n

end

/-- list packed files -/
def Rules.listAll (r : Rules) (paths : List String) : Activity Nat := do
  let mut code := 0
  let mut isFirst := true
  let mut sums : Nat × Nat := (0, 0)
  for path in paths do
    let d ← disk
    let found : Except DiskFault Text.Bytes := match d.read path with
      | .ok content => .ok content
      | .error .missing => if (r.plainName? path).isNone then d.read (path ++ r.suffix) else .error .missing
      | .error f => .error f
    match found with
    | .error f =>
      -- what was listed so far comes after this
      tell s!"gzip: {path}: {f.message}\n"
      code := worse code 1
    | .ok content =>
      match ← r.listFile isFirst path ⟨content.toArray⟩ with
      | some (a, b) =>
        isFirst := false
        sums := (sums.1 + a, sums.2 + b)
      | none => code := worse code 1
  if 1 < paths.length then
    Tool.say (padLeft 19 (toString sums.1) ++ " " ++ padLeft 19 (toString sums.2) ++ " " ++
      ratioText ((sums.2 : Int) - (sums.1 - 20)) sums.2 ++ " (totals)\n")
  return code

/-- pack or unpack, as the name of the program says -/
def work (always : List String) (args : List String) : Activity Nat := do
  let rules : OptionRules := .of "acdfhklnNqrtvV123456789" "SbZ" [("ascii", "a", .never),
    ("to-stdout", "c", .never), ("stdout", "c", .never), ("decompress", "d", .never),
    ("uncompress", "d", .never), ("force", "f", .never), ("help", "h", .never), ("keep", "k", .never),
    ("list", "l", .never), ("no-name", "n", .never), ("name", "N", .never), ("quiet", "q", .never),
    ("silent", "q", .never), ("recursive", "r", .never), ("suffix", "S", .always), ("test", "t", .never),
    ("verbose", "v", .never), ("fast", "1", .never), ("best", "9", .never), ("rsyncable", "R", .never),
    ("synchronous", "Y", .never)]
  match readOptions rules (always ++ args) with
  | .error p =>
    Tool.complain "gzip" p.message
    tell "Try \x60gzip --help' for more information.\n"
    return 1
  | .ok g =>
    let levels := g.options.filterMap fun (name, _) => name.toNat?
    let r : Rules := {
      unpacks := g.has "d" || g.has "t" || g.has "l"
      toOutput := g.has "c"
      isForced := g.has "f"
      keeps := g.has "k"
      tests := g.has "t"
      lists := g.has "l"
      isQuiet := g.has "q"
      isVerbose := g.has "v"
      isRecursive := g.has "r"
      namesFiles := g.last? ["n", "N"] ≠ some "n"
      usesNames := g.last? ["n", "N"] = some "N"
      suffix := (g.value? "S").getD ".gz"
      level := levels.getLastD 6 }
    let code ← if r.lists && !g.operands.isEmpty then r.listAll g.operands
      else r.treatAll 10000 (if g.operands.isEmpty then ["-"] else g.operands)
    return code

end Compression

def gzip (args : List String) : Activity Nat := Compression.work [] args

def gunzip (args : List String) : Activity Nat := Compression.work ["-d"] args

def zcat (args : List String) : Activity Nat := Compression.work ["-c", "-d"] args

end PatternBuild.Shell.Tool
