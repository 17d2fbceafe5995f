import PatternBuild.Digest
import PatternBuild.Shell.Tool.Quantity

/-!
# Sums: tools that print digests of files, and check them

A line names a file and its digest, in one of two forms.  With `--check` the lines of a file are read
back and compared with the digests of the files they name.
-/

namespace PatternBuild.Shell.Tool

namespace Sums

open Activity Digest

/-- a digest that tools print -/
structure Algorithm where
  /-- the name in lines that tell the algorithm -/
  tag : String
  /-- the number of bytes, and whether there may be fewer -/
  size : Nat
  isVariable : Bool
  digest : Nat → List UInt8 → List UInt8

def md5 : Algorithm := ⟨"MD5", 16, false, fun _ => Md5.digest⟩
def sha1 : Algorithm := ⟨"SHA1", 20, false, fun _ => Sha1.digest⟩
def sha224 : Algorithm := ⟨"SHA224", 28, false, fun _ => Sha2.digest .sha224⟩
def sha256 : Algorithm := ⟨"SHA256", 32, false, fun _ => Sha2.digest .sha256⟩
def sha384 : Algorithm := ⟨"SHA384", 48, false, fun _ => Sha2.digest .sha384⟩
def sha512 : Algorithm := ⟨"SHA512", 64, false, fun _ => Sha2.digest .sha512⟩
def blake2b : Algorithm := ⟨"BLAKE2b", 64, true, Blake2.digest⟩

/-- the algorithms by the names that `cksum` takes -/
def algorithm? : String → Option Algorithm
  | "md5" => some md5
  | "sha1" => some sha1
  | "sha224" => some sha224
  | "sha256" => some sha256
  | "sha384" => some sha384
  | "sha512" => some sha512
  | "blake2b" => some blake2b
  | _ => none

def allAlgorithms : List Algorithm := [md5, sha1, sha224, sha256, sha384, sha512, blake2b]

/-! ## lines -/

/-- a file name with escapes for what would break a line -/
def escapedName (name : String) : List Char :=
  name.toList.flatMap fun c =>
    if c == '\\' then ['\\', '\\'] else if c == '\n' then ['\\', 'n']
    else if c == '\r' then ['\\', 'r'] else [c]

def needsEscape (name : String) : Bool := name.toList.any fun c => c == '\\' || c == '\n' || c == '\r'

/-- a name as it is written in a line, with the mark for escapes in front of the whole line -/
def escapeMark (name : String) : List Char := if needsEscape name then ['\\'] else []

/-- the name that escapes write -/
def unescapedName : List Char → Option (List Char)
  | '\\' :: 'n' :: cs => (unescapedName cs).map ('\n' :: ·)
  | '\\' :: 'r' :: cs => (unescapedName cs).map ('\r' :: ·)
  | '\\' :: '\\' :: cs => (unescapedName cs).map ('\\' :: ·)
  | '\\' :: _ => none
  | c :: cs => (unescapedName cs).map (c :: ·)
  | [] => some []

/-- how digests are printed -/
structure LineStyle where
  isTagged : Bool
  isBinary : Bool
  endsZero : Bool

/-- the line for a file -/
def lineFor (a : Algorithm) (size : Nat) (s : LineStyle) (name digest : String) : List Char :=
  let mark := if s.endsZero then [] else escapeMark name
  let shownName := if s.endsZero then name.toList else escapedName name
  let ending := if s.endsZero then '\x00' else '\n'
  if s.isTagged then
    let tag := if size = a.size then a.tag else a.tag ++ "-" ++ toString (8 * size)
    mark ++ tag.toList ++ " (".toList ++ shownName ++ ") = ".toList ++ digest.toList ++ [ending]
  else
    mark ++ digest.toList ++ [' ', if s.isBinary then '*' else ' '] ++ shownName ++ [ending]

/-- what a line of a list says: the algorithm with its size, the file and the digest -/
structure Listed where
  algorithm : Algorithm
  size : Nat
  name : String
  digest : String

/-- read a line without an algorithm -/
def readPlain (a : Algorithm) (size : Option Nat) (cs : List Char) : Option (Nat × List Char × List Char) :=
  let digits := cs.takeWhile isHexDigit
  let count := digits.length / 2
  let isRight := digits.length % 2 = 0 && match size with
    | some n => count = n
    | none => if a.isVariable then 0 < count && count ≤ a.size else count = a.size
  if !isRight then none
  else
    match cs.drop digits.length with
    | ' ' :: ' ' :: name => some (count, name, digits)
    | ' ' :: '*' :: name => some (count, name, digits)
    | ' ' :: name => some (count, name, digits)
    | '\t' :: name => some (count, name, digits)
    | _ => none

/-- read a line that names its algorithm -/
def readTagged (known : List Algorithm) (cs : List Char) :
    Option (Algorithm × Nat × List Char × List Char) := do
  let a ← known.find? fun a => a.tag.toList.isPrefixOf cs &&
    (cs.drop a.tag.length).head?.any fun c => c == ' ' || (a.isVariable && c == '-') || c == '('
  let rest := cs.drop a.tag.length
  let (size, rest) := match rest with
    | '-' :: rest =>
      let digits := rest.takeWhile Char.isDigit
      (((numeral? 10 digits).getD 0) / 8, rest.drop digits.length)
    | rest => (a.size, rest)
  let rest := rest.dropWhile (· == ' ')
  match rest with
  | '(' :: rest =>
    -- the name ends with the last closing parenthesis
    let behind := (rest.reverse.takeWhile (· ≠ ')')).reverse
    let name := rest.take (rest.length - behind.length - 1)
    let value := behind.dropWhile (· == ' ')
    match value with
    | '=' :: value =>
      let digits := value.dropWhile (· == ' ')
      if digits.length = 2 * size && digits.all isHexDigit && behind.length < rest.length then
        some (a, size, name, digits)
      else none
    | _ => none
  | _ => none

/-- read a line of a list; `given` is the algorithm if there is only one -/
def readListed (given : Option Algorithm) (size : Option Nat) (cs : List Char) : Option Listed := do
  let (isEscaped, cs) := match cs with
    | '\\' :: cs => (true, cs)
    | cs => (false, cs)
  let (a, n, name, digits) ← (readTagged (match given with
      | some a => [a]
      | none => allAlgorithms) cs).orElse fun _ => do
    let a ← given
    let (n, name, digits) ← readPlain a size cs
    return (a, n, name, digits)
  let name ← if isEscaped then unescapedName name else some name
  return ⟨a, n, String.ofList name, String.ofList (digits.map Char.toLower)⟩

/-! ## checking -/

/-- how lists are checked -/
structure CheckStyle where
  isQuiet : Bool
  isSilent : Bool
  ignoresMissing : Bool
  isStrict : Bool
  warns : Bool

/-- what a check has found so far -/
structure Tally where
  proper : Nat
  misformed : Nat
  unreadable : Nat
  failed : Nat
  matched : Nat

/-- the digest of what a name leads to -/
def digestOf (a : Algorithm) (size : Nat) (name : String) : Activity (Except DiskFault String) := do
  match ← contentOf name with
  | .error f => return .error f
  | .ok cs => return .ok (hexText (a.digest size (Text.toBytes cs)))

/-- check one line of a list -/
def checkLine (program : String) (given : Option Algorithm) (size : Option Nat) (s : CheckStyle)
    (list : String) (number : Nat) (line : List Char) (t : Tally) : Activity Tally := do
  let line := if line.getLast? == some '\r' then line.dropLast else line
  if line.isEmpty || line.head? == some '#' then return t
  -- a list that comes in cannot name what comes in
  match (readListed given size line).filter fun l => list ≠ "standard input" || l.name ≠ "-" with
  | none =>
    if s.warns then
      let tag := (given.map (·.tag)).getD "CRC"
      Tool.complain program s!"{shown list}: {number}: improperly formatted {tag} checksum line"
    return { t with misformed := t.misformed + 1 }
  | some l =>
    let t := { t with proper := t.proper + 1 }
    let report (verdict : String) : Activity Unit :=
      Tool.out (escapeMark l.name ++ escapedName l.name ++ (": " ++ verdict ++ "\n").toList)
    match ← digestOf l.algorithm l.size l.name with
    | .error f =>
      if s.ignoresMissing && f = .missing then return t
      Tool.complain program s!"{shown l.name}: {f.message}"
      if !s.isSilent then report "FAILED open or read"
      return { t with unreadable := t.unreadable + 1 }
    | .ok digest =>
      if digest = l.digest then
        if !s.isSilent && !s.isQuiet then report "OK"
        return { t with matched := t.matched + 1 }
      if !s.isSilent then report "FAILED"
      return { t with failed := t.failed + 1 }

/-- check the lines of one list; whether all is well -/
def checkList (program : String) (given : Option Algorithm) (size : Option Nat) (s : CheckStyle)
    (path : String) : Activity Bool := do
  let list := if path = "-" then "standard input" else path
  match ← contentOf path with
  | .error f =>
    Tool.complain program s!"{shown list}: {f.message}"
    return false
  | .ok cs =>
    let mut t : Tally := ⟨0, 0, 0, 0, 0⟩
    for (line, k) in (linesOf cs).zipIdx do
      t ← checkLine program given size s list (k + 1) line t
    if t.proper = 0 then
      Tool.complain program s!"{shown list}: no properly formatted checksum lines found"
    else if !s.isSilent then
      let warn (n : Nat) (one many : String) : Activity Unit := do
        if n ≠ 0 then Tool.complain program s!"WARNING: {n} {if n = 1 then one else many}"
      warn t.misformed "line is improperly formatted" "lines are improperly formatted"
      warn t.unreadable "listed file could not be read" "listed files could not be read"
      warn t.failed "computed checksum did NOT match" "computed checksums did NOT match"
      if s.ignoresMissing && t.matched = 0 then
        Tool.complain program s!"{shown list}: no file was verified"
    return t.proper ≠ 0 && t.matched ≠ 0 && t.failed = 0 && t.unreadable = 0 &&
      (!s.isStrict || t.misformed = 0)

/-! ## programs -/

/-- the options that tools with digests share -/
def options (more : String) : OptionRules :=
  .of "bctwz" more [("binary", "b", .never), ("check", "c", .never), ("tag", "tag", .never),
    ("text", "t", .never), ("zero", "z", .never), ("ignore-missing", "ignore-missing", .never),
    ("quiet", "quiet", .never), ("status", "status", .never), ("strict", "strict", .never),
    ("warn", "w", .never), ("length", "l", .always), ("algorithm", "a", .always),
    ("untagged", "untagged", .never), ("raw", "raw", .never)]

/-- print the digests of operands -/
def printAll (program : String) (a : Algorithm) (size : Nat) (s : LineStyle) (operands : List String) :
    Activity Nat := do
  let mut code := 0
  for path in if operands.isEmpty then ["-"] else operands do
    match ← digestOf a size path with
    | .ok digest => Tool.out (lineFor a size s path digest)
    | .error f =>
      Tool.complain program s!"{shown path}: {f.message}"
      code := 1
  return code

/-- check or print, as the options say -/
def work (program : String) (given : Option Algorithm) (isTagged : Bool) (g : Given) : Activity Nat := do
  let length? := (g.value? "l").bind String.toNat?
  let size? := (length?.filter (· ≠ 0)).map (· / 8)
  if g.has "c" then
    let s : CheckStyle := ⟨g.has "quiet", g.has "status", g.has "ignore-missing", g.has "strict", g.has "w"⟩
    let mut isWell := true
    for path in if g.operands.isEmpty then ["-"] else g.operands do
      if !(← checkList program given size? s path) then isWell := false
    return if isWell then 0 else 1
  for name in ["ignore-missing", "quiet", "status", "strict"] do
    if g.has name then
      let option := "--" ++ name
      return ← misuse program s!"the {option} option is meaningful only when verifying checksums" 1
  match given with
  | none => return 1
  | some a =>
    let length := quoted (g.valueOf "l")
    if length?.any fun n => n % 8 ≠ 0 then
      Tool.complain program s!"invalid length: {length}"
      return ← refuse program "length is not a multiple of 8" 1
    if size?.any (a.size < ·) then
      Tool.complain program s!"invalid length: {length}"
      return ← refuse program s!"maximum digest length for {quoted a.tag} is {8 * a.size} bits" 1
    printAll program a (size?.getD a.size) ⟨isTagged, g.has "b" && !isTagged, g.has "z"⟩ g.operands

end Sums

open Activity Sums

/-- a tool for one kind of digest -/
def digestTool (program : String) (a : Algorithm) (args : List String) : Activity Nat :=
  withOptions program (Sums.options (if a.isVariable then "l" else "")) 1 args fun g =>
    Sums.work program (some a) (g.has "tag") g

/-- print a sum and the number of blocks of operands -/
def blockSums (program : String) (isTurned : Bool) (operands : List String) : Activity Nat := do
  let mut code := 0
  for path in if operands.isEmpty then ["-"] else operands do
    match ← contentOf path with
    | .error f =>
      Tool.complain program s!"{shown path}: {f.message}"
      code := 1
    | .ok cs =>
      let message := Text.toBytes cs
      let name := if operands.isEmpty then "" else " " ++ path
      if isTurned then
        let digits := toString (Digest.Checksum.turned message)
        let padded := String.ofList (List.replicate (5 - digits.length) '0') ++ digits
        Tool.say s!"{padded} {padLeft 5 (toString ((message.length + 1023) / 1024))}{name}\n"
      else
        Tool.say s!"{Digest.Checksum.plain message} {(message.length + 511) / 512}{name}\n"
  return code

def sum (args : List String) : Activity Nat :=
  withOptions "sum" (.of "rs" "" [("sysv", "s", .never)]) 1 args fun g =>
    blockSums "sum" (g.last? ["r", "s"] ≠ some "s") g.operands

/-- print the checksum and the size of operands -/
def printChecksums (endsZero : Bool) (operands : List String) : Activity Nat := do
  let mut code := 0
  for path in if operands.isEmpty then ["-"] else operands do
    match ← contentOf path with
    | .error f =>
      Tool.complain "cksum" s!"{shown path}: {f.message}"
      code := 1
    | .ok cs =>
      let message := Text.toBytes cs
      let name := if operands.isEmpty then "" else " " ++ path
      Tool.say s!"{Digest.Checksum.crc message} {message.length}{name}"
      Tool.out [if endsZero then '\x00' else '\n']
  return code

def cksum (args : List String) : Activity Nat :=
  withOptions "cksum" (Sums.options "al") 1 args fun g => do
    match g.value? "a" with
    | none =>
      if g.has "c" then Sums.work "cksum" none true g else printChecksums (g.has "z") g.operands
    | some name =>
      match Sums.algorithm? name with
      | some a => Sums.work "cksum" (some a) (!g.has "untagged") g
      | none =>
        if g.has "c" && ["bsd", "sysv", "crc"].contains name then
          Tool.complain "cksum" "--check is not supported with --algorithm=\x7bbsd,sysv,crc\x7d"
          return 1
        match name with
        | "crc" => printChecksums (g.has "z") g.operands
        | "bsd" => blockSums "cksum" true g.operands
        | "sysv" => blockSums "cksum" false g.operands
        | _ =>
          Tool.complain "cksum" s!"invalid argument {cited name} for '--algorithm'"
          let names := ["bsd", "sysv", "crc", "md5", "sha1", "sha224", "sha256", "sha384", "sha512",
            "blake2b", "sm3"]
          tell ("Valid arguments are:\n" ++ "".intercalate (names.map fun n => "  - '" ++ n ++ "'\n"))
          tryHelp "cksum"
          return 1

end PatternBuild.Shell.Tool
