import PatternBuild.Shell.Decimal
import PatternBuild.Shell.Tool.Quantity

/-!
# Transfers: octets copied in blocks

`dd` copies from one place to another in blocks of given sizes, from a position on and so many of
them, and may convert what it copies.
-/

namespace PatternBuild.Shell.Tool

open Activity Text

/-! ## operands -/

/-- an amount of octets, as whole blocks and some octets after them -/
structure Amount where
  blocks : Nat
  octets : Nat

/-- what a transfer is told to do -/
structure Transfer where
  input : Option String
  output : Option String
  inputBlock : Nat
  outputBlock : Nat
  /-- the size of both kinds of blocks, if it is given at once -/
  block : Option Nat
  /-- the length of records, if there are any -/
  recordSize : Nat
  skipped : String
  sought : String
  count : Option String
  conversions : List String
  inputFlags : List String
  outputFlags : List String
  /-- how much is told in the end -/
  level : String

def Transfer.start : Transfer :=
  ⟨none, none, 512, 512, none, 0, "0", "0", none, [], [], [], "default"⟩

/-- why operands make no sense -/
inductive TransferProblem where
  | unknown (operand : String)
  | badNumber (text : String)
  | badWord (kind text : String)
  | tooLarge (text : String)
  | clash (names : String)
  | badOption (p : OptionProblem)

def TransferProblem.message : TransferProblem → String
  | .unknown operand => s!"unrecognized operand {cited operand}"
  | .badNumber text => s!"invalid number: {cited text}"
  | .badWord kind text => s!"invalid {kind}: {cited text}"
  | .tooLarge text => s!"invalid number: {cited text}: Value too large for defined data type"
  | .clash names => s!"cannot combine {names}"
  | .badOption p => p.message

/-- whether a hint at the help follows -/
def TransferProblem.hints : TransferProblem → Bool
  | .unknown _ => true
  | .badWord _ _ => true
  | .badOption _ => true
  | _ => false

/-- the factor that letters stand for, and what follows them -/
def transferFactor (cs : List Char) : Nat × List Char :=
  let powers := "KMGTPEZY".toList
  match cs with
  | 'c' :: rest => (1, rest)
  | 'w' :: rest => (2, rest)
  | 'b' :: rest => (512, rest)
  | c :: rest =>
    match powers.idxOf? (if c == 'k' then 'K' else c), rest with
    | some i, 'i' :: 'B' :: rest => (Nat.pow 1024 (i + 1), rest)
    | some i, 'B' :: rest => (Nat.pow 1000 (i + 1), rest)
    | some i, 'D' :: rest => (Nat.pow 1000 (i + 1), rest)
    | some i, rest => (Nat.pow 1024 (i + 1), rest)
    | none, _ => (1, cs)
  | [] => (1, [])

/-- a number with letters that multiply it, or a product of such numbers -/
def transferNumber? : Nat → List Char → Option Nat
  | 0, _ => none
  | n + 1, cs => do
    let cs := cs.dropWhile isSpaceLetter
    let cs := if cs.head? == some '+' then cs.drop 1 else cs
    let digits := cs.takeWhile Char.isDigit
    let (factor, rest) := transferFactor (cs.drop digits.length)
    let k ← if digits.isEmpty then (if rest.length < cs.length then some 1 else none)
      else numeral? 10 digits
    let rest := match rest with
      | 'B' :: rest => if cs[cs.length - rest.length - 2]? == some 'B' then 'B' :: rest else rest
      | rest => rest
    match rest with
    | [] => return k * factor
    | 'x' :: rest => return k * factor * (← transferNumber? n rest)
    | _ => none
where
  /-- characters that may stand in front of a number -/
  isSpaceLetter (c : Char) : Bool := c == ' ' || (9 ≤ c.toNat && c.toNat ≤ 13)

/-- the largest number of an operand -/
def transferLimit : Nat := 9223372036854775807

/-- the number that an operand gives, which is not less than another one -/
def transferOperand (least : Nat) (text : String) : Except TransferProblem Nat :=
  match transferNumber? (text.length + 1) text.toList with
  | none => .error (.badNumber text)
  | some n =>
    if n < least then .error (.badNumber text)
    else if transferLimit < n then .error (.tooLarge text) else .ok n

def conversionNames : List String :=
  ["ascii", "ebcdic", "ibm", "block", "unblock", "lcase", "ucase", "sparse", "swab", "noerror",
    "nocreat", "excl", "notrunc", "sync", "fdatasync", "fsync"]

def flagNames : List String :=
  ["append", "binary", "count_bytes", "direct", "directory", "dsync", "fullblock", "noatime", "nocache",
    "noctty", "nofollow", "nolinks", "nonblock", "skip_bytes", "seek_bytes", "sync", "text"]

/-- words with commas between them, all of which must be known -/
def wordsAmong (kind : String) (known : List String) (text : String) :
    Except TransferProblem (List String) :=
  let words := text.splitOn ","
  match words.find? fun w => !known.contains w with
  | some w => .error (.badWord kind w)
  | none => .ok words

/-- take in an operand -/
def Transfer.take (t : Transfer) (operand : String) : Except TransferProblem Transfer := do
  match splitAt? '=' operand.toList with
  | (_, none) => throw (.unknown operand)
  | (name, some value) =>
    let value := String.ofList value
    match String.ofList name with
    | "if" => return { t with input := some value }
    | "of" => return { t with output := some value }
    | "ibs" => return { t with inputBlock := ← transferOperand 1 value }
    | "obs" => return { t with outputBlock := ← transferOperand 1 value }
    | "bs" => return { t with block := some (← transferOperand 1 value) }
    | "cbs" => return { t with recordSize := ← transferOperand 1 value }
    | "skip" | "iseek" =>
      discard (transferOperand 0 value)
      return { t with skipped := value }
    | "seek" | "oseek" =>
      discard (transferOperand 0 value)
      return { t with sought := value }
    | "count" =>
      discard (transferOperand 0 value)
      return { t with count := some value }
    | "conv" => return { t with conversions := t.conversions ++ (← wordsAmong "conversion" conversionNames value) }
    | "iflag" => return { t with inputFlags := t.inputFlags ++ (← wordsAmong "input flag" flagNames value) }
    | "oflag" =>
      let names := flagNames.filter (· ≠ "fullblock")
      return { t with outputFlags := t.outputFlags ++ (← wordsAmong "output flag" names value) }
    | "status" =>
      if ["none", "noxfer", "progress", "default"].contains value then return { t with level := value }
      else throw (.badWord "status level" value)
    | _ => throw (.unknown operand)

/-- the conversions that exclude each other -/
def clashes : List (List String × String) :=
  [(["ascii", "ebcdic", "ibm"], "any two of \x7bascii,ebcdic,ibm\x7d"), (["block", "unblock"], "block and unblock"),
    (["lcase", "ucase"], "lcase and ucase"), (["excl", "nocreat"], "excl and nocreat")]

/-- read the operands of a transfer -/
def Transfer.ofArgs (args : List String) : Except TransferProblem Transfer := do
  let g ← match readOptions ⟨"", "", [], true⟩ args with
    | .ok g => pure g
    | .error p => throw (.badOption p)
  let t ← g.operands.foldlM Transfer.take .start
  match clashes.find? fun (names, _) => 1 < (names.filter t.conversions.contains).length with
  | some (_, text) => throw (.clash text)
  | none => pure ()
  return match t.block with
    | some n => { t with inputBlock := n, outputBlock := n }
    | none => t

namespace Transfer

def converts (t : Transfer) (name : String) : Bool := t.conversions.contains name

/-- the records of a length are filled up with blanks, or freed of them -/
def fillsRecords (t : Transfer) : Bool :=
  t.recordSize ≠ 0 && (t.converts "block" || t.converts "ebcdic" || t.converts "ibm")
def freesRecords (t : Transfer) : Bool :=
  t.recordSize ≠ 0 && (t.converts "unblock" || t.converts "ascii")

/-- whether blocks are written as they are read -/
def isDirect (t : Transfer) : Bool :=
  t.block.isSome && !t.conversions.any
    ["ascii", "ebcdic", "ibm", "block", "unblock", "lcase", "ucase", "swab"].contains

/-- an amount that is given in blocks, or in octets if its text says so -/
def amount (text : String) (inOctets : Bool) (size : Nat) : Amount :=
  let n := (transferNumber? (text.length + 1) text.toList).getD 0
  if inOctets || text.contains 'B' then ⟨n / size, n % size⟩ else ⟨n, 0⟩

def skip (t : Transfer) : Amount :=
  amount t.skipped (t.inputFlags.contains "skip_bytes") t.inputBlock
def seek (t : Transfer) : Amount :=
  amount t.sought (t.outputFlags.contains "seek_bytes") t.outputBlock
def limit? (t : Transfer) : Option Amount :=
  t.count.map fun text => amount text (t.inputFlags.contains "count_bytes") t.inputBlock

def inputName (t : Transfer) : String := t.input.getD "standard input"
def outputName (t : Transfer) : String := t.output.getD "standard output"

end Transfer

/-! ## conversions -/

/-- the octets that digits write, each with two of them -/
def octetsOfHex : List Char → List Char
  | a :: b :: rest => octetOf ((digitValue? a).getD 0 * 16 + (digitValue? b).getD 0) :: octetsOfHex rest
  | _ => []

/-- characters of the code of big machines in the usual code, by their numbers -/
def fromWide : Array Char := (octetsOfHex
  ("000102039c09867f978d8e0b0c0d0e0f101112139d8508871819928f1c1d1e1f80818283840a171b88898a8b" ++
    "8c050607909116939495960498999a9b14159e1a20a0a1a2a3a4a5a6a7a8d52e3c282b7c26a9aaabacadaeaf" ++
    "b0b121242a293b7e2d2fb2b3b4b5b6b7b8b9cb2c255f3e3fbabbbcbdbebfc0c1c2603a2340273d22c3616263" ++
    "646566676869c4c5c6c7c8c9ca6a6b6c6d6e6f7071725ecccdcecfd0d1e5737475767778797ad2d3d45bd6d7" ++
    "d8d9dadbdcdddedfe0e1e2e3e45de6e77b414243444546474849e8e9eaebeced7d4a4b4c4d4e4f505152eeef" ++
    "f0f1f2f35c9f535455565758595af4f5f6f7f8f930313233343536373839fafbfcfdfeff").toList).toArray

/-- usual characters in the code of big machines -/
def toWide : Array Char := (octetsOfHex
  ("00010203372d2e2f1605250b0c0d0e0f101112133c3d322618193f271c1d1e1f405a7f7b5b6c507d4d5d5c4e" ++
    "6b604b61f0f1f2f3f4f5f6f7f8f97a5e4c7e6e6f7cc1c2c3c4c5c6c7c8c9d1d2d3d4d5d6d7d8d9e2e3e4e5e6" ++
    "e7e8e9ade0bd9a6d79818283848586878889919293949596979899a2a3a4a5a6a7a8a9c04fd05f0720212223" ++
    "2415061728292a2b2c090a1b30311a333435360838393a3b04143ee141424344454647484951525354555657" ++
    "58596263646566676869707172737475767778808a8b8c8d8e8f906a9b9c9d9e9fa0aaabac4aaeafb0b1b2b3" ++
    "b4b5b6b7b8b9babbbca1bebfcacbcccdcecfdadbdcdddedfeaebecedeeeffafbfcfdfeff").toList).toArray

/-- usual characters in another form of that code -/
def toWideOther : Array Char := (octetsOfHex
  ("00010203372d2e2f1605250b0c0d0e0f101112133c3d322618193f271c1d1e1f405a7f7b5b6c507d4d5d5c4e" ++
    "6b604b61f0f1f2f3f4f5f6f7f8f97a5e4c7e6e6f7cc1c2c3c4c5c6c7c8c9d1d2d3d4d5d6d7d8d9e2e3e4e5e6" ++
    "e7e8e9ade0bd5f6d79818283848586878889919293949596979899a2a3a4a5a6a7a8a9c04fd0a10720212223" ++
    "2415061728292a2b2c090a1b30311a333435360838393a3b04143ee141424344454647484951525354555657" ++
    "58596263646566676869707172737475767778808a8b8c8d8e8f909a9b9c9d9e9fa0aaabacadaeafb0b1b2b3" ++
    "b4b5b6b7b8b9babbbcbdbebfcacbcccdcecfdadbdcdddedfeaebecedeeeffafbfcfdfeff").toList).toArray

/-- a character as it is converted -/
def Transfer.letter (t : Transfer) (c : Char) : Char :=
  let by_ (table : Array Char) (c : Char) : Char := (table[c.toNat]?).getD c
  let c := if t.converts "ascii" then by_ fromWide c else c
  let c := if t.converts "ucase" then c.toUpper else if t.converts "lcase" then c.toLower else c
  if t.converts "ebcdic" then by_ toWide c else if t.converts "ibm" then by_ toWideOther c else c

/-- the characters that end and fill records, after the conversion -/
def Transfer.lineEnd (t : Transfer) : Char :=
  if t.converts "ebcdic" || t.converts "ibm" then t.letter '\n' else '\n'
def Transfer.blank (t : Transfer) : Char :=
  if t.converts "ebcdic" || t.converts "ibm" then t.letter ' ' else ' '

/-- where a conversion stands -/
structure Conversion where
  /-- an octet that waits for the one with which it changes places -/
  single : Option Char
  /-- the position in the record, and blanks that wait for what follows them -/
  column : Nat
  blanks : Nat
  /-- records that were too long -/
  cut : Nat

def Conversion.start : Conversion := ⟨none, 0, 0, 0⟩

/-- let neighbours change places -/
def swapped : Option Char → List Char → Option Char × List Char
  | single, [] => (single, [])
  | none, c :: cs => swapped (some c) cs
  | some a, c :: cs =>
    let (single, rest) := swapped none cs
    (single, c :: a :: rest)

/-- fill lines up to records; the latest characters come first -/
def filled (t : Transfer) (s : Conversion) (out : List Char) (c : Char) : Conversion × List Char :=
  if c == t.lineEnd then
    ({ s with column := 0 }, List.replicate (t.recordSize - s.column) t.blank ++ out)
  else
    let s' := { s with column := s.column + 1 }
    if s.column < t.recordSize then (s', c :: out)
    else if s.column = t.recordSize then ({ s' with cut := s.cut + 1 }, out)
    else (s', out)

/-- make lines of records; the latest characters come first -/
def freed (t : Transfer) (s : Conversion) (out : List Char) (c : Char) : Conversion × List Char :=
  let (s, out) := if t.recordSize ≤ s.column then ({ s with column := 0, blanks := 0 }, t.lineEnd :: out)
    else (s, out)
  if c == t.blank then ({ s with column := s.column + 1, blanks := s.blanks + 1 }, out)
  else
    ({ s with column := s.column + 1, blanks := 0 }, c :: (List.replicate s.blanks t.blank ++ out))

/-- make records or lines, if that is asked for -/
def shaped (t : Transfer) (s : Conversion) (cs : List Char) : Conversion × List Char :=
  let step := if t.fillsRecords then some (filled t) else if t.freesRecords then some (freed t) else none
  match step with
  | none => (s, cs)
  | some step =>
    let (s, out) := cs.foldl (fun (s, out) c => step s out c) (s, [])
    (s, out.reverse)

/-- convert what was read -/
def Conversion.add (t : Transfer) (s : Conversion) (cs : List Char) : Conversion × List Char :=
  let cs := cs.map t.letter
  let (single, cs) := if t.converts "swab" then swapped s.single cs else (none, cs)
  shaped t { s with single } cs

/-- what is still to be written in the end -/
def Conversion.finish (t : Transfer) (s : Conversion) : Conversion × List Char :=
  let (s, last) := shaped t s s.single.toList
  let ending :=
    if t.fillsRecords && s.column ≠ 0 then List.replicate (t.recordSize - s.column) t.blank
    else if t.freesRecords && s.column ≠ 0 then [t.lineEnd] else []
  (s, last ++ ending)

/-! ## files -/

/-- lead the input to the file that is read; false if that fails -/
def Transfer.openInput (t : Transfer) : Activity Bool := do
  match t.input with
  | none => return true
  | some path =>
    match ← openToRead path with
    | .ok fd =>
      if fd ≠ 0 then
        match ← streamOf fd with
        | some (n, _) => setDescriptor 0 n
        | none => pure ()
        close fd
      return true
    | .error f =>
      Tool.complain "dd" s!"failed to open {quoted path}: {f.message}"
      return false

/-- octets cut or filled up to a size -/
def sizedTo (size : Nat) (octets : Bytes) : Bytes :=
  octets.take size ++ List.replicate (size - octets.length) 0

/-- lead the output to the file that is written, with what of it is kept; false if that fails -/
def Transfer.openOutput (t : Transfer) (start : Nat) : Activity Bool := do
  match t.output with
  | none => return true
  | some path =>
    let refuse (message : String) : Activity Bool := do
      Tool.complain "dd" s!"failed to open {quoted path}: {message}"
      return false
    let isThere := (← disk).isThere path
    if t.converts "excl" && isThere then return ← refuse "File exists"
    if t.converts "nocreat" && !isThere then return ← refuse "No such file or directory"
    match ← openToWrite path true with
    | .error f => refuse f.message
    | .ok fd =>
      match ← streamOf fd with
      | some (n, .file number _ _) =>
        if (descriptorPath? path).isNone then
          if !t.converts "notrunc" then
            let d ← disk
            setDisk ((← machine).disk.setContent number (sizedTo start (d.file number).content))
          setStream n (.file number 0 (t.outputFlags.contains "append"))
        setDescriptor 1 n
      | some (n, _) => setDescriptor 1 n
      | none => pure ()
      if fd ≠ 1 then close fd
      return true

/-! ## copying -/

/-- where a transfer stands -/
structure TransferState where
  full : Nat
  partly : Nat
  writtenFull : Nat
  writtenPartly : Nat
  octets : Nat
  conversion : Conversion
  /-- what is kept back until there is a whole block -/
  kept : List Char

def TransferState.start : TransferState := ⟨0, 0, 0, 0, 0, .start, []⟩

/-- read a block, which may be shorter than it could be -/
def Transfer.readBlock (t : Transfer) (size : Nat) : Nat → List Char → Activity (Except DiskFault (List Char))
  | 0, seen => return .ok seen
  | n + 1, seen => do
    match ← readAtMost 0 (size - seen.length) with
    | .error f => return .error f
    | .ok cs =>
      let all := seen ++ cs
      if cs.isEmpty || size ≤ all.length || !t.inputFlags.contains "fullblock" then return .ok all
      t.readBlock size n all

/-- write octets; those for a file may be kept back -/
def writeOn (cs : List Char) : Activity Bool := do
  Tool.out cs
  match ← streamOf 1 with
  | some (_, .file _ _ _) => return true
  | _ => flush

/-- write as many whole blocks as there are, or everything -/
def TransferState.write (t : Transfer) (s : TransferState) (cs : List Char) (writesAll : Bool) :
    Activity (TransferState × Bool) := do
  let all := s.kept ++ cs
  let full := all.length / t.outputBlock
  let part := if writesAll then all else all.take (full * t.outputBlock)
  let kept := all.drop part.length
  let isWritten ← if part.isEmpty then pure true else writeOn part
  if !isWritten then return ({ s with kept := [] }, false)
  return ({ s with
    kept
    writtenFull := s.writtenFull + full
    writtenPartly := s.writtenPartly + if full * t.outputBlock < part.length then 1 else 0
    octets := s.octets + part.length }, true)

/-- copy blocks until there are no more, or enough of them; false if something went wrong -/
def Transfer.copy (t : Transfer) : Nat → TransferState → Activity (TransferState × Bool)
  | 0, s => return (s, true)
  | n + 1, s => do
    let done := s.full + s.partly
    let size := match t.limit? with
      | none => t.inputBlock
      | some l =>
        if done < l.blocks then t.inputBlock else if done = l.blocks then l.octets else 0
    if size = 0 then return (s, true)
    match ← t.readBlock size endless [] with
    | .error f =>
      Tool.complain "dd" s!"error reading {quoted t.inputName}: {f.message}"
      return (s, false)
    | .ok [] => return (s, true)
    | .ok cs =>
      let isFull := t.inputBlock ≤ cs.length
      let s := if isFull then { s with full := s.full + 1 } else { s with partly := s.partly + 1 }
      let filling := if t.fillsRecords || t.freesRecords then ' ' else '\x00'
      let cs := if t.converts "sync" then cs ++ List.replicate (t.inputBlock - cs.length) filling else cs
      let (s, isWritten) ← if t.isDirect then s.write t cs true
        else do
          let (conversion, cs) := s.conversion.add t cs
          ({ s with conversion }).write t cs false
      if isWritten then t.copy n s else return (s, ← cannotWrite)
where
  cannotWrite : Activity Bool := do
    modifyOwn fun p => { p with kept := .none }
    Tool.complain "dd" s!"error writing {quoted t.outputName}: No space left on device"
    return false

/-- pass over the start of the input; false if there is too little of it -/
def Transfer.passOver (t : Transfer) : Nat → Nat → Activity Bool
  | 0, left => return left = 0
  | n + 1, left => do
    if left = 0 then return true
    match ← readAtMost 0 (min left t.inputBlock) with
    | .ok [] => return false
    | .ok cs => t.passOver n (left - cs.length)
    | .error _ => return true

/-- go on in the output; false if that cannot be done -/
def Transfer.goTo (t : Transfer) (start : Nat) : Activity Bool := do
  if start = 0 then return true
  match ← streamOf 1 with
  | some (n, .file number offset isAppended) =>
    setStream n (.file number (offset + start) isAppended)
    return true
  | some (_, .device _) => return true
  | _ =>
    Tool.complain "dd" s!"{quoted t.outputName}: cannot seek: Illegal seek"
    return false

/-- tell how much was copied -/
def tellTransfer (t : Transfer) (started : Nat) (s : TransferState) : Activity Unit := do
  if t.level = "none" then return
  tell s!"{s.full}+{s.partly} records in\n{s.writtenFull}+{s.writtenPartly} records out\n"
  let cut := s.conversion.cut
  if cut ≠ 0 then tell (s!"{cut} truncated record" ++ (if cut = 1 then "\n" else "s\n"))
  if t.level = "noxfer" then return
  let elapsed := max 1 ((← machine).disk.now - started)
  let sizes := [Magnitude.mk false false true, Magnitude.mk true false true].map fun m =>
    (m.text s.octets, decide (s.octets < m.base))
  let shown := (sizes.filter fun (_, isSmall) => !isSmall).map (·.1)
  let amount := s!"{s.octets} byte" ++ (if s.octets = 1 then "" else "s") ++
    if shown.isEmpty then "" else " (" ++ ", ".intercalate shown ++ ")"
  let seconds := String.ofList (Floating.general ⟨elapsed, 1000000000⟩ 6 false)
  let rate := (Magnitude.mk false false true).text (s.octets * 1000000000 / elapsed)
  tell s!"{amount} copied, {seconds} s, {rate}/s\n"

/-- carry a transfer out -/
def Transfer.carryOut (t : Transfer) : Activity Nat := do
  let started := (← machine).disk.now
  if !(← t.openInput) then return 1
  let start := t.seek.blocks * t.outputBlock + t.seek.octets
  if !(← t.openOutput start) then return 1
  let skipped := t.skip.blocks * t.inputBlock + t.skip.octets
  if !(← t.passOver endless skipped) && t.level ≠ "none" then
    Tool.complain "dd" s!"{shown t.inputName}: cannot skip to specified offset"
  let (s, isDone) ← if ← t.goTo start then t.copy endless .start else pure (.start, false)
  let (s, isDone) ← if t.isDirect then pure (s, isDone)
    else do
      let (conversion, cs) := s.conversion.finish t
      let (s, isWritten) ← ({ s with conversion }).write t cs true
      if isDone && !isWritten then discard (Transfer.copy.cannotWrite t)
      pure (s, isDone && isWritten)
  let isWritten ← flush
  tellTransfer t started s
  return if isDone && isWritten then 0 else 1

/-- warn of products that begin with a factor of zero, like numbers in base 16 -/
def warnOfZeros (args : List String) : Activity Unit := do
  for a in args do
    match splitAt? '=' a.toList with
    | (_, some ('0' :: 'x' :: rest)) =>
      if (transferNumber? (rest.length + 1) rest).isSome then
        Tool.complain "dd" "warning: '0x' is a zero multiplier; use '00x' if that is intended"
    | _ => pure ()

def dd (args : List String) : Activity Nat := do
  warnOfZeros args
  match Transfer.ofArgs args with
  | .ok t => t.carryOut
  | .error p => if p.hints then misuse "dd" p.message 1 else refuse "dd" p.message 1

end PatternBuild.Shell.Tool
