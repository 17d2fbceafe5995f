import PatternBuild.Packing.Format

/-!
# Unpacking

`unpack` reads blocks up to the last one.  It fails where the data breaks off or makes no sense.
-/

namespace PatternBuild.Packing

/-- why packed data cannot be read -/
inductive UnpackFault where
  | ends
  | wrong
  deriving DecidableEq, Repr

/-- bytes that are read bit by bit, the lowest bit of a byte first -/
structure Bits where
  data : ByteArray
  /-- how many bits have been read -/
  position : Nat

/-- reading bits may fail -/
abbrev Unpacking := StateT Bits (Except UnpackFault)

namespace Unpacking

def bit : Unpacking Nat := do
  let b ← get
  let at_ := b.position / 8
  if h : at_ < b.data.size then
    set { b with position := b.position + 1 }
    return b.data[at_].toNat / Nat.pow 2 (b.position % 8) % 2
  else throw .ends

/-- a number of so many bits, the lowest first -/
def number : Nat → Unpacking Nat
  | 0 => return 0
  | n + 1 => do
    let low ← bit
    return low + 2 * (← number n)

/-- go on with the next whole byte -/
def align : Unpacking Unit := modify fun b => { b with position := (b.position + 7) / 8 * 8 }

/-- a code by which words are read: how many have each length, and the symbols in the order of their
words -/
structure Reader where
  counts : Array Nat
  symbols : Array Nat

def Reader.of (lengths : Array Nat) : Reader where
  counts := Prefix.countOf wordLimit lengths
  symbols := ((List.range wordLimit).flatMap fun n =>
    (List.range lengths.size).filter fun s => lengths[s]? == some (n + 1)).toArray

/-- read a symbol: `code` are the bits so far, `first` the first word of their length, and `index` the
number of shorter words -/
def symbolFrom (r : Reader) : Nat → Nat → Nat → Nat → Nat → Unpacking Nat
  | 0, _, _, _, _ => throw .wrong
  | n + 1, length, code, first, index => do
    let code := code + (← bit)
    let count := (r.counts[length]?).getD 0
    if code < first + count then return (r.symbols[index + (code - first)]?).getD 0
    else symbolFrom r n (length + 1) (2 * code) (2 * (first + count)) (index + count)

def symbol (r : Reader) : Unpacking Nat := symbolFrom r wordLimit 1 0 0 0

/-- copy bytes one by one, so that a copy may go on with itself -/
def copied (distance : Nat) : Nat → ByteArray → ByteArray
  | 0, out => out
  | n + 1, out => copied distance n (out.push (out.get! (out.size - distance)))

/-- read the symbols of a block, at most `n` of them -/
def symbols (lengths distances : Reader) : Nat → ByteArray → Unpacking ByteArray
  | 0, _ => throw .wrong
  | n + 1, out => do
    let s ← symbol lengths
    if s < endOfBlock then symbols lengths distances n (out.push s.toUInt8)
    else if s = endOfBlock then return out
    else
      match lengthFirst[s - 257]?, lengthExtra[s - 257]? with
      | some first, some extra =>
        let length := first + (← number extra)
        let d ← symbol distances
        match distanceFirst[d]?, distanceExtra[d]? with
        | some first, some extra =>
          let distance := first + (← number extra)
          if out.size < distance then throw .wrong
          symbols lengths distances n (copied distance length out)
        | _, _ => throw .wrong
      | _, _ => throw .wrong

/-- read the lengths of words, as they are packed themselves, until there are enough -/
def wordLengths (r : Reader) (wanted : Nat) : Nat → Array Nat → Unpacking (Array Nat)
  | 0, _ => throw .wrong
  | n + 1, found => do
    if wanted ≤ found.size then
      if wanted < found.size then throw .wrong else return found
    match ← symbol r with
    | 16 =>
      match found.back? with
      | some last => wordLengths r wanted n (found ++ Array.replicate (3 + (← number 2)) last)
      | none => throw .wrong
    | 17 => wordLengths r wanted n (found ++ Array.replicate (3 + (← number 3)) 0)
    | 18 => wordLengths r wanted n (found ++ Array.replicate (11 + (← number 7)) 0)
    | s => wordLengths r wanted n (found.push s)

/-- read so many bytes as they are -/
def plainBytes : Nat → ByteArray → Unpacking ByteArray
  | 0, out => return out
  | n + 1, out => do plainBytes n (out.push (← number 8).toUInt8)

/-- read a block; the outcome tells whether it is the last one -/
def block (out : ByteArray) : Unpacking (ByteArray × Bool) := do
  let limit := 8 * (← get).data.size + 1
  let isLast := (← bit) = 1
  match ← number 2 with
  | 0 =>
    align
    let size ← number 16
    let check ← number 16
    if size + check ≠ 65535 then throw .wrong
    return (← plainBytes size out, isLast)
  | 1 => return (← symbols (.of fixedLengths) (.of fixedDistances) limit out, isLast)
  | 2 =>
    let lengthCount := 257 + (← number 5)
    let distanceCount := 1 + (← number 5)
    let sent := 4 + (← number 4)
    let mut codeLengths := Array.replicate 19 0
    for s in codeOrder.take sent do
      codeLengths := codeLengths.setIfInBounds s (← number 3)
    let all ← wordLengths (.of codeLengths) (lengthCount + distanceCount) limit #[]
    return (← symbols (.of (all.extract 0 lengthCount)) (.of (all.extract lengthCount all.size)) limit out,
      isLast)
  | _ => throw .wrong

/-- read blocks up to the last one, at most `n` of them -/
def blocks : Nat → ByteArray → Unpacking ByteArray
  | 0, _ => throw .wrong
  | n + 1, out => do
    let (out, isLast) ← block out
    if isLast then return out else blocks n out

end Unpacking

/-- unpack data from a byte on; the outcome tells the first byte behind it as well -/
def unpack (data : ByteArray) (start : Nat) : Except UnpackFault (ByteArray × Nat) := do
  let (out, b) ← (Unpacking.blocks (8 * data.size + 1) .empty).run ⟨data, 8 * start⟩
  return (out, (b.position + 7) / 8)

end PatternBuild.Packing
