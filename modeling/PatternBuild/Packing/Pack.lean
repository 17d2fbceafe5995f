import Std.Data.HashMap
import PatternBuild.Packing.Format

/-!
# Packing

Copies of earlier bytes are looked for, and what is found is written with the codes that take the
least room.
-/

/-!
## Finding copies

Every place of the data is chained to the latest earlier one with the same hash of three bytes.  The
chain of a place is searched for the longest copy, the nearest one first.  A copy is only taken when the
next place has none that is longer.
-/

namespace PatternBuild.Packing

/-- how thoroughly copies are looked for -/
structure Effort where
  /-- a copy from which on chains are searched less -/
  good : Nat
  /-- a copy from which on the next place is not tried -/
  lazy : Nat
  /-- a copy that ends a search -/
  nice : Nat
  /-- the places of a chain that are tried -/
  chain : Nat
  /-- whether the next place is tried at all -/
  looksAhead : Bool

/-- the efforts of the levels from 1 to 9 -/
def Effort.ofLevel : Nat → Effort
  | 1 => ⟨4, 4, 8, 4, false⟩
  | 2 => ⟨4, 5, 16, 8, false⟩
  | 3 => ⟨4, 6, 32, 32, false⟩
  | 4 => ⟨4, 4, 16, 16, true⟩
  | 5 => ⟨8, 16, 32, 32, true⟩
  | 7 => ⟨8, 32, 128, 256, true⟩
  | 8 => ⟨32, 128, 258, 1024, true⟩
  | 9 => ⟨32, 258, 258, 4096, true⟩
  | _ => ⟨8, 16, 128, 128, true⟩

namespace Search

/-- the shortest and the longest copy, the farthest one, and the farthest of the shortest -/
def shortest : Nat := 3
def longest : Nat := 258
def farthest : Nat := 32768 - 262
def farthestShort : Nat := 4096

/-- the byte at a place; behind the data there are zeros -/
def byteAt (data : ByteArray) (i : Nat) : UInt8 := if h : i < data.size then data[i] else 0

/-- the hash of three bytes -/
def hashAt (data : ByteArray) (i : Nat) : Nat :=
  let a := (byteAt data i).toNat
  let b := (byteAt data (i + 1)).toNat
  let c := (byteAt data (i + 2)).toNat
  ((a <<< 10) ^^^ (b <<< 5) ^^^ c) % 32768

/-- chains of places: the latest place of each hash, and the place before each -/
structure Chains where
  latest : Std.HashMap Nat Nat
  before : Array Nat

def Chains.empty : Chains := ⟨∅, #[]⟩

/-- take in the next place; the outcome is the latest place with its hash, or 0 -/
def Chains.insert (c : Chains) (data : ByteArray) (i : Nat) : Chains × Nat :=
  let h := hashAt data i
  let head := c.latest.getD h 0
  (⟨c.latest.insert h i, c.before.push head⟩, head)

/-- how many bytes at two places are the same, at most `n` -/
def common (data : ByteArray) (i j : Nat) : Nat → Nat
  | 0 => 0
  | n + 1 => if byteAt data i == byteAt data j then common data (i + 1) (j + 1) n + 1 else 0

/-- the longest copy along a chain, if it is longer than the best one so far -/
def along (data : ByteArray) (c : Chains) (e : Effort) (limit i : Nat) :
    Nat → Nat → Nat × Nat → Nat × Nat
  | 0, _, best => best
  | n + 1, j, (length, place) =>
    let found := if byteAt data (j + length) == byteAt data (i + length) then common data j i longest else 0
    let best := if length < found then (found, j) else (length, place)
    if length < found && e.nice ≤ found then best
    else
      let next := (c.before[j]?).getD 0
      if next ≤ limit then best else along data c e limit i n next best

/-- the longest copy for a place that is longer than `known`, by its length and where it starts -/
def best (data : ByteArray) (c : Chains) (e : Effort) (i head known start : Nat) : Nat × Nat :=
  let limit := i - farthest
  let tries := if e.good ≤ known then e.chain / 4 else e.chain
  let (length, place) := along data c e limit i tries head (known, start)
  (min length (data.size - i), place)

/-- what is known when the place `i` comes -/
structure State where
  chains : Chains
  place : Nat
  /-- the copy at the place before, if it has one, or whether it waits as a literal -/
  length : Nat
  start : Nat
  isWaiting : Bool
  /-- what was found, the latest first, each with the place after it -/
  found : Array (Token × Nat)

/-- take in places up to one -/
def insertUpTo (data : ByteArray) (last : Nat) : Nat → Nat → Chains → Chains
  | 0, _, c => c
  | n + 1, i, c => if last < i then c else insertUpTo data last n (i + 1) (c.insert data i).1

/-- go on with one place, looking for something better than at the one before -/
def stepLate (data : ByteArray) (e : Effort) (s : State) : State :=
  let i := s.place
  let (chains, head) := s.chains.insert data i
  let (length, start) :=
    if head ≠ 0 && s.length < e.lazy && i ≤ head + farthest then
      let (length, start) := best data chains e i head s.length s.start
      if length = shortest && farthestShort < i - start then (length - 1, start) else (length, start)
    else (shortest - 1, s.start)
  if shortest ≤ s.length && length ≤ s.length then
    let last := i - 1 + s.length - 1
    let chains := insertUpTo data last s.length (i + 1) chains
    { chains
      place := last + 1
      length := shortest - 1
      start
      isWaiting := false
      found := s.found.push (.copy s.length (i - 1 - s.start), last + 1) }
  else if s.isWaiting then
    { s with chains, place := i + 1, length, start, found := s.found.push (.literal (byteAt data (i - 1)), i) }
  else { s with chains, place := i + 1, length, start, isWaiting := true }

/-- go on with one place, taking the first copy that is found -/
def stepEarly (data : ByteArray) (e : Effort) (s : State) : State :=
  let i := s.place
  let (chains, head) := s.chains.insert data i
  let (length, start) := if head ≠ 0 && i ≤ head + farthest then best data chains e i head (shortest - 1) 0
    else (0, 0)
  if shortest ≤ length then
    let last := i + length - 1
    -- long copies are not looked at inside
    let chains := if length ≤ e.lazy then insertUpTo data last length (i + 1) chains
      else { chains with before := chains.before ++ Array.replicate (length - 1) 0 }
    { s with chains, place := last + 1, found := s.found.push (.copy length (i - start), last + 1) }
  else { s with chains, place := i + 1, found := s.found.push (.literal (byteAt data i), i + 1) }

/-- go through the data in at most `n` steps -/
def steps (data : ByteArray) (e : Effort) : Nat → State → State
  | 0, s => s
  | n + 1, s =>
    if data.size ≤ s.place then s
    else steps data e n (if e.looksAhead then stepLate data e s else stepEarly data e s)

/-- the tokens of some data, each with the place after it -/
def tokens (data : ByteArray) (e : Effort) : Array (Token × Nat) :=
  let s := steps data e (data.size + 1) ⟨.empty, 0, shortest - 1, 0, false, #[]⟩
  if s.isWaiting then s.found.push (.literal (byteAt data (data.size - 1)), data.size) else s.found

end Search

end PatternBuild.Packing

/-!
## Packing

The tokens of some data are cut into blocks.  Each block is sent as it is, with the fixed codes or with
codes of its own, whatever takes the least room.
-/

namespace PatternBuild.Packing

/-- bytes that are written bit by bit, the lowest bit of a byte first -/
structure BitSink where
  data : ByteArray
  /-- bits that do not make a byte yet, and how many there are -/
  rest : Nat
  count : Nat

namespace BitSink

def empty : BitSink := ⟨.empty, 0, 0⟩

/-- write all whole bytes out, at most `n` -/
def settle : Nat → BitSink → BitSink
  | 0, s => s
  | n + 1, s => if s.count < 8 then s else settle n ⟨s.data.push s.rest.toUInt8, s.rest / 256, s.count - 8⟩

/-- write a number of so many bits -/
def put (s : BitSink) (value length : Nat) : BitSink :=
  settle (length / 8 + 1) ⟨s.data, s.rest + value * Nat.pow 2 s.count, s.count + length⟩

def word (s : BitSink) (w : Codeword) : BitSink := s.put w.bits w.length

/-- fill up the last byte -/
def align (s : BitSink) : BitSink := if s.count = 0 then s else s.put 0 (8 - s.count)

end BitSink

namespace Pack

/-- how often the symbols of literals and lengths occur, and those of distances -/
def frequencies (tokens : Array Token) : Array Nat × Array Nat :=
  let (l, d) := tokens.foldl (fun (l, d) t =>
    match t with
    | .literal b => (l.modify b.toNat (· + 1), d)
    | .copy length distance =>
      (l.modify (257 + classOf lengthFirst length) (· + 1), d.modify (classOf distanceFirst distance) (· + 1)))
    (Array.replicate 286 0, Array.replicate 30 0)
  (l.modify endOfBlock (· + 1), d)

/-- the bits that symbols take with words of some lengths -/
def bitsWith (weights lengths : Array Nat) (extra : Nat → Nat) : Nat :=
  (List.range weights.size).foldl (fun n s =>
    n + (weights[s]?).getD 0 * ((lengths[s]?).getD 0 + extra s)) 0

/-- the bits behind the word of a literal or length -/
def lengthBits (s : Nat) : Nat := if s < 257 then 0 else (lengthExtra[s - 257]?).getD 0
def distanceBits (s : Nat) : Nat := (distanceExtra[s]?).getD 0

/-- a symbol of the code for lengths, with the bits behind it -/
structure LengthToken where
  symbol : Nat
  value : Nat
  bits : Nat

/-- so many equal lengths as tokens; `isNew` tells that the length differs from the one before -/
def runTokens (length : Nat) (isNew : Bool) : Nat → List LengthToken
  | 0 => []
  | n + 1 =>
    let count := n + 1
    if length = 0 then
      if count < 3 then List.replicate count ⟨0, 0, 0⟩
      else if count ≤ 10 then [⟨17, count - 3, 3⟩]
      else
        let part := min count 138
        ⟨18, part - 11, 7⟩ :: runTokens 0 true (n + 1 - part)
    else if isNew then
      -- the first one of a run is sent with those that follow, up to six of them
      let part := min count 7
      if part < 4 then List.replicate part ⟨length, 0, 0⟩ ++ runTokens length false (n + 1 - part)
      else ⟨length, 0, 0⟩ :: ⟨16, part - 4, 2⟩ :: runTokens length false (n + 1 - part)
    else
      let part := min count 6
      if part < 3 then List.replicate part ⟨length, 0, 0⟩
      else ⟨16, part - 3, 2⟩ :: runTokens length false (n + 1 - part)
termination_by n => n
decreasing_by all_goals omega

/-- runs of equal numbers -/
def runs : List Nat → List (Nat × Nat)
  | [] => []
  | x :: xs =>
    match runs xs with
    | (y, n) :: rest => if x = y then (y, n + 1) :: rest else (x, 1) :: (y, n) :: rest
    | [] => [(x, 1)]

/-- the lengths of a code as tokens -/
def lengthTokens (lengths : Array Nat) (highest : Nat) : List LengthToken :=
  (runs (lengths.extract 0 (highest + 1)).toList).flatMap fun (length, n) => runTokens length true n

/-- send the tokens of a block with the words of its codes -/
def sendTokens (tokens : Array Token) (lengths distances : Array Codeword) (s : BitSink) : BitSink :=
  let wordOf (code : Array Codeword) (n : Nat) : Codeword := (code[n]?).getD default
  let s := tokens.foldl (fun s t =>
    match t with
    | .literal b => s.word (wordOf lengths b.toNat)
    | .copy length distance =>
      let l := classOf lengthFirst length
      let d := classOf distanceFirst distance
      let s := s.word (wordOf lengths (257 + l))
      let s := s.put (length - (lengthFirst[l]?).getD 0) ((lengthExtra[l]?).getD 0)
      let s := s.word (wordOf distances d)
      s.put (distance - (distanceFirst[d]?).getD 0) ((distanceExtra[d]?).getD 0)) s
  s.word (wordOf lengths endOfBlock)

/-- send a block: the tokens of the bytes `plain` -/
def sendBlock (tokens : Array Token) (plain : ByteArray) (isLast : Bool) (s : BitSink) : BitSink :=
  let (l, d) := frequencies tokens
  let (lengths, highestLength) := Prefix.lengthsOf wordLimit l
  let (distances, highestDistance) := Prefix.lengthsOf wordLimit d
  let sent := lengthTokens lengths highestLength ++ lengthTokens distances highestDistance
  let codeWeights := sent.foldl (fun w t => w.modify t.symbol (· + 1)) (Array.replicate 19 0)
  let (codeLengths, _) := Prefix.lengthsOf codeWordLimit codeWeights
  let order := codeOrder.reverse.dropWhile fun n => (codeLengths[n]?).getD 0 = 0
  let count := max 4 order.length
  let codeBits := bitsWith codeWeights codeLengths fun n =>
    if n = 16 then 2 else if n = 17 then 3 else if n = 18 then 7 else 0
  let own := bitsWith l lengths lengthBits + bitsWith d distances distanceBits + codeBits + 3 * count + 14
  let fixed := bitsWith l fixedLengths lengthBits + bitsWith d fixedDistances distanceBits
  let ownBytes := (own + 10) / 8
  let fixedBytes := (fixed + 10) / 8
  let last := if isLast then 1 else 0
  if plain.size + 4 ≤ min ownBytes fixedBytes then
    let s := (s.put last 3).align
    let s := (s.put plain.size 16).put (65535 - plain.size) 16
    { s with data := s.data ++ plain }
  else if fixedBytes ≤ ownBytes then
    sendTokens tokens (Prefix.words wordLimit fixedLengths) (Prefix.words wordLimit fixedDistances)
      (s.put (2 + last) 3)
  else
    let s := (s.put (4 + last) 3).put (highestLength + 1 - 257) 5
    let s := (s.put highestDistance 5).put (count - 4) 4
    let s := (codeOrder.take count).foldl (fun s n => s.put ((codeLengths[n]?).getD 0) 3) s
    let words := Prefix.words codeWordLimit codeLengths
    let s := sent.foldl (fun s t => (s.word ((words[t.symbol]?).getD default)).put t.value t.bits) s
    sendTokens tokens (Prefix.words wordLimit lengths) (Prefix.words wordLimit distances) s

/-- the most tokens of a block, and the most copies -/
def tokenLimit : Nat := 32767
def copyLimit : Nat := 32768

/-- a block that is being filled -/
structure Filling where
  tokens : Array Token
  copies : Nat
  start : Nat
  sink : BitSink

/-- whether a block is worth ending: it is full, or packs well so far -/
def Filling.isComplete (f : Filling) (here : Nat) (early : Bool) : Bool :=
  let n := f.tokens.size
  let worthwhile := early && n % 4096 = 0 &&
    let d := (frequencies f.tokens).2
    let out := (8 * n + bitsWith d (Array.replicate 30 5) distanceBits) / 8
    f.copies < n / 2 && out < (here - f.start) / 2
  worthwhile || n = tokenLimit || f.copies = copyLimit

/-- take in a token -/
def Filling.add (data : ByteArray) (early : Bool) (f : Filling) (t : Token × Nat) : Filling :=
  let f := { f with
    tokens := f.tokens.push t.1
    copies := match t.1 with
      | .copy _ _ => f.copies + 1
      | .literal _ => f.copies }
  if f.isComplete t.2 early then
    ⟨#[], 0, t.2, sendBlock f.tokens (data.extract f.start t.2) false f.sink⟩
  else f

end Pack

/-- pack some data with the effort of a level -/
def pack (level : Nat) (data : ByteArray) : ByteArray :=
  let tokens := Search.tokens data (.ofLevel level)
  let f := tokens.foldl (Pack.Filling.add data (2 < level)) ⟨#[], 0, 0, .empty⟩
  (Pack.sendBlock f.tokens (data.extract f.start data.size) true f.sink).align.data

end PatternBuild.Packing
