/-!
# Digests

A digest names a message by a few bytes.  All of them here work through a message block by block;
checksums are shorter and only tell whether a message was changed by accident.
-/

/-!
## Messages in blocks

Many digests work through a message block by block: a state is changed by every block in turn.  The
message is filled up to whole blocks with a single bit, zeros and its length in bits.
-/

namespace PatternBuild.Digest

/-- which byte of a number comes first -/
inductive ByteOrder where
  | lowestFirst
  | highestFirst
  deriving DecidableEq, Repr

/-- a number as `size` bytes -/
def numberBytes (order : ByteOrder) (size n : Nat) : List UInt8 :=
  let low := (List.range size).map fun k => (n >>> (8 * k)).toUInt8
  match order with
  | .lowestFirst => low
  | .highestFirst => low.reverse

/-- the number that bytes write -/
def bytesNumber (order : ByteOrder) (bytes : List UInt8) : Nat :=
  let step (n : Nat) (b : UInt8) : Nat := n * 256 + b.toNat
  match order with
  | .lowestFirst => bytes.reverse.foldl step 0
  | .highestFirst => bytes.foldl step 0

/-- bytes in groups of `size + 1`; the last one may be shorter -/
def groups (size : Nat) (bytes : List UInt8) : List (List UInt8) :=
  go bytes [] size
where
  /-- collect a group, the latest byte first, of which so many bytes are missing -/
  go : List UInt8 → List UInt8 → Nat → List (List UInt8)
    | [], [], _ => []
    | [], group, _ => [group.reverse]
    | b :: rest, group, 0 => (b :: group).reverse :: go rest [] size
    | b :: rest, group, n + 1 => go rest (b :: group) n

/-- how a message is filled up to whole blocks -/
structure Filling where
  /-- the size of a block, and of the length at its end, in bytes -/
  block : Nat
  length : Nat
  order : ByteOrder

/-- the message with what fills it up -/
def Filling.fill (f : Filling) (message : List UInt8) : List UInt8 :=
  let size := message.length
  let used := (size + 1 + f.length) % f.block
  let zeros := if used = 0 then 0 else f.block - used
  message ++ 0x80 :: List.replicate zeros 0 ++ numberBytes f.order f.length (8 * size)

/-- the words of a block, each of `size + 1` bytes -/
def blockWords (order : ByteOrder) (size : Nat) (block : List UInt8) : Array Nat :=
  ((groups size block).map (bytesNumber order)).toArray

/-- bytes as hexadecimal digits -/
def hexText (bytes : List UInt8) : String :=
  String.ofList (bytes.flatMap fun b => [(b.toNat / 16).digitChar, (b.toNat % 16).digitChar])

end PatternBuild.Digest

/-!
## MD5 digests

Sixty-four steps mix every block of sixteen words into four words.
-/

namespace PatternBuild.Digest.Md5

/-- the four words that stand for everything mixed so far -/
structure Words where
  a : UInt32
  b : UInt32
  c : UInt32
  d : UInt32
  deriving DecidableEq, Repr, Inhabited

def initial : Words := ⟨0x67452301, 0xEFCDAB89, 0x98BADCFE, 0x10325476⟩

def rotate (w n : UInt32) : UInt32 := (w <<< n) ||| (w >>> (32 - n))

/-- the words that are added, one for every step: the first bits of the sines of 1, 2, … -/
def sines : Array UInt32 := #[
  0xd76aa478, 0xe8c7b756, 0x242070db, 0xc1bdceee, 0xf57c0faf, 0x4787c62a, 0xa8304613, 0xfd469501,
  0x698098d8, 0x8b44f7af, 0xffff5bb1, 0x895cd7be, 0x6b901122, 0xfd987193, 0xa679438e, 0x49b40821,
  0xf61e2562, 0xc040b340, 0x265e5a51, 0xe9b6c7aa, 0xd62f105d, 0x02441453, 0xd8a1e681, 0xe7d3fbc8,
  0x21e1cde6, 0xc33707d6, 0xf4d50d87, 0x455a14ed, 0xa9e3e905, 0xfcefa3f8, 0x676f02d9, 0x8d2a4c8a,
  0xfffa3942, 0x8771f681, 0x6d9d6122, 0xfde5380c, 0xa4beea44, 0x4bdecfa9, 0xf6bb4b60, 0xbebfbc70,
  0x289b7ec6, 0xeaa127fa, 0xd4ef3085, 0x04881d05, 0xd9d4d039, 0xe6db99e5, 0x1fa27cf8, 0xc4ac5665,
  0xf4292244, 0x432aff97, 0xab9423a7, 0xfc93a039, 0x655b59c3, 0x8f0ccc92, 0xffeff47d, 0x85845dd1,
  0x6fa87e4f, 0xfe2ce6e0, 0xa3014314, 0x4e0811a1, 0xf7537e82, 0xbd3af235, 0x2ad7d2bb, 0xeb86d391]

/-- how far the words are rotated, in turn, in each of the four rounds -/
def turns : Array (Array UInt32) :=
  #[#[7, 12, 17, 22], #[5, 9, 14, 20], #[4, 11, 16, 23], #[6, 10, 15, 21]]

/-- the choice of the bits, and the word of the block, of a step -/
def choice (k : Nat) (s : Words) : UInt32 × Nat :=
  match k / 16 with
  | 0 => ((s.b &&& s.c) ||| (~~~s.b &&& s.d), k)
  | 1 => ((s.d &&& s.b) ||| (~~~s.d &&& s.c), (5 * k + 1) % 16)
  | 2 => (s.b ^^^ s.c ^^^ s.d, (3 * k + 5) % 16)
  | _ => (s.c ^^^ (s.b ||| ~~~s.d), (7 * k) % 16)

/-- one step -/
def step (block : Array Nat) (s : Words) (k : Nat) : Words :=
  let (bits, at_) := choice k s
  let sum := s.a + bits + (sines[k]?).getD 0 + ((block[at_]?).getD 0).toUInt32
  let turn := (((turns[k / 16]?).getD #[])[k % 4]?).getD 0
  ⟨s.d, s.b + rotate sum turn, s.b, s.c⟩

/-- mix a block into the words -/
def mix (s : Words) (block : Array Nat) : Words :=
  let t := (List.range 64).foldl (step block) s
  ⟨s.a + t.a, s.b + t.b, s.c + t.c, s.d + t.d⟩

/-- the digest of a message -/
def digest (message : List UInt8) : List UInt8 :=
  let filled := Filling.fill ⟨64, 8, .lowestFirst⟩ message
  let s := ((groups 63 filled).map (blockWords .lowestFirst 3)).foldl mix initial
  [s.a, s.b, s.c, s.d].flatMap fun w => numberBytes .lowestFirst 4 w.toNat

end PatternBuild.Digest.Md5

/-!
## SHA digests

SHA-1 mixes blocks of sixteen words into five words; the SHA-2 digests mix them into eight words of 32
or of 64 bits.  The constants of SHA-2 are the first bits of the fractions of square roots and cube
roots of primes, and are computed as that.
-/

namespace PatternBuild.Digest

/-! ### SHA-1 -/

namespace Sha1

/-- the five words that stand for everything mixed so far -/
structure Words where
  a : UInt32
  b : UInt32
  c : UInt32
  d : UInt32
  e : UInt32
  deriving DecidableEq, Repr, Inhabited

def initial : Words := ⟨0x67452301, 0xEFCDAB89, 0x98BADCFE, 0x10325476, 0xC3D2E1F0⟩

def rotate (w n : UInt32) : UInt32 := (w <<< n) ||| (w >>> (32 - n))

/-- the words of a block, and those that are made from them -/
def schedule (block : Array Nat) : Array UInt32 :=
  (List.range 64).foldl (fun (w : Array UInt32) _ =>
    let back (n : Nat) : UInt32 := (w[w.size - n]?).getD 0
    w.push (rotate (back 3 ^^^ back 8 ^^^ back 14 ^^^ back 16) 1)) (block.map Nat.toUInt32)

/-- the choice of the bits, and what is added, in a step -/
def choice (k : Nat) (s : Words) : UInt32 × UInt32 :=
  match k / 20 with
  | 0 => ((s.b &&& s.c) ||| (~~~s.b &&& s.d), 0x5A827999)
  | 1 => (s.b ^^^ s.c ^^^ s.d, 0x6ED9EBA1)
  | 2 => ((s.b &&& s.c) ||| (s.b &&& s.d) ||| (s.c &&& s.d), 0x8F1BBCDC)
  | _ => (s.b ^^^ s.c ^^^ s.d, 0xCA62C1D6)

/-- mix a block into the words -/
def mix (s : Words) (block : Array Nat) : Words :=
  let t := (schedule block).toList.zipIdx.foldl (fun (t : Words) (w, k) =>
    let (bits, added) := choice k t
    ⟨rotate t.a 5 + bits + t.e + added + w, t.a, rotate t.b 30, t.c, t.d⟩) s
  ⟨s.a + t.a, s.b + t.b, s.c + t.c, s.d + t.d, s.e + t.e⟩

/-- the digest of a message -/
def digest (message : List UInt8) : List UInt8 :=
  let filled := Filling.fill ⟨64, 8, .highestFirst⟩ message
  let s := ((groups 63 filled).map (blockWords .highestFirst 3)).foldl mix initial
  [s.a, s.b, s.c, s.d, s.e].flatMap fun w => numberBytes .highestFirst 4 w.toNat

end Sha1

/-! ### SHA-2 -/

namespace Sha2

/-- the first `n` primes, of the numbers from `k` on; `left` numbers are looked at -/
def primesFrom : Nat → Nat → Nat → List Nat
  | 0, _, _ => []
  | _, 0, _ => []
  | left + 1, n + 1, k =>
    let isPrime := (List.range (k - 2)).all fun d => k % (d + 2) ≠ 0
    if isPrime then k :: primesFrom left n (k + 1) else primesFrom left (n + 1) (k + 1)

/-- the first `n` primes -/
def primes (n : Nat) : List Nat := primesFrom 1000 n 2

/-- the largest number whose power is at most `n`, found bit by bit from bit `b` down -/
def rootFrom (power n : Nat) : Nat → Nat → Nat
  | 0, found => found
  | b + 1, found =>
    let next := found + Nat.pow 2 b
    rootFrom power n b (if Nat.pow next power ≤ n then next else found)

/-- the first `bits` bits of the fraction of a root -/
def rootFraction (power bits n : Nat) : Nat :=
  rootFrom power (n * Nat.pow 2 (bits * power)) (bits + 8) 0 % Nat.pow 2 bits

/-- a digest of this kind -/
structure Kind where
  /-- the bits of a word -/
  bits : Nat
  rounds : Nat
  initial : List Nat
  /-- how far words are turned: for the two sums, and for the two parts of the schedule, whose last
  number is a shift -/
  sums : List (List Nat)
  parts : List (List Nat)
  /-- the number of bytes of the digest -/
  size : Nat

namespace Kind

/-- the shape of a digest with words of 32 bits -/
def narrow (initial : List Nat) (size : Nat) : Kind :=
  ⟨32, 64, initial, [[2, 13, 22], [6, 11, 25]], [[7, 18, 3], [17, 19, 10]], size⟩

/-- the shape of a digest with words of 64 bits -/
def wide (initial : List Nat) (size : Nat) : Kind :=
  ⟨64, 80, initial, [[28, 34, 39], [14, 18, 41]], [[1, 8, 7], [19, 61, 6]], size⟩

def sha256 : Kind := narrow ((primes 8).map (rootFraction 2 32)) 32
def sha224 : Kind :=
  narrow (((primes 16).drop 8).map fun p => rootFraction 2 64 p % Nat.pow 2 32) 28
def sha512 : Kind := wide ((primes 8).map (rootFraction 2 64)) 64
def sha384 : Kind := wide (((primes 16).drop 8).map (rootFraction 2 64)) 48

/-- what is added in the rounds -/
def constants (k : Kind) : Array UInt64 :=
  ((primes k.rounds).map fun p => (rootFraction 3 k.bits p).toUInt64).toArray

/-- the bits of a word that count -/
def cut (k : Kind) (w : UInt64) : UInt64 := if k.bits = 32 then w &&& 0xFFFFFFFF else w

def rotate (k : Kind) (w : UInt64) (n : Nat) : UInt64 :=
  let n := n.toUInt64
  k.cut ((w >>> n) ||| (w <<< (k.bits.toUInt64 - n)))

/-- a word turned in several ways -/
def sum (k : Kind) (which : Nat) (w : UInt64) : UInt64 :=
  (((k.sums[which]?).getD []).map (k.rotate w)).foldl (· ^^^ ·) 0

/-- a word turned in two ways and shifted -/
def part (k : Kind) (which : Nat) (w : UInt64) : UInt64 :=
  match (k.parts[which]?).getD [] with
  | [a, b, c] => k.rotate w a ^^^ k.rotate w b ^^^ (w >>> c.toUInt64)
  | _ => 0

/-- the words of a block, and those that are made from them -/
def schedule (k : Kind) (block : Array Nat) : Array UInt64 :=
  (List.range (k.rounds - 16)).foldl (fun (w : Array UInt64) _ =>
    let back (n : Nat) : UInt64 := (w[w.size - n]?).getD 0
    w.push (k.cut (k.part 1 (back 2) + back 7 + k.part 0 (back 15) + back 16)))
    (block.map Nat.toUInt64)

end Kind

/-- the eight words that stand for everything mixed so far -/
structure Words where
  a : UInt64
  b : UInt64
  c : UInt64
  d : UInt64
  e : UInt64
  f : UInt64
  g : UInt64
  h : UInt64
  deriving DecidableEq, Repr, Inhabited

def Words.ofList : List UInt64 → Words
  | [a, b, c, d, e, f, g, h] => ⟨a, b, c, d, e, f, g, h⟩
  | _ => default

def Words.toList (s : Words) : List UInt64 := [s.a, s.b, s.c, s.d, s.e, s.f, s.g, s.h]

/-- one round -/
def round (k : Kind) (s : Words) (w added : UInt64) : Words :=
  let first := s.h + k.sum 1 s.e + ((s.e &&& s.f) ^^^ (~~~s.e &&& s.g)) + added + w
  let second := k.sum 0 s.a + ((s.a &&& s.b) ^^^ (s.a &&& s.c) ^^^ (s.b &&& s.c))
  ⟨k.cut (first + second), s.a, s.b, s.c, k.cut (s.d + first), s.e, s.f, s.g⟩

/-- mix a block into the words -/
def mix (k : Kind) (constants : Array UInt64) (s : Words) (block : Array Nat) : Words :=
  let t := ((k.schedule block).toList.zip constants.toList).foldl (fun t (w, added) =>
    round k t w added) s
  Words.ofList ((s.toList.zip t.toList).map fun (x, y) => k.cut (x + y))

/-- the digest of a message -/
def digest (k : Kind) (message : List UInt8) : List UInt8 :=
  let wordSize := k.bits / 8
  let filled := Filling.fill ⟨16 * wordSize, 2 * wordSize, .highestFirst⟩ message
  let start := Words.ofList (k.initial.map Nat.toUInt64)
  let blocks := (groups (16 * wordSize - 1) filled).map (blockWords .highestFirst (wordSize - 1))
  let s := blocks.foldl (mix k k.constants) start
  (s.toList.flatMap fun w => numberBytes .highestFirst wordSize w.toNat).take k.size

end Sha2

end PatternBuild.Digest

/-!
## BLAKE2b digests

Twelve rounds mix every block of sixteen words into sixteen words, half of them made of everything
mixed so far.  The last block may be shorter and is marked.
-/

namespace PatternBuild.Digest.Blake2

def initial : List UInt64 :=
  [0x6a09e667f3bcc908, 0xbb67ae8584caa73b, 0x3c6ef372fe94f82b, 0xa54ff53a5f1d36f1,
    0x510e527fade682d1, 0x9b05688c2b3e6c1f, 0x1f83d9abfb41bd6b, 0x5be0cd19137e2179]

/-- the order of the words of the block, round by round -/
def orders : Array (List Nat) := #[
  [0, 1, 2, 3, 4, 5, 6, 7, 8, 9, 10, 11, 12, 13, 14, 15],
  [14, 10, 4, 8, 9, 15, 13, 6, 1, 12, 0, 2, 11, 7, 5, 3],
  [11, 8, 12, 0, 5, 2, 15, 13, 10, 14, 3, 6, 7, 1, 9, 4],
  [7, 9, 3, 1, 13, 12, 11, 14, 2, 6, 5, 10, 4, 0, 15, 8],
  [9, 0, 5, 7, 2, 4, 10, 15, 14, 1, 11, 12, 6, 8, 3, 13],
  [2, 12, 6, 10, 0, 11, 8, 3, 4, 13, 7, 5, 15, 14, 1, 9],
  [12, 5, 1, 15, 14, 13, 4, 10, 0, 7, 6, 3, 9, 2, 8, 11],
  [13, 11, 7, 14, 12, 1, 3, 9, 5, 0, 15, 4, 8, 6, 2, 10],
  [6, 15, 14, 9, 11, 3, 0, 8, 12, 2, 13, 7, 1, 4, 10, 5],
  [10, 2, 8, 4, 7, 6, 1, 5, 15, 11, 9, 14, 3, 12, 13, 0]]

/-- the four words that are mixed in turn: the columns, then the diagonals -/
def lanes : List (Nat × Nat × Nat × Nat) :=
  [(0, 4, 8, 12), (1, 5, 9, 13), (2, 6, 10, 14), (3, 7, 11, 15),
    (0, 5, 10, 15), (1, 6, 11, 12), (2, 7, 8, 13), (3, 4, 9, 14)]

def rotate (w n : UInt64) : UInt64 := (w >>> n) ||| (w <<< (64 - n))

/-- mix two words of the block into four words of the state -/
def mixLane (v : Array UInt64) (lane : Nat × Nat × Nat × Nat) (x y : UInt64) : Array UInt64 :=
  let (i, j, k, l) := lane
  let word (n : Nat) : UInt64 := (v[n]?).getD 0
  let a := word i + word j + x
  let d := rotate (word l ^^^ a) 32
  let c := word k + d
  let b := rotate (word j ^^^ c) 24
  let a := a + b + y
  let d := rotate (d ^^^ a) 16
  let c := c + d
  let b := rotate (b ^^^ c) 63
  (((v.setIfInBounds i a).setIfInBounds j b).setIfInBounds k c).setIfInBounds l d

/-- one round -/
def round (block : Array Nat) (v : Array UInt64) (n : Nat) : Array UInt64 :=
  let order := ((orders[n % 10]?).getD []).toArray
  lanes.zipIdx.foldl (fun v (lane, k) =>
    let word (i : Nat) : UInt64 := ((block[(order[i]?).getD 0]?).getD 0).toUInt64
    mixLane v lane (word (2 * k)) (word (2 * k + 1))) v

/-- mix a block into the words; `count` bytes have been seen with it -/
def mix (h : List UInt64) (block : List UInt8) (count : Nat) (isLast : Bool) : List UInt64 :=
  let words := blockWords .lowestFirst 7 (block ++ List.replicate (128 - block.length) 0)
  let tail := initial.zipIdx.map fun (w, k) =>
    if k = 4 then w ^^^ count.toUInt64 else if k = 6 && isLast then ~~~w else w
  let v := (List.range 12).foldl (round words) (h ++ tail).toArray
  (h.zipIdx).map fun (w, k) => w ^^^ (v[k]?).getD 0 ^^^ (v[k + 8]?).getD 0

/-- mix the blocks in turn; `count` bytes have been seen before -/
def mixAll (count : Nat) (h : List UInt64) : List (List UInt8) → List UInt64
  | [] => mix h [] count true
  | [b] => mix h b (count + b.length) true
  | b :: rest => mixAll (count + b.length) (mix h b (count + b.length) false) rest

/-- the digest of a message, of so many bytes -/
def digest (size : Nat) (message : List UInt8) : List UInt8 :=
  let start := match initial with
    | w :: rest => (w ^^^ 0x01010000 ^^^ size.toUInt64) :: rest
    | [] => []
  let h := mixAll 0 start (groups 127 message)
  (h.flatMap fun w => numberBytes .lowestFirst 8 w.toNat).take size

end PatternBuild.Digest.Blake2

/-!
## BLAKE3 digests

The input is cut into chunks of 1024 bytes, a chunk into blocks of 64.  Blocks are compressed one
after the other into eight words, and the words of neighbouring chunks are compressed in pairs up
a binary tree whose left branch is always full.  The last compression is marked as the root.
-/

namespace PatternBuild.Digest.Blake3

/-! ### words, four at a time -/

/-- four words that are worked on side by side -/
structure Quad where
  a : UInt32
  b : UInt32
  c : UInt32
  d : UInt32
  deriving DecidableEq, Repr, Inhabited

namespace Quad

def map₂ (f : UInt32 → UInt32 → UInt32) (x y : Quad) : Quad :=
  ⟨f x.a y.a, f x.b y.b, f x.c y.c, f x.d y.d⟩

def add (x y : Quad) : Quad := map₂ (· + ·) x y
def xor (x y : Quad) : Quad := map₂ (· ^^^ ·) x y

def rotateWord (n : UInt32) (w : UInt32) : UInt32 := (w >>> n) ||| (w <<< (32 - n))

/-- rotate every word to the right -/
def rotate (n : UInt32) (x : Quad) : Quad :=
  ⟨rotateWord n x.a, rotateWord n x.b, rotateWord n x.c, rotateWord n x.d⟩

/-- move the words one place to the left -/
def shift (x : Quad) : Quad := ⟨x.b, x.c, x.d, x.a⟩

def words (x : Quad) : List UInt32 := [x.a, x.b, x.c, x.d]

end Quad

/-- eight words that stand for everything compressed so far -/
structure Chain where
  low : Quad
  high : Quad
  deriving DecidableEq, Repr, Inhabited

/-- the sixteen words of a block -/
abbrev Block := Vector UInt32 16

def initial : Chain :=
  ⟨⟨0x6A09E667, 0xBB67AE85, 0x3C6EF372, 0xA54FF53A⟩, ⟨0x510E527F, 0x9B05688C, 0x1F83D9AB, 0x5BE0CD19⟩⟩

/-! ### compression -/

/-- the four rows that are mixed -/
structure Rows where
  r0 : Quad
  r1 : Quad
  r2 : Quad
  r3 : Quad

/-- mix two quads of message words into the columns -/
def Rows.mix (s : Rows) (x y : Quad) : Rows :=
  let r0 := (s.r0.add s.r1).add x
  let r3 := (s.r3.xor r0).rotate 16
  let r2 := s.r2.add r3
  let r1 := (s.r1.xor r2).rotate 12
  let r0 := (r0.add r1).add y
  let r3 := (r3.xor r0).rotate 8
  let r2 := r2.add r3
  let r1 := (r1.xor r2).rotate 7
  ⟨r0, r1, r2, r3⟩

/-- turn diagonals into columns -/
def Rows.slant (s : Rows) : Rows := ⟨s.r0, s.r1.shift, s.r2.shift.shift, s.r3.shift.shift.shift⟩

/-- turn columns back into diagonals -/
def Rows.unslant (s : Rows) : Rows := ⟨s.r0, s.r1.shift.shift.shift, s.r2.shift.shift, s.r3.shift⟩

/-- mix a block into the columns and then into the diagonals -/
def Rows.round (s : Rows) (m : Block) : Rows :=
  let s := s.mix ⟨m[0], m[2], m[4], m[6]⟩ ⟨m[1], m[3], m[5], m[7]⟩
  (s.slant.mix ⟨m[8], m[10], m[12], m[14]⟩ ⟨m[9], m[11], m[13], m[15]⟩).unslant

/-- the order of the message words in the next round -/
def permute (m : Block) : Block :=
  #v[m[2], m[6], m[3], m[10], m[7], m[0], m[4], m[13],
     m[1], m[11], m[12], m[5], m[9], m[14], m[15], m[8]]

/-- a number of rounds -/
def rounds : Nat → Rows → Block → Rows
  | 0, s, _ => s
  | n + 1, s, m => rounds n (s.round m) (permute m)

/-- what is known when a node of the tree is compressed for the last time -/
structure Node where
  chain : Chain
  block : Block
  /-- the number of the chunk -/
  counter : UInt64
  /-- the number of bytes in the block -/
  length : UInt32
  flags : UInt32

def chunkStart : UInt32 := 1
def chunkEnd : UInt32 := 2
def parentNode : UInt32 := 4
def rootNode : UInt32 := 8

/-- compress a node, with one more flag -/
def Node.compressAs (n : Node) (mark : UInt32) : Chain :=
  let s := rounds 7 ⟨n.chain.low, n.chain.high, initial.low,
    ⟨n.counter.toUInt32, (n.counter >>> 32).toUInt32, n.length, n.flags ||| mark⟩⟩ n.block
  ⟨s.r0.xor s.r2, s.r1.xor s.r3⟩

/-- compress a node that is not the root -/
def Node.compress (n : Node) : Chain := n.compressAs 0

/-! ### chunks -/

/-- the word of four bytes, the lowest first; missing bytes are 0 -/
def word (bytes : List UInt8) : UInt32 :=
  ((bytes.take 4).foldr (fun (b : UInt8) (n : Nat) => n * 256 + b.toNat) 0).toUInt32

/-- the words of a block of at most 64 bytes -/
def blockOf (bytes : List UInt8) : Block := Vector.ofFn fun i => word (bytes.drop (4 * i.val))

/-- compress the blocks of a chunk up to the last -/
def chunkFrom (counter : UInt64) (chain : Chain) (start : UInt32) : List (List UInt8) → Node
  | [] => ⟨chain, blockOf [], counter, 0, start ||| chunkEnd⟩
  | [b] => ⟨chain, blockOf b, counter, b.length.toUInt32, start ||| chunkEnd⟩
  | b :: bs =>
    chunkFrom counter (Node.compress ⟨chain, blockOf b, counter, b.length.toUInt32, start⟩) 0 bs

/-- the node of a chunk -/
def chunk (counter : UInt64) (bytes : List UInt8) : Node :=
  chunkFrom counter initial chunkStart (groups 63 bytes)

/-! ### the tree -/

/-- the node above two others -/
def parent (left right : Chain) : Node :=
  ⟨initial, Vector.ofFn fun i =>
    ((left.low.words ++ left.high.words ++ right.low.words ++ right.high.words)[i.val]?).getD 0,
    0, 64, parentNode⟩

/-- the number of leaves in the left branch over `n` leaves: the largest power of 2 below `n` -/
def leftLeaves (n : Nat) : Nat := Nat.pow 2 (Nat.log2 (n - 1))

theorem leftLeaves_lt {n : Nat} (h : 2 ≤ n) : leftLeaves n < n :=
  Nat.lt_of_le_of_lt (Nat.log2_self_le (by omega : n - 1 ≠ 0)) (by omega)

theorem leftLeaves_pos (n : Nat) : 0 < leftLeaves n := Nat.two_pow_pos _

/-- the node over a sequence of chunks, the first of which has the given number -/
def tree (counter : Nat) (chunks : List (List UInt8)) : Node :=
  match h : chunks with
  | [] => chunk counter.toUInt64 []
  | [c] => chunk counter.toUInt64 c
  | _ :: _ :: _ =>
    let k := leftLeaves chunks.length
    have h2 : 2 ≤ chunks.length := by rw [h]; simp
    have := leftLeaves_lt h2
    have := leftLeaves_pos chunks.length
    parent (tree counter (chunks.take k)).compress (tree (counter + k) (chunks.drop k)).compress
termination_by chunks.length
decreasing_by
  all_goals simp only [List.length_take, List.length_drop, ← h]; omega

/-! ### digests -/

/-- a byte as two hexadecimal digits -/
def byteHex (n : Nat) : List Char := [(n / 16).digitChar, (n % 16).digitChar]

/-- a word as hexadecimal digits, the lowest byte first -/
def wordHex (w : UInt32) : List Char :=
  [0, 8, 16, 24].flatMap fun k => byteHex (w.toNat >>> k % 256)

/-- the digest of a byte sequence, in hexadecimal -/
def hex (bytes : List UInt8) : String :=
  let root := (tree 0 (groups 1023 bytes)).compressAs rootNode
  String.ofList ((root.low.words ++ root.high.words).flatMap wordHex)

end PatternBuild.Digest.Blake3

/-!
## Checksums

Sums that tell whether a message was changed by accident: the remainder of a division of polynomials,
and two sums of bytes.
-/

namespace PatternBuild.Digest.Checksum

/-- the remainder of a byte at the top of the register, step by step -/
def remainder : Nat → UInt32 → UInt32
  | 0, r => r
  | n + 1, r => remainder n (if r &&& 0x80000000 ≠ 0 then (r <<< 1) ^^^ 0x04C11DB7 else r <<< 1)

/-- the remainders of all bytes -/
def remainders : Array UInt32 := 
  ((List.range 256).map fun (b : Nat) => remainder 8 (b.toUInt32 <<< 24)).toArray

/-- go on with one byte -/
def crcStep (table : Array UInt32) (r : UInt32) (b : UInt8) : UInt32 :=
  (r <<< 8) ^^^ (table[((r >>> 24) ^^^ b.toUInt32).toNat]?).getD 0

/-- the bytes of a length that count, the lowest first -/
def lengthBytes : Nat → Nat → List UInt8
  | 0, _ => []
  | n + 1, size => if size = 0 then [] else size.toUInt8 :: lengthBytes n (size / 256)

/-- the remainder of a message and its length -/
def crc (message : List UInt8) : Nat :=
  let table := remainders
  let r := (message ++ lengthBytes 8 message.length).foldl (crcStep table) 0
  (~~~r).toNat

/-- the sum of bytes that is turned by a bit before each -/
def turned (message : List UInt8) : Nat :=
  message.foldl (fun (sum : Nat) b => ((sum >>> 1) + (sum % 2) * 0x8000 + b.toNat) % 0x10000) 0

/-- the sum of bytes, its high part added to its low part -/
def plain (message : List UInt8) : Nat :=
  let sum := message.foldl (fun (sum : Nat) b => (sum + b.toNat) % 0x100000000) 0
  let folded := sum % 0x10000 + sum / 0x10000
  folded % 0x10000 + folded / 0x10000

/-- the remainder of a byte at the bottom of the register, step by step -/
def lowRemainder : Nat → UInt32 → UInt32
  | 0, r => r
  | n + 1, r => lowRemainder n (if r &&& 1 ≠ 0 then (r >>> 1) ^^^ 0xEDB88320 else r >>> 1)

/-- the remainders of all bytes, with the lowest bit first -/
def lowRemainders : Array UInt32 :=
  ((List.range 256).map fun (b : Nat) => lowRemainder 8 b.toUInt32).toArray

/-- the remainder of a message whose bytes are read from their lowest bit on -/
def lowCrc (message : ByteArray) : UInt32 :=
  let table := lowRemainders
  ~~~ (message.foldl (fun r b =>
    (r >>> 8) ^^^ (table[((r ^^^ b.toUInt32) &&& 0xff).toNat]?).getD 0) 0xFFFFFFFF)

end PatternBuild.Digest.Checksum
