/-!
# The format of packed data and its codes
-/

/-!
## Prefix codes

A code gives every symbol a word of bits, and no word begins another one.  The lengths of the words fix
the code: words of one length follow each other in the order of their symbols, and shorter ones come
first.  `lengthsOf` finds lengths for symbols that occur so often, none above a limit.
-/

namespace PatternBuild.Packing

/-- the word of a symbol: its bits as a number, and how many there are -/
structure Codeword where
  bits : Nat
  length : Nat
  deriving DecidableEq, Repr, Inhabited

namespace Prefix

/-- the bits of a number in the other direction -/
def reversed : Nat → Nat → Nat
  | 0, _ => 0
  | n + 1, bits => (bits % 2) * Nat.pow 2 n + reversed n (bits / 2)

/-- how many symbols have each length -/
def countOf (limit : Nat) (lengths : Array Nat) : Array Nat :=
  lengths.foldl (fun counts n => if n = 0 then counts else counts.modify n (· + 1))
    (Array.replicate (limit + 1) 0)

/-- the first word of each length -/
def firstWords (limit : Nat) (counts : Array Nat) : Array Nat :=
  ((List.range limit).foldl (fun (words, code) n =>
    let code := (code + (counts[n]?).getD 0) * 2
    (words.push code, code)) (#[0], 0)).1

/-- the words of symbols with some lengths, with the first bit as the lowest one -/
def words (limit : Nat) (lengths : Array Nat) : Array Codeword :=
  let first := firstWords limit (countOf limit lengths)
  (lengths.foldl (fun (next, words) n =>
    if n = 0 then (next, words.push ⟨0, 0⟩)
    else
      let code := (next[n]?).getD 0
      (next.setIfInBounds n (code + 1), words.push ⟨reversed n code, n⟩)) (first, #[])).2

/-! ### choosing lengths -/

/-- a node of the tree of a code that grows from its leaves -/
structure Node where
  weight : Nat
  /-- how many levels are below it at most -/
  depth : Nat
  parent : Nat
  length : Nat
  deriving Inhabited

/-- the state of growing a tree: all nodes, and a heap of those without a parent, from place 1 on -/
structure Growth where
  nodes : Array Node
  heap : Array Nat
  /-- how many nodes are in the heap -/
  size : Nat
  /-- the nodes in the order in which they left the heap, the latest first -/
  left : List Nat

namespace Growth

def node (g : Growth) (n : Nat) : Node := (g.nodes[n]?).getD ⟨0, 0, 0, 0⟩
def at_ (g : Growth) (i : Nat) : Nat := (g.heap[i]?).getD 0

/-- whether a node comes before another one: it is lighter, or as heavy and not deeper -/
def isBefore (g : Growth) (a b : Nat) : Bool :=
  let (x, y) := (g.node a, g.node b)
  x.weight < y.weight || (x.weight = y.weight && x.depth ≤ y.depth)

/-- let a node sink from a place of the heap to where it belongs, by at most `n` levels -/
def sink (g : Growth) (v : Nat) : Nat → Nat → Growth
  | 0, i => { g with heap := g.heap.setIfInBounds i v }
  | n + 1, i =>
    let j := 2 * i
    if g.size < j then { g with heap := g.heap.setIfInBounds i v }
    else
      let j := if j < g.size && g.isBefore (g.at_ (j + 1)) (g.at_ j) then j + 1 else j
      if g.isBefore v (g.at_ j) then { g with heap := g.heap.setIfInBounds i v }
      else { g with heap := g.heap.setIfInBounds i (g.at_ j) }.sink v n j

def depthLimit : Nat := 64

/-- order the heap from a place on -/
def settle (g : Growth) (i : Nat) : Growth := g.sink (g.at_ i) depthLimit i

/-- join the two first nodes under a new one, until there is only one, at most `n` times -/
def join : Nat → Growth → Growth
  | 0, g => g
  | n + 1, g =>
    if g.size < 2 then g
    else
      let a := g.at_ 1
      let g := { g with heap := g.heap.setIfInBounds 1 (g.at_ g.size), size := g.size - 1 }.settle 1
      let b := g.at_ 1
      let (x, y) := (g.node a, g.node b)
      let new := g.nodes.size
      let nodes := (g.nodes.modify a fun v => { v with parent := new }).modify b fun v =>
        { v with parent := new }
      let g := { g with
        nodes := nodes.push ⟨x.weight + y.weight, max x.depth y.depth + 1, 0, 0⟩
        left := b :: a :: g.left
        heap := g.heap.setIfInBounds 1 new }.settle 1
      join n g

end Growth

/-- take one word too many of the longest ones away, by making a shorter word longer -/
def shorten (limit : Nat) : Nat → Array Nat → Array Nat
  | 0, counts => counts
  | n + 1, counts =>
    let bits := ((List.range limit).reverse.find? fun k => (counts[k]?).getD 0 ≠ 0).getD 0
    let counts := counts.modify bits (· - 1)
    let counts := counts.modify (bits + 1) (· + 2)
    shorten limit n (counts.modify limit (· - 1))

/-- the symbols that a code must have words for: those that occur, and as many others as it takes to
have two; the others are the next ones if all that occur are below 2 -/
def used (weights : Array Nat) : List Nat × Array Nat :=
  let found := (List.range weights.size).filter fun n => (weights[n]?).getD 0 ≠ 0
  let missing := match found with
    | [] => [0, 1]
    | [n] => [if n < 2 then n + 1 else 0]
    | _ => []
  (found ++ missing, missing.foldl (fun w n => w.setIfInBounds n 1) weights)

/-- lengths of words for symbols that occur so often, none above a limit; with the highest symbol -/
def lengthsOf (limit : Nat) (weights : Array Nat) : Array Nat × Nat :=
  let (symbols, weights) := used weights
  let leaves := weights.map fun w => Node.mk w 0 0 0
  let start : Growth := ⟨leaves, #[0] ++ symbols.toArray, symbols.length, []⟩
  let start := (List.range (symbols.length / 2)).reverse.foldl (fun g i => g.settle (i + 1)) start
  let g := Growth.join weights.size start
  let root := g.at_ 1
  -- the nodes next to the root get their lengths first
  let step : Array Node × Array Nat × Nat → Nat → Array Node × Array Nat × Nat :=
    fun (nodes, counts, overflow) n =>
      let length := ((nodes[((nodes[n]?).getD default).parent]?).getD default).length + 1
      let overflow := if limit < length then overflow + 1 else overflow
      let length := min length limit
      let nodes := nodes.modify n fun v => { v with length }
      if n < weights.size then (nodes, counts.modify length (· + 1), overflow)
      else (nodes, counts, overflow)
  let nodes := g.nodes.modify root fun v => { v with length := 0 }
  let (nodes, counts, overflow) := g.left.foldl step (nodes, Array.replicate (limit + 1) 0, 0)
  let highest := symbols.foldl max 0
  let plain := (List.range weights.size).toArray.map fun n =>
    if symbols.contains n then ((nodes[n]?).getD default).length else 0
  if overflow = 0 then (plain, highest)
  else
    let counts := shorten limit ((overflow + 1) / 2) counts
    -- the heaviest symbols get the shortest words
    let order := g.left.reverse.filter (· < weights.size)
    let lengths := (List.range limit).reverse.flatMap fun k =>
      List.replicate ((counts[k + 1]?).getD 0) (k + 1)
    ((order.zip lengths).foldl (fun a (n, length) => a.setIfInBounds n length)
      (Array.replicate weights.size 0), highest)

end Prefix

end PatternBuild.Packing

/-!
## The format of packed data

Packed data is a sequence of blocks.  A block holds literal bytes and copies of earlier ones, each
copy by its length and its distance, written with two prefix codes.  Lengths and distances come in
classes, and bits behind the word of a class choose within it.
-/

namespace PatternBuild.Packing

/-- a literal byte, or a copy of bytes at a distance -/
inductive Token where
  | literal (b : UInt8)
  | copy (length distance : Nat)
  deriving DecidableEq, Repr, Inhabited

/-- the symbol that ends a block -/
def endOfBlock : Nat := 256

/-- the bits behind the words of length classes, and of distance classes -/
def lengthExtra : Array Nat :=
  #[0, 0, 0, 0, 0, 0, 0, 0, 1, 1, 1, 1, 2, 2, 2, 2, 3, 3, 3, 3, 4, 4, 4, 4, 5, 5, 5, 5, 0]

def distanceExtra : Array Nat :=
  #[0, 0, 0, 0, 1, 1, 2, 2, 3, 3, 4, 4, 5, 5, 6, 6, 7, 7, 8, 8, 9, 9, 10, 10, 11, 11, 12, 12, 13, 13]

/-- the first value of each class -/
def firstsOf (start : Nat) (extra : Array Nat) : Array Nat :=
  (extra.foldl (fun (firsts, next) n => (firsts.push next, next + Nat.pow 2 n)) (#[], start)).1

/-- the first length of each class; the longest copies have a class of their own -/
def lengthFirst : Array Nat := (firstsOf 3 lengthExtra).setIfInBounds 28 258

def distanceFirst : Array Nat := firstsOf 1 distanceExtra

/-- the class of a value -/
def classOf (firsts : Array Nat) (value : Nat) : Nat :=
  ((List.range firsts.size).reverse.find? fun k => (firsts[k]?).getD 0 ≤ value).getD 0

/-- the lengths of the words of the fixed code for literals and lengths -/
def fixedLengths : Array Nat :=
  (List.replicate 144 8 ++ List.replicate 112 9 ++ List.replicate 24 7 ++ List.replicate 8 8).toArray

/-- the lengths of the words of the fixed code for distances -/
def fixedDistances : Array Nat := Array.replicate 30 5

/-- the order in which the lengths of the code for lengths are sent -/
def codeOrder : List Nat := [16, 17, 18, 0, 8, 7, 9, 6, 10, 5, 11, 4, 12, 3, 13, 2, 14, 1, 15]

/-- the limits of words in the codes for data and for lengths -/
def wordLimit : Nat := 15
def codeWordLimit : Nat := 7

end PatternBuild.Packing
