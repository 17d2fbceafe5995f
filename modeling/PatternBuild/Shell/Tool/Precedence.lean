import PatternBuild.Shell.Tool.Order

/-!
# Precedence: names put in an order that pairs demand

`tsort` reads pairs of names and prints every name after those that stand before it in a pair.  Where
names demand each other in a circle, one of the pairs of the circle is given up.
-/

namespace PatternBuild.Shell.Tool

open Activity

/-- names in their usual order, with the pairs that are not fulfilled yet -/
structure Precedence where
  names : Array String
  /-- for each name in how many pairs it is the second -/
  waits : Array Nat
  /-- for each name those that are the second in its pairs, the latest pair first -/
  next : Array (List Nat)

/-- what happens while names are put in order -/
inductive PrecedenceEvent where
  | placed (i : Nat)
  /-- names that demand each other in a circle -/
  | circle (members : List Nat)
  deriving DecidableEq, Repr

namespace Precedence

/-- neighbours that are equal, only once -/
def withoutTwins : List String → List String
  | a :: b :: rest => if a = b then withoutTwins (b :: rest) else a :: withoutTwins (b :: rest)
  | rest => rest

def empty (names : Array String) : Precedence :=
  ⟨names, Array.replicate names.size 0, Array.replicate names.size []⟩

/-- take in a pair; one of equal names demands nothing -/
def add (p : Precedence) (a b : Nat) : Precedence :=
  if a = b then p
  else { p with
    waits := p.waits.modify b (· + 1)
    next := p.next.modify a (b :: ·) }

/-- take in pairs of names -/
def addPairs (p : Precedence) (numbers : Table String Nat) : List String → Precedence
  | a :: b :: rest =>
    let numberOf (name : String) : Nat := (numbers.get? name).getD 0
    (p.add (numberOf a) (numberOf b)).addPairs numbers rest
  | _ => p

/-- the order that pairs of names demand -/
def ofPairs (names : List String) : Precedence :=
  let known := withoutTwins (names.mergeSort fun a b => compareOctets a.toList b.toList != .gt)
  let numbers : Table String Nat := known.zipIdx.foldl (fun t (name, i) => t.insert name i) .empty
  (empty known.toArray).addPairs numbers names

/-- fulfil the pairs of a name that has its place; the names that wait for nothing any more come behind
those that are waiting for their place -/
def fulfil (p : Precedence) (queue : List Nat) : List Nat → Precedence × List Nat
  | [] => (p, queue)
  | i :: rest =>
    let p := { p with waits := p.waits.modify i (· - 1) }
    let queue := if p.waits[i]? == some 0 then queue ++ [i] else queue
    p.fulfil queue rest

/-- give places to the names that wait for nothing, at most `n` of them; the latest come first -/
def place (p : Precedence) (placed : List Nat) : Nat → List Nat → Precedence × List Nat
  | 0, _ => (p, placed)
  | _, [] => (p, placed)
  | n + 1, i :: queue =>
    let (p, queue) := p.fulfil queue ((p.next[i]?).getD [])
    ({ p with next := p.next.setIfInBounds i [] }).place (i :: placed) n queue

/-- a search for a circle: a chain of names, each demanding the one before it, the latest first -/
structure Search where
  chain : List Nat
  /-- the circle, with the pair that is given up -/
  found : Option (List Nat × Nat × Nat)

/-- try to lengthen the chain by a name, or to close it -/
def Search.step (p : Precedence) (s : Search) (i : Nat) : Search :=
  if s.found.isSome || p.waits[i]? == some 0 then s
  else
    match s.chain with
    | [] => { s with chain := [i] }
    | last :: earlier =>
      if ((p.next[i]?).getD []).contains last then
        -- the first name of a chain may come once more before the circle is closed
        if ((last :: earlier).dropLast).contains i then
          let members := (last :: earlier).takeWhile (· ≠ i) ++ [i]
          { s with found := some (members, i, last) }
        else { s with chain := i :: s.chain }
      else s

/-- search through all names, again and again, at most `n` times -/
def search (p : Precedence) : Nat → Search → Option (List Nat × Nat × Nat)
  | 0, _ => none
  | n + 1, s =>
    let s := (List.range p.names.size).foldl (Search.step p) s
    match s.found with
    | some found => some found
    | none => p.search n s

/-- remove one pair -/
def drop (p : Precedence) (a b : Nat) : Precedence :=
  { p with
    waits := p.waits.modify b (· - 1)
    next := p.next.modify a fun names => names.erase b }

/-- put all names in order, in at most `n` rounds -/
def order (p : Precedence) : Nat → List Nat → List PrecedenceEvent
  | 0, _ => []
  | n + 1, left =>
    let free := left.filter fun i => p.waits[i]? == some 0
    let (p, placed) := p.place [] left.length free
    let left := left.filter fun i => !placed.contains i
    let events := placed.reverse.map PrecedenceEvent.placed
    if left.isEmpty then events
    else
      match p.search (2 * p.names.size + 2) ⟨[], none⟩ with
      | some (members, a, b) => events ++ .circle members :: (p.drop a b).order n left
      | none => events

/-- how many pairs there are -/
def size (p : Precedence) : Nat := p.waits.foldl (· + ·) 0

end Precedence

/-- the words of a text -/
def wordsOf (cs : List Char) : List String :=
  let isBetween (c : Char) : Bool := c == ' ' || c == '\t' || c == '\n'
  ((cs.splitBy fun a b => isBetween a == isBetween b).filter fun word =>
    !(word.head?.any isBetween)).map String.ofList

def tsort (args : List String) : Activity Nat :=
  withOptions "tsort" (.of "" "" []) 1 args fun g => do
  match g.operands with
  | _ :: extra :: _ => extraOperand "tsort" extra 1
  | operands =>
    let path := operands.headD "-"
    match ← contentOf path with
    | .error f => refuse "tsort" s!"{shown path}: {f.message}" 1
    | .ok cs =>
      let words := wordsOf cs
      if words.length % 2 = 1 then
        return ← refuse "tsort" s!"{shown path}: input contains an odd number of tokens" 1
      let p := Precedence.ofPairs words
      let nameOf (i : Nat) : String := (p.names[i]?).getD ""
      let mut code := 0
      for event in p.order (p.size + 1) (List.range p.names.size) do
        match event with
        | .placed i => Tool.say (nameOf i ++ "\n")
        | .circle members =>
          Tool.complain "tsort" s!"{shown path}: input contains a loop:"
          for i in members do Tool.complain "tsort" (nameOf i)
          code := 1
      return code

end PatternBuild.Shell.Tool
