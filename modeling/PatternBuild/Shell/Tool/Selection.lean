import PatternBuild.Shell.Tool.Pieces

/-!
# Selection: lines in an order of chance

`shuf` draws numbers from a source of octets, and lines by them.  An octet that is only partly used is
kept for the next draw.
-/

namespace PatternBuild.Shell.Tool

open Activity

/-- where chance comes from: the octets of a file that are left, or nobody knows -/
inductive ChanceSource where
  | octets (path : String) (left : List Char)
  | unknown

/-- chance that is left from earlier draws: a number, and the largest that it could have been -/
structure Chance where
  source : ChanceSource
  number : Nat
  most : Nat

/-- drawing fails at the end of the octets -/
abbrev Draw := StateT Chance (ExceptT String Activity)

namespace Draw

/-- the next octet -/
def octet : Draw Nat := do
  let c ← get
  match c.source with
  | .unknown => return ((← (randomOctets 1 : Activity (List Char))).headD '\x00').toNat
  | .octets path (x :: left) =>
    set { c with source := .octets path left }
    return x.toNat
  | .octets path [] => throw s!"{quoted path}: end of file"

/-- take octets in until the number could be at least `most`, at most `n` of them -/
def widen (most : Nat) : Nat → Draw Unit
  | 0 => return
  | n + 1 => do
    let c ← get
    if most ≤ c.most then return
    let x ← octet
    modify fun c => { c with number := c.number * 256 + x, most := c.most * 256 + 255 }
    widen most n

/-- a number up to `most`, all of them with the same chance, in at most `n` attempts -/
def upTo (most : Nat) : Nat → Draw Nat
  | 0 => return 0
  | n + 1 => do
    widen most 9
    let c ← get
    let choices := most + 1
    if c.most = most then
      set { c with number := 0, most := 0 }
      return c.number
    let excess := c.most - most
    let unusable := excess % choices
    let reduced := c.number % choices
    if c.number ≤ c.most - unusable then
      set { c with number := c.number / choices, most := excess / choices }
      return reduced
    else
      set { c with number := reduced, most := unusable - 1 }
      upTo most n

/-- the attempts that are made -/
def attempts : Nat := 1000

/-- one of so many numbers -/
def among (count : Nat) : Draw Nat := upTo (count - 1) attempts

/-- so many items in an order of chance, with `done` of them in place -/
def shuffled (done : Nat) : Nat → Array String → Draw (Array String)
  | 0, items => return items
  | n + 1, items => do
    let j ← among (items.size - done)
    let swapped := match items[done]?, items[done + j]? with
      | some a, some b => (items.setIfInBounds done b).setIfInBounds (done + j) a
      | _, _ => items
    shuffled (done + 1) n swapped

/-- items of a stream of which only so many are kept: each new one may take the place of another -/
def sampled (kept : Array String) (seen : Nat) : List String → Draw (Array String)
  | [] => do
    -- the fate of the line after the last one is drawn before it is known that there is none
    discard (among (seen + 1))
    return kept
  | item :: rest => do
    let j ← among (seen + 1)
    sampled (kept.setIfInBounds j item) (seen + 1) rest

end Draw

/-- what `shuf` is told to do -/
structure SelectionRules where
  limit : Option Nat
  repeats : Bool
  mark : Char
  /-- whether the lines come from a stream, of which only so many are kept -/
  isStream : Bool

/-- draw lines -/
def SelectionRules.draw (r : SelectionRules) (items : Array String) : Draw (List String) := do
  match r.limit, r.isStream with
  | some count, true =>
    let first := items.toList.take count
    let kept ← if first.length < count then pure first.toArray
      else Draw.sampled first.toArray count (items.toList.drop count)
    return (← Draw.shuffled 0 (min count kept.size) kept).toList.take count
  | limit, _ =>
    let count := min (limit.getD items.size) items.size
    return (← Draw.shuffled 0 count items).toList.take count

/-- print lines drawn again and again, at most `n` of them -/
def printDrawn (items : Array String) (mark : Char) : Nat → Chance → Activity Nat
  | 0, _ => return 0
  | n + 1, chance => do
    match ← ((Draw.among items.size).run chance).run with
    | .error message => refuse "shuf" message 1
    | .ok (j, chance) =>
      Tool.out (((items[j]?).getD "").toList ++ [mark])
      giveWay
      printDrawn items mark n chance

/-- the numbers from one to another -/
def numberRange (text : String) : Except String (List String) := do
  match splitAt? '-' text.toList with
  | (low, some high) =>
    let bound (cs : List Char) : Except String Nat :=
      (countWithin "" 0 largestCount (String.ofList cs)).mapError fun reason =>
        cited (String.ofList cs) ++ reason
    let low ← bound low
    let high ← bound high
    if high + 1 < low then throw (cited text)
    return (List.range (high + 1 - low)).map fun i => toString (low + i)
  | _ => throw (cited text)

/-- the lines that `shuf` draws from, and whether they come from a stream -/
def drawnLines (g : Given) (mark : Char) : Activity (Except (Activity Nat) (Array String × Bool)) := do
  match g.values "i", g.has "e" with
  | range :: _, _ =>
    match numberRange range with
    | .error told => return .error (refuse "shuf" s!"invalid input range: {told}" 1)
    | .ok items =>
      match g.operands with
      | extra :: _ => return .error (extraOperand "shuf" extra 1)
      | [] => return .ok (items.toArray, false)
  | [], true => return .ok (g.operands.toArray, false)
  | [], false =>
    match g.operands with
    | _ :: extra :: _ => return .error (extraOperand "shuf" extra 1)
    | operands =>
      let path := operands.headD "-"
      match ← openOperand path with
      | .error f => return .error (refuse "shuf" s!"{shown path}: {f.message}" 1)
      | .ok fd =>
        let isStream := match ← streamOf fd with
          | some (_, .file _ _ _) => false
          | _ => true
        match ← readAll fd with
        | .error f => return .error (refuse "shuf" s!"read error: {f.message}" 1)
        | .ok cs =>
          close fd
          return .ok (((partsOf mark cs).1.map String.ofList).toArray, isStream)

/-- the source of chance that is given -/
def chanceSource (g : Given) : Activity (Except String ChanceSource) := do
  match g.value? "source" with
  | none => return .ok .unknown
  | some path =>
    match ← contentOf path with
    | .ok cs => return .ok (.octets path cs)
    | .error f => return .error s!"{shown path}: {f.message}"

def shuf (args : List String) : Activity Nat :=
  withOptions "shuf" (.of "erz" "ino" [("echo", "e", .never), ("input-range", "i", .always),
    ("head-count", "n", .always), ("output", "o", .always), ("random-source", "source", .always),
    ("repeat", "r", .never), ("zero-terminated", "z", .never)]) 1 args fun g => do
  if 1 < (g.values "i").length then return ← refuse "shuf" "multiple -i options specified" 1
  let lineCount (text : String) : Option Nat := match readCount "" text with
    | .ok n => some n
    | .error .tooLarge => some largestCount
    | .error _ => none
  match (g.values "n").find? fun text => (lineCount text).isNone with
  | some text => return ← refuse "shuf" s!"invalid line count: {cited text}" 1
  | none => pure ()
  if g.has "e" && g.has "i" then return ← misuse "shuf" "cannot combine -e and -i options" 1
  match g.values "o" with
  | first :: rest =>
    if rest.any (· ≠ first) then return ← refuse "shuf" "multiple output files specified" 1
  | [] => pure ()
  let mark := if g.has "z" then '\x00' else '\n'
  let limit := ((g.values "n").filterMap lineCount).min?
  match ← drawnLines g mark with
  | .error refusal => refusal
  | .ok (items, isStream) =>
    match ← chanceSource g with
    | .error message => refuse "shuf" message 1
    | .ok source =>
      match g.value? "o" with
      | none => pure ()
      | some path =>
        match ← openToWrite path false with
        | .error f => return ← refuse "shuf" s!"{shown path}: {f.message}" 1
        | .ok fd =>
          match ← streamOf fd with
          | some (n, _) => setDescriptor 1 n
          | none => pure ()
      let r : SelectionRules := ⟨limit, g.has "r", mark, isStream⟩
      if r.repeats && limit ≠ some 0 then
        if items.isEmpty then return ← refuse "shuf" "no lines to repeat" 1
        printDrawn items mark (limit.getD endless) ⟨source, 0, 0⟩
      else
        match ← ((r.draw items).run ⟨source, 0, 0⟩).run with
        | .error message => refuse "shuf" message 1
        | .ok (lines, _) =>
          for line in lines do Tool.out (line.toList ++ [mark])
          return 0

end PatternBuild.Shell.Tool
