import PatternBuild.Shell.Format
import PatternBuild.Shell.Regex
import PatternBuild.Shell.Tool.Pieces

/-!
# Cutting: files cut at certain lines

`csplit` cuts where lines are that a pattern or a number means.
-/

namespace PatternBuild.Shell.Tool

open Activity

/-- where a text is cut -/
inductive CutPlace where
  /-- at a line of a number, counted further with every repetition -/
  | number (line : Nat)
  /-- so many lines behind a line that matches; what comes before is left out if it is skipped -/
  | pattern (regex : Regex) (offset : Int) (skips : Bool)

/-- a place with how often it is looked for again, or always -/
structure Cut where
  /-- the argument that names it -/
  text : String
  place : CutPlace
  again : Option Nat

/-- a text that is being cut -/
structure Cutting where
  /-- all lines, and the number of the first one that is left -/
  lines : Array (List Char)
  first : Nat
  /-- the line that was looked at last -/
  current : Nat
  /-- how many files there are, and what the open one holds, the last line first -/
  made : Nat
  open_ : Option (List (List Char))

/-- how the files of `csplit` are named and told -/
structure CutRules where
  start : String
  format : Option String
  width : Nat
  keeps : Bool
  isSilent : Bool
  skipsEmpty : Bool
  /-- whether lines that match are left out -/
  dropsMatched : Bool

/-- what stops the cutting: a complaint, after which the files are taken away, or nothing -/
inductive CutStop where
  /-- the text has come to its end as it should -/
  | finished
  /-- something is wrong, and the files go -/
  | failed
  /-- nothing was left where something was needed -/
  | disappeared
  deriving DecidableEq, Repr

namespace Cutting

/-- the line of a number, if it is left -/
def line? (c : Cutting) (n : Nat) : Option (List Char) :=
  if n < c.first then none else c.lines[n - 1]?

def hasMore (c : Cutting) : Bool := (c.line? (c.current + 1)).isSome

/-- take the first line that is left -/
def take (c : Cutting) : Option (List Char) × Cutting :=
  match c.lines[c.first - 1]? with
  | some line => (some line, { c with current := max c.current c.first, first := c.first + 1 })
  | none => (none, c)

/-- put a line into the open file -/
def save (c : Cutting) (line : List Char) : Cutting :=
  { c with open_ := some (line :: c.open_.getD []) }

/-- put all lines that are left into the open file -/
def saveRest (c : Cutting) : Cutting :=
  let rest := (c.lines.toList.drop (c.first - 1)).reverse
  { c with
    first := c.lines.size + 1
    current := max c.current c.lines.size
    open_ := some (rest ++ c.open_.getD []) }

/-- take lines up to one of a number into the open file, or away -/
def moveTo (c : Cutting) (skips : Bool) (last : Nat) : Nat → Cutting × Bool
  | 0 => (c, true)
  | n + 1 =>
    if last ≤ c.first then (c, true)
    else
      match c.take with
      | (some line, c) => (if skips then c else c.save line).moveTo skips last n
      | (none, c) => (c, false)

end Cutting

/-- the directive in the format of a name, with what stands before and after it -/
def nameDirective? : List Char → Option (List Char × DirectiveText × List Char)
  | '%' :: '%' :: cs => (nameDirective? cs).map fun (before, d, after) => ('%' :: before, d, after)
  | '%' :: cs =>
    let (d, after) := readDirective "-0'#".toList false cs
    some ([], d, after)
  | c :: cs => (nameDirective? cs).map fun (before, d, after) => (c :: before, d, after)
  | [] => none

/-- doubled percent signs stand for one -/
def withoutDoubled : List Char → List Char
  | '%' :: '%' :: cs => '%' :: withoutDoubled cs
  | c :: cs => c :: withoutDoubled cs
  | [] => []

/-- what is wrong with the format of names -/
def nameFormatFault? (format : List Char) : Option String :=
  match nameDirective? format with
  | none => some "missing % conversion specification in suffix"
  | some (_, d, after) =>
    match d.conversion with
    | none => some "missing conversion specifier in suffix"
    | some c =>
      if !"diuoxX".toList.contains c then some ("invalid conversion specifier in suffix: " ++ c.toString)
      else if "diu".toList.contains c && d.flags.contains '#' then
        some ("invalid flags in conversion specification: %#" ++ c.toString)
      else if (nameDirective? after).isSome then some "too many % conversion specifications in suffix"
      else none

/-- a number in the format of names -/
def numberedName (format : List Char) (n : Nat) : List Char :=
  match nameDirective? format with
  | some (before, d, after) =>
    let count : Option Count → Option Nat
      | some (.fixed n) => some n
      | _ => none
    let directive := d.directive ((count d.width).getD 0) ((count d.precision).map Int.ofNat)
      (d.conversion.getD 'd')
    before ++ directive.whole n ++ withoutDoubled after
  | none => format

/-- the name of a file of `csplit` -/
def CutRules.nameOf (r : CutRules) (n : Nat) : String :=
  match r.format with
  | some format => r.start ++ String.ofList (numberedName format.toList n)
  | none =>
    let digits := toString n
    r.start ++ String.ofList (List.replicate (r.width - digits.length) '0') ++ digits

/-! ## carrying a cut out -/

/-- the state of the cutting and what stops it -/
abbrev CutAction := ExceptT CutStop Activity

/-- complain and have the files taken away -/
def failCut {α : Type} (message : String) : CutAction α := do
  Tool.complain "csplit" message
  throw .failed

/-- the end of a complaint about what was looked for again -/
def onRepetition (n : Nat) : String := if n = 0 then "" else s!" on repetition {n}"

/-- open the next file -/
def openPiece (r : CutRules) (c : Cutting) : CutAction Cutting := do
  match ← openToWrite (r.nameOf c.made) false with
  | .ok fd =>
    close fd
    return { c with made := c.made + 1, open_ := some [] }
  | .error f => failCut s!"{shown (r.nameOf c.made)}: {f.message}"

/-- write the open file, and tell how large it is -/
def closePiece (r : CutRules) (c : Cutting) : Activity Cutting := do
  match c.open_ with
  | none => return c
  | some lines =>
    let content := lines.reverse.flatten
    let name := r.nameOf (c.made - 1)
    if content.isEmpty && r.skipsEmpty then
      let d ← disk
      match d.resolve false name with
      | .ok l =>
        match d.remove l with
        | .ok d => setDisk d
        | .error _ => pure ()
      | .error _ => pure ()
      return { c with made := c.made - 1, open_ := none }
    discard (writePiece "csplit" name content)
    if !r.isSilent then Tool.say s!"{content.length}\n"
    return { c with open_ := none }

/-- take the files away that were made -/
def dropPieces (r : CutRules) (c : Cutting) : Activity Unit := do
  for i in List.range c.made do
    let d ← disk
    match d.resolve false (r.nameOf i) with
    | .ok l =>
      match d.remove l with
      | .ok d => setDisk d
      | .error _ => pure ()
    | .error _ => pure ()

/-- stop because something was not found; that may be told before the sizes are -/
def stopCut {α : Type} (r : CutRules) (c : Cutting) (message : String) : CutAction α := do
  tell s!"csplit: {message}\n"
  let c ← closePiece r c
  if !r.keeps then dropPieces r c
  throw .failed

/-- cut in front of a line of a number -/
def cutAtNumber (r : CutRules) (line repetition : Nat) (c : Cutting) : CutAction Cutting := do
  let outOfRange (c : Cutting) : CutAction Cutting :=
    stopCut r c (s!"{cited (toString line)}: line number out of range" ++ onRepetition repetition)
  let c ← openPiece r c
  if r.dropsMatched && !c.hasMore then return ← outOfRange c
  if c.lines.size < c.first then
    Tool.complain "csplit" "input disappeared"
    throw .disappeared
  let (c, isDone) := c.moveTo false (line * (repetition + 1)) c.lines.size
  if !isDone || (c.first < line * (repetition + 1)) then return ← outOfRange c
  let c ← closePiece r c
  let c := if r.dropsMatched then c.take.2 else c
  if !r.dropsMatched && !c.hasMore then return ← outOfRange c
  return c

/-- go on to a line that matches; lines before it are saved at once unless they may belong to what is
cut off behind it -/
def seekMatch (regex : Regex) (savesLate skips : Bool) : Nat → Cutting → Cutting × Bool
  | 0, c => (c, false)
  | n + 1, c =>
    let c := { c with current := c.current + 1 }
    match c.line? c.current with
    | none => (c, false)
    | some line =>
      let text := if line.getLast? == some '\n' then line.dropLast else line
      if regex.occurs false text then (c, true)
      else if savesLate then seekMatch regex savesLate skips n c
      else
        match c.take with
        | (some line, c) => seekMatch regex savesLate skips n (if skips then c else c.save line)
        | (none, c) => (c, false)

/-- cut at a line that matches -/
def cutAtMatch (r : CutRules) (cut : Cut) (regex : Regex) (offset : Int) (skips : Bool)
    (repetition : Nat) (c : Cutting) : CutAction Cutting := do
  let c ← if skips then pure c else openPiece r c
  let (c, isFound) := seekMatch regex (offset < 0) skips (c.lines.size + 1) c
  if !isFound then
    let c := if skips then c else c.saveRest
    if cut.again.isNone then
      discard (closePiece r c)
      throw .finished
    return ← stopCut r c (s!"{cited cut.text}: match not found" ++ onRepetition repetition)
  let last := c.current + offset
  let outOfRange (c : Cutting) : CutAction Cutting := do
    discard flush
    stopCut r c s!"{cited cut.text}: line number out of range"
  if c.lines.size < c.first then
    Tool.complain "csplit" "input disappeared"
    throw .disappeared
  if last < c.first then return ← outOfRange c
  let (c, isDone) := c.moveTo skips last.toNat c.lines.size
  if !isDone || (c.first : Int) < last then return ← outOfRange c
  let c ← if skips then pure c else closePiece r c
  let c := if r.dropsMatched then c.take.2 else c
  return if 0 < offset then { c with current := last.toNat } else c

/-- cut at a place again and again, at most `n` times -/
def cutAgain (r : CutRules) (cut : Cut) : Nat → Nat → Cutting → CutAction Cutting
  | 0, _, c => return c
  | n + 1, repetition, c => do
    if cut.again.any (· < repetition) then return c
    let c ← match cut.place with
      | .number line => cutAtNumber r line repetition c
      | .pattern regex offset skips => cutAtMatch r cut regex offset skips repetition c
    cutAgain r cut n (repetition + 1) c

/-- cut at all places, and make a file of the rest -/
def cutAll (r : CutRules) (cuts : List Cut) (c : Cutting) : CutAction Unit := do
  let c ← cuts.foldlM (fun c cut => cutAgain r cut (c.lines.size + 1 + cut.again.getD 0) 0 c) c
  let c ← openPiece r c
  discard (closePiece r c.saveRest)

/-! ## csplit -/

/-- the place that an argument means -/
def cutPlace (text : String) (last : Nat) : Except String (CutPlace × Nat) := do
  match text.toList with
  | mark :: cs =>
    if mark == '/' || mark == '%' then
      let tail := cs.reverse.takeWhile (· ≠ mark)
      if tail.length = cs.length then throw s!"{text}: closing delimiter '{mark}' missing"
      let pattern := cs.take (cs.length - tail.length - 1)
      let offset ← match tail.reverse with
        | [] => pure 0
        | cs =>
          match wholeNumber? (String.ofList cs) with
          | some n => pure n
          | none => throw s!"{cited text}: integer expected after delimiter"
      match Regex.read .basic pattern with
      | .ok regex => return (.pattern regex offset (mark == '%'), last)
      | .error f => throw s!"{cited text}: invalid regular expression: {f.message}"
    else
      match wholeNumber? text with
      | some n =>
        if n < 0 || 9223372036854775807 < n then throw s!"{cited text}: invalid pattern"
        if n = 0 then throw s!"{text}: line number must be greater than zero"
        if n < last then
          throw s!"line number {cited text} is smaller than preceding line number, {last}"
        return (.number n.toNat, n.toNat)
      | none => throw s!"{cited text}: invalid pattern"
  | [] => throw s!"{cited text}: invalid pattern"

/-- how often a place is looked for again -/
def cutCount (text : String) : Except String (Option Nat) := do
  let cs := text.toList.drop 1
  if cs.getLast? ≠ some '\x7d' then throw s!"{cited text}: '\x7d' is required in repeat count"
  let inside := String.ofList cs.dropLast
  if inside = "*" then return none
  match natural? inside with
  | some n => return some n
  | none => throw ((cited ("\x7b" ++ inside)) ++ "\x7d: integer required between '\x7b' and '\x7d'")

/-- read the arguments that name places -/
def readCuts : Nat → List String → Nat → Except String (List Cut × List String)
  | 0, _, _ => return ([], [])
  | _, [], _ => return ([], [])
  | n + 1, text :: rest, last => do
    let (place, next) ← cutPlace text last
    let warnings := match place with
      | .number line => if line = last then
          [s!"warning: line number {cited text} is the same as preceding line number"] else []
      | _ => []
    let (again, rest) ← match rest with
      | count :: others =>
        if count.startsWith "\x7b" then do pure (← cutCount count, others) else pure (some 0, rest)
      | [] => pure (some 0, rest)
    let (cuts, more) ← readCuts n rest next
    return (⟨text, place, again⟩ :: cuts, warnings ++ more)

def csplit (args : List String) : Activity Nat :=
  withOptions "csplit" (.of "kqsz" "bfn" [("suffix-format", "b", .always), ("prefix", "f", .always),
    ("keep-files", "k", .never), ("digits", "n", .always), ("elide-empty-files", "z", .never),
    ("suppress-matched", "suppress", .never), ("quiet", "s", .never), ("silent", "s", .never)]) 1 args
    fun g => do
  for text in g.values "n" do
    match countWithin "" 0 2147483647 text with
    | .error reason => return ← refuse "csplit" s!"invalid number: {cited text}{reason}" 1
    | .ok _ => pure ()
  match g.operands with
  | [] => misuse "csplit" "missing operand" 1
  | [file] => misuse "csplit" s!"missing operand after {cited file}" 1
  | file :: places =>
    match (g.value? "b").bind fun format => nameFormatFault? format.toList with
    | some message => return ← refuse "csplit" message 1
    | none => pure ()
    match readCuts (places.length + 1) places 0 with
    | .error message => refuse "csplit" message 1
    | .ok (cuts, warnings) =>
      for w in warnings do Tool.complain "csplit" w
      match ← contentOf file with
      | .error f => refuse "csplit" s!"cannot open {quoted file} for reading: {f.message}" 1
      | .ok cs =>
        let r : CutRules := {
          start := (g.value? "f").getD "xx"
          format := g.value? "b"
          width := ((g.value? "n").bind natural?).getD 2
          keeps := g.has "k"
          isSilent := g.has "s" || g.has "q"
          skipsEmpty := g.has "z"
          dropsMatched := g.has "suppress" }
        match ← (cutAll r cuts ⟨(wholeLines '\n' cs).toArray, 1, 0, 0, none⟩).run with
        | .ok _ => return 0
        | .error .finished => return 0
        | .error _ => return 1

end PatternBuild.Shell.Tool
