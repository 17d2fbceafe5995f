import Std.Data.HashMap
import PatternBuild.Shell.Format

/-!
# Differences of lines, found and merged

The changes between two sequences of lines, and both sequences in one text.
-/

/-!
## Differences of lines

Lines that count as equal have the same class.  `Difference.changes` finds the changes that turn one
sequence of classes into another: with as few lines as can be, found by a search from both ends that
meets in the middle, and moved as far down as they can be.
-/

namespace PatternBuild.Shell.Tool.Difference

/-- lines of one sequence that stand in the place of lines of another -/
structure Change where
  line0 : Nat
  deleted : Nat
  line1 : Nat
  inserted : Nat
  deriving DecidableEq, Repr

/-! ### classes -/

/-- number the classes of keys in the order in which they come -/
def classesOf (known : Std.HashMap String Nat) (keys : List String) : Std.HashMap String Nat × Array Nat :=
  keys.foldl (fun (known, found) key =>
    match known[key]? with
    | some n => (known, found.push n)
    | none => (known.insert key known.size, found.push known.size)) (known, #[])

/-! ### meeting in the middle -/

/-- a part of two sequences that is compared -/
structure Region where
  from0 : Nat
  to0 : Nat
  from1 : Nat
  to1 : Nat

/-- how far searches have come on the diagonals, which are places in the first sequence less places
in the second -/
structure Frontier where
  reached : Array Int
  low : Int
  high : Int

/-- the sequences, and the place of diagonal 0 in a frontier -/
structure Sides where
  side0 : Array Nat
  side1 : Array Nat
  center : Int

namespace Sides

def same (s : Sides) (x y : Int) : Bool := s.side0[x.toNat]? == s.side1[y.toNat]?

/-- the place reached on a diagonal -/
def get (s : Sides) (f : Frontier) (d : Int) : Int := (f.reached[(d + s.center).toNat]?).getD 0

def set (s : Sides) (f : Frontier) (d x : Int) : Frontier :=
  { f with reached := f.reached.setIfInBounds (d + s.center).toNat x }

/-- go on while lines are the same -/
def slideDown (s : Sides) (r : Region) : Nat → Int → Int → Int
  | 0, x, _ => x
  | n + 1, x, y =>
    if x < r.to0 && y < r.to1 && s.same x y then slideDown s r n (x + 1) (y + 1) else x

/-- go back while lines are the same -/
def slideUp (s : Sides) (r : Region) : Nat → Int → Int → Int
  | 0, x, _ => x
  | n + 1, x, y =>
    if (r.from0 : Int) < x && (r.from1 : Int) < y && s.same (x - 1) (y - 1) then
      slideUp s r n (x - 1) (y - 1)
    else x

/-- a place beyond all others -/
def beyond : Int := 1000000000

/-- widen a frontier by a diagonal on each side, or narrow it where there are no more -/
def widen (s : Sides) (low high edge : Int) (f : Frontier) : Frontier :=
  let f := if low < f.low then s.set { f with low := f.low - 1 } (f.low - 2) edge
    else { f with low := f.low + 1 }
  if f.high < high then s.set { f with high := f.high + 1 } (f.high + 2) edge
  else { f with high := f.high - 1 }

/-- extend the search from the start by a step on every other diagonal from `d` down; the outcome is
where it meets the search from the end, if it does -/
def stepDown (s : Sides) (r : Region) (other : Frontier) (mayMeet : Bool) :
    Nat → Int → Frontier → Frontier × Option (Int × Int)
  | 0, _, f => (f, none)
  | n + 1, d, f =>
    if d < f.low then (f, none)
    else
      let below := s.get f (d - 1)
      let above := s.get f (d + 1)
      let start := if below < above then above else below + 1
      let x := s.slideDown r (r.to0 + 1) start (start - d)
      let f := s.set f d x
      if mayMeet && other.low ≤ d && d ≤ other.high && s.get other d ≤ x then (f, some (x, x - d))
      else stepDown s r other mayMeet n (d - 2) f

/-- extend the search from the end by a step on every other diagonal from `d` down -/
def stepUp (s : Sides) (r : Region) (other : Frontier) (mayMeet : Bool) :
    Nat → Int → Frontier → Frontier × Option (Int × Int)
  | 0, _, f => (f, none)
  | n + 1, d, f =>
    if d < f.low then (f, none)
    else
      let below := s.get f (d - 1)
      let above := s.get f (d + 1)
      let start := if below < above then below else above - 1
      let x := s.slideUp r (r.to0 + 1) start (start - d)
      let f := s.set f d x
      if mayMeet && other.low ≤ d && d ≤ other.high && x ≤ s.get other d then (f, some (x, x - d))
      else stepUp s r other mayMeet n (d - 2) f

/-- search from both ends in turn until the searches meet -/
def meet (s : Sides) (r : Region) (isOdd : Bool) : Nat → Frontier → Frontier → Int × Int
  | 0, _, _ => (r.from0, r.from1)
  | n + 1, down, up =>
    let low : Int := (r.from0 : Int) - r.to1
    let high : Int := (r.to0 : Int) - r.from1
    let fuel := r.to0 + r.to1 + 2
    let down := s.widen low high (-1) down
    match s.stepDown r up isOdd fuel down.high down with
    | (_, some place) => place
    | (down, none) =>
      let up := s.widen low high beyond up
      match s.stepUp r down (!isOdd) fuel up.high up with
      | (_, some place) => place
      | (up, none) => meet s r isOdd n down up

/-- a place that a shortest way from the start of a region to its end goes through -/
def middle (s : Sides) (r : Region) (blank : Array Int) : Int × Int :=
  let first : Int := (r.from0 : Int) - r.from1
  let last : Int := (r.to0 : Int) - r.to1
  let down := s.set ⟨blank, first, first⟩ first r.from0
  let up := s.set ⟨blank, last, last⟩ last r.to0
  s.meet r ((first - last) % 2 ≠ 0) (r.to0 + r.to1 + 2) down up

/-- the lines of a region that are not in both sequences, marked; `n` bounds how often it is cut -/
def mark (s : Sides) (blank : Array Int) :
    Nat → Region → Array Bool × Array Bool → Array Bool × Array Bool
  | 0, _, marks => marks
  | n + 1, r, marks =>
    let from0 := (s.slideDown r (r.to0 + 1) r.from0 r.from1).toNat
    let r := { r with from1 := r.from1 + (from0 - r.from0), from0 }
    let to0 := (s.slideUp r (r.to0 + 1) r.to0 r.to1).toNat
    let r := { r with to1 := r.to1 - (r.to0 - to0), to0 }
    let all (from_ to_ : Nat) (marks : Array Bool) : Array Bool :=
      (List.range (to_ - from_)).foldl (fun m k => m.setIfInBounds (from_ + k) true) marks
    if r.from0 = r.to0 then (marks.1, all r.from1 r.to1 marks.2)
    else if r.from1 = r.to1 then (all r.from0 r.to0 marks.1, marks.2)
    else
      let (x, y) := s.middle r blank
      let marks := mark s blank n { r with to0 := x.toNat, to1 := y.toNat } marks
      mark s blank n { r with from0 := x.toNat, from1 := y.toNat } marks

end Sides

/-! ### lines that are set aside -/

/-- a line that is certain to be changed, that is likely to be, or any other -/
inductive Standing where
  | kept
  | certain
  | likely
  deriving DecidableEq, Repr, Inhabited

/-- how often classes occur -/
def countsOf (classes : Array Nat) : Std.HashMap Nat Nat :=
  classes.foldl (fun m c => m.insert c ((m[c]?).getD 0 + 1)) {}

/-- double a number as often as a size can be divided by 4, but once -/
def doubled (start : Nat) : Nat → Nat → Nat
  | 0, _ => start
  | n + 1, size => if size / 4 = 0 then start else doubled (2 * start) n (size / 4)

/-- lines that occur nowhere in the other sequence, and those that occur there very often -/
def standings (classes other : Array Nat) : Array Standing :=
  let counts := countsOf other
  let many := doubled 5 64 (classes.size / 64)
  classes.map fun c =>
    match counts[c]? with
    | none => .certain
    | some n => if many < n then .likely else .kept

/-- within a run, no line stays likely up to three certain lines in a row, or up to the first one
behind the eighth line -/
def settleEdge : Nat → Nat → List Standing → List Standing
  | _, _, [] => []
  | at_, row, s :: rest =>
    if 8 ≤ at_ && s = .certain then s :: rest
    else match s with
      | .certain => if row + 1 = 3 then s :: rest else s :: settleEdge (at_ + 1) (row + 1) rest
      | _ => .kept :: settleEdge (at_ + 1) 0 rest

/-- cut likely lines that follow each other out of a run if there are too many of them in a row -/
def settleRows (most : Nat) (run : List Standing) : List Standing :=
  match run with
  | [] => []
  | s :: rest =>
    if s = .likely then
      let row := rest.takeWhile (· = .likely)
      let size := row.length + 1
      let standing := if most ≤ size then Standing.kept else .likely
      List.replicate size standing ++ settleRows most (rest.drop row.length)
    else s :: settleRows most rest
termination_by run.length
decreasing_by all_goals simp_wf <;> omega

/-- settle a run that starts and ends with certain lines -/
def settleRun (run : List Standing) : List Standing :=
  let likely := run.countP (· = .likely)
  if run.length < 4 * likely then run.map fun s => if s = .likely then .kept else s
  else
    let most := doubled 1 64 (run.length / 4) + 1
    let run := settleRows most run
    (settleEdge 0 0 (settleEdge 0 0 run).reverse).reverse

/-- decide which likely lines count as certain: those in the middle of runs of certain ones -/
def settle (all : List Standing) : List Standing :=
  match all with
  | [] => []
  | .certain :: rest =>
    let more := rest.takeWhile (· ≠ .kept)
    let tail := (more.reverse.takeWhile (· = .likely)).length
    let run := Standing.certain :: more.take (more.length - tail)
    settleRun run ++ List.replicate tail .kept ++ settle (rest.drop more.length)
  | _ :: rest => .kept :: settle rest
termination_by all.length
decreasing_by all_goals simp_wf <;> omega

/-- the places of lines that are compared -/
def comparedPlaces (classes other : Array Nat) : Array Nat :=
  let all := (settle (standings classes other).toList).toArray
  (Array.range classes.size).filter fun i => (all[i]?).getD .kept = .kept

/-! ### moving changes -/

/-- the marks of one sequence while its changes are moved, and those of the other one -/
structure Moving where
  classes : Array Nat
  changed : Array Bool
  other : Array Bool

namespace Moving

def isChanged (m : Moving) (i : Nat) : Bool := (m.changed[i]?).getD false
def isOther (m : Moving) (j : Nat) : Bool := (m.other[j]?).getD false
def sameClass (m : Moving) (i k : Nat) : Bool := m.classes[i]? == m.classes[k]?
def put (m : Moving) (i : Nat) (b : Bool) : Moving :=
  { m with changed := m.changed.setIfInBounds i b }

/-- the first place from `i` on where a test fails -/
def skip (test : Nat → Bool) : Nat → Nat → Nat
  | 0, i => i
  | n + 1, i => if test i then skip test n (i + 1) else i

/-- the first place from `i` down in front of which a test fails -/
def skipBack (test : Nat → Bool) : Nat → Nat
  | 0 => 0
  | i + 1 => if test i then skipBack test i else i + 1

def size (m : Moving) : Nat := m.classes.size + m.other.size + 2

/-- the line in front of `j` that is in both sequences -/
def back (m : Moving) (j : Nat) : Nat := skipBack m.isOther j - 1

/-- move a run of changes up while the line in front of it is the same as its last one -/
def moveUp (m : Moving) : Nat → Nat → Nat → Nat → Moving × Nat × Nat × Nat
  | 0, start, i, j => (m, start, i, j)
  | n + 1, start, i, j =>
    if 0 < start && m.sameClass (start - 1) (i - 1) then
      let m := (m.put (start - 1) true).put (i - 1) false
      moveUp m n (skipBack m.isChanged (start - 1)) (i - 1) (m.back j)
    else (m, start, i, j)

/-- move a run of changes down while the line behind it is the same as its first one -/
def moveDown (m : Moving) : Nat → Nat → Nat → Nat → Nat → Moving × Nat × Nat × Nat × Nat
  | 0, start, i, j, match_ => (m, start, i, j, match_)
  | n + 1, start, i, j, match_ =>
    if i < m.classes.size && m.sameClass start i then
      let m := (m.put start false).put i true
      let i := skip m.isChanged m.size (i + 1)
      let j' := skip m.isOther m.size (j + 1)
      moveDown m n (start + 1) i j' (if j + 1 < j' then i else match_)
    else (m, start, i, j, match_)

/-- move a run up and down until it does not grow any more -/
def moveAround (m : Moving) : Nat → Nat → Nat → Nat → Moving × Nat × Nat × Nat × Nat
  | 0, start, i, j => (m, start, i, j, m.classes.size)
  | n + 1, start, i, j =>
    let length := i - start
    let (m, start, i, j) := moveUp m m.size start i j
    let match_ := if 0 < j && m.isOther (j - 1) then i else m.classes.size
    let (m, start, i, j, match_) := moveDown m m.size start i j match_
    if i - start = length then (m, start, i, j, match_) else moveAround m n start i j

/-- move a run back to where a change of the other sequence is -/
def moveBack (m : Moving) : Nat → Nat → Nat → Nat → Nat → Moving × Nat × Nat
  | 0, _, i, j, _ => (m, i, j)
  | n + 1, start, i, j, match_ =>
    if match_ < i then
      let m := (m.put (start - 1) true).put (i - 1) false
      moveBack m n (start - 1) (i - 1) (m.back j) match_
    else (m, i, j)

/-- move all runs of changes from a place on -/
def moveAll (m : Moving) : Nat → Nat → Nat → Moving
  | 0, _, _ => m
  | n + 1, i, j =>
    if m.classes.size ≤ i then m
    else if !m.isChanged i then
      -- a line that is in both sequences
      moveAll m n (i + 1) (skip m.isOther m.size j + 1)
    else
      let stop := skip m.isChanged m.size (i + 1)
      let j := skip m.isOther m.size j
      let (m, start, i, j, match_) := moveAround m m.size i stop j
      let (m, i, j) := moveBack m m.size start i j match_
      moveAll m n i j

end Moving

/-- the marks with all changes of the first sequence moved -/
def moved (classes : Array Nat) (changed other : Array Bool) : Array Bool :=
  (Moving.moveAll ⟨classes, changed, other⟩ (classes.size + other.size + 2) 0 0).changed

/-! ### changes -/

/-- the changes that marks tell, from two places on -/
def collectChanges (marks0 marks1 : Array Bool) : Nat → Nat → Nat → List Change
  | 0, _, _ => []
  | n + 1, i, j =>
    if marks0.size ≤ i && marks1.size ≤ j then []
    else
      let is0 (k : Nat) : Bool := (marks0[k]?).getD false
      let is1 (k : Nat) : Bool := (marks1[k]?).getD false
      let stop0 := Moving.skip is0 marks0.size i
      let stop1 := Moving.skip is1 marks1.size j
      if stop0 = i && stop1 = j then collectChanges marks0 marks1 n (i + 1) (j + 1)
      else
        ⟨i, stop0 - i, j, stop1 - j⟩ :: collectChanges marks0 marks1 n stop0 stop1

/-- the changes between two sequences of classes -/
def changesBetween (side0 side1 : Array Nat) : List Change :=
  let places0 := comparedPlaces side0 side1
  let places1 := comparedPlaces side1 side0
  let pick (side places : Array Nat) : Array Nat := places.map fun i => (side[i]?).getD 0
  let s : Sides := ⟨pick side0 places0, pick side1 places1, (places1.size : Int) + 1⟩
  let blank : Array Int := Array.replicate (places0.size + places1.size + 3) 0
  let fuel := places0.size + places1.size + 1
  let (marks0, marks1) := s.mark blank fuel ⟨0, places0.size, 0, places1.size⟩
    (Array.replicate places0.size false, Array.replicate places1.size false)
  -- lines that are not compared are changed, the others are if they are marked
  let spread (side places : Array Nat) (marks : Array Bool) : Array Bool :=
    (places.toList.zip marks.toList).foldl (fun m (i, b) => m.setIfInBounds i b)
      (Array.replicate side.size true)
  let all0 := spread side0 places0 marks0
  let all1 := spread side1 places1 marks1
  let all0 := moved side0 all0 all1
  let all1 := moved side1 all1 all0
  collectChanges all0 all1 (side0.size + side1.size + 1) 0 0

/-- the number of lines that two lists start with in common -/
def commonStart {α : Type} [BEq α] : List α → List α → Nat
  | a :: as, b :: bs => if a == b then commonStart as bs + 1 else 0
  | _, _ => 0

/-- the changes between two files: `exact` holds the lines as they are, `keys` what counts of them.
Equal lines at both ends are not looked at, but for `margin` of them. -/
def changes (margin : Nat) (exact0 exact1 keys0 keys1 : List String) (looksAtEnds : Bool) :
    List Change :=
  let start := commonStart exact0 exact1
  let rest0 := exact0.drop start
  let rest1 := exact1.drop start
  let tail := if looksAtEnds then commonStart rest0.reverse rest1.reverse else 0
  let skipped := start - margin
  let cut := tail - margin
  let part (keys : List String) : List String := (keys.drop skipped).take (keys.length - skipped - cut)
  let (known, side0) := classesOf {} (part keys0)
  let (_, side1) := classesOf known (part keys1)
  (changesBetween side0 side1).map fun c => { c with line0 := c.line0 + skipped, line1 := c.line1 + skipped }

end PatternBuild.Shell.Tool.Difference

/-!
## Merged reports: both files in one text

Lines of two files come one after the other in groups: lines of both, of the first, of the second, and
changed ones.  Formats say how a group and how a line is written.
-/

namespace PatternBuild.Shell.Tool.Difference

/-- one thing for lines of the first file, of the second and of both -/
structure PerSide (α : Type) where
  old : α
  new : α
  same : α

/-- how groups and lines are written -/
structure MergeFormats where
  line : PerSide (List Char)
  group : PerSide (List Char)
  changed : List Char

namespace MergeFormats

/-- lines for a preprocessor that chooses by a name -/
def choosing (name : String) : MergeFormats where
  line := ⟨"%L".toList, "%L".toList, "%L".toList⟩
  group := ⟨s!"#ifndef {name}\n%<#endif /* ! {name} */\n".toList,
    s!"#ifdef {name}\n%>#endif /* {name} */\n".toList, "%=".toList⟩
  changed := s!"#ifndef {name}\n%<#else /* {name} */\n%>#endif /* {name} */\n".toList

end MergeFormats

/-- lines of one group, by the numbers of the first line and of the line behind the last one -/
structure MergeGroup where
  old : Nat × Nat
  new : Nat × Nat

/-- how a number is written in a format: to the left, its width, its least digits, and its base -/
structure NumberFormat where
  isLeft : Bool
  width : Nat
  digits : Nat
  letter : Char

/-- read how a number is written, and what follows -/
def numberFormat? (cs : List Char) : Option (NumberFormat × List Char) :=
  let (isLeft, cs) := match cs with
    | '-' :: rest => (true, rest)
    | '\'' :: rest => (false, rest)
    | cs => (false, cs)
  let width := cs.takeWhile Char.isDigit
  let cs := cs.drop width.length
  let (digits, cs) := match cs with
    | '.' :: rest =>
      let digits := rest.takeWhile Char.isDigit
      ((String.ofList digits).toNat?.getD 0, rest.drop digits.length)
    | cs => (0, cs)
  match cs with
  | letter :: rest =>
    if "doxX".toList.contains letter then
      some (⟨isLeft, (String.ofList width).toNat?.getD 0, digits, letter⟩, rest)
    else none
  | [] => none

/-- a number as a format says -/
def NumberFormat.text (f : NumberFormat) (n : Int) : List Char :=
  let base := if f.letter == 'd' then 10 else if f.letter == 'o' then 8 else 16
  let body := Nat.toDigits base n.natAbs
  let body := if f.letter == 'X' then body.map Char.toUpper else body
  let filled := List.replicate (f.digits - body.length) '0' ++ body
  let signed := if n < 0 then '-' :: filled else filled
  let gap := List.replicate (f.width - signed.length) ' '
  if f.isLeft then signed ++ gap else gap ++ signed

/-- a character that a format names in quotes, and what follows -/
def namedChar? (cs : List Char) : Option (Char × List Char) :=
  match cs with
  | '\'' :: '\\' :: rest =>
    let digits := rest.takeWhile fun c => '0' ≤ c && c ≤ '7'
    if digits.isEmpty then none
    else some (Char.ofNat (digits.foldl (fun n c => 8 * n + (c.toNat - 48)) 0 % 256),
      (rest.drop digits.length).drop 1)
  | '\'' :: c :: '\'' :: rest => some (c, rest)
  | _ => none

/-- write a line, which may have no end, in at most `n` steps -/
def mergedLine (text : List Char) (isEnded : Bool) (number : Nat) : Nat → List Char → List Char
  | 0, _ => []
  | n + 1, cs =>
    let go := mergedLine text isEnded number n
    match cs with
    | [] => []
    | ['%', 'l', '\n'] => text ++ if isEnded then ['\n'] else []
    | '%' :: '%' :: rest => '%' :: go rest
    | '%' :: 'l' :: rest => text ++ go rest
    | '%' :: 'L' :: rest => text ++ (if isEnded then ['\n'] else []) ++ go rest
    | '%' :: 'c' :: rest => match namedChar? rest with
      | some (c, rest) => c :: go rest
      | none => '%' :: 'c' :: go rest
    | '%' :: rest => match numberFormat? rest with
      | some (f, 'n' :: more) => f.text number ++ go more
      | _ => '%' :: go rest
    | c :: rest => c :: go rest

/-- a number that a letter names for a group: its first and its last line, those around it, and how many
lines it has -/
def MergeGroup.number? (g : MergeGroup) (letter : Char) : Option Int :=
  let (first, stop) := if letter.isUpper then g.new else g.old
  match letter.toLower with
  | 'e' => some first
  | 'f' => some (first + 1)
  | 'l' => some stop
  | 'm' => some (stop + 1)
  | 'n' => some ((stop : Int) - first)
  | _ => none

/-- a part of a format up to one of two marks that belongs to no inner part -/
def upToMarks (a b : Char) : Nat → Nat → List Char → List Char × List Char
  | 0, _, cs => ([], cs)
  | n + 1, depth, cs =>
    match cs with
    | [] => ([], [])
    | c :: rest =>
      if depth = 0 && (c == a || c == b) then ([], c :: rest)
      else
        let isOpening := c == '%' && rest.head? == some '('
        let depth := if isOpening then depth + 1 else if c == ')' then depth - 1 else depth
        let taken := if isOpening then 2 else 1
        let (found, rest) := upToMarks a b n depth (cs.drop taken)
        (cs.take taken ++ found, rest)

/-- write a group, in at most `n` steps -/
def mergedGroup (old new same : List Char) (g : MergeGroup) : Nat → List Char → List Char
  | 0, _ => []
  | n + 1, cs =>
    let go := mergedGroup old new same g n
    let value (cs : List Char) : Option Int :=
      match cs with
      | [c] => if c.isDigit then some (c.toNat - 48) else g.number? c
      | cs => (String.ofList cs).toInt?
    match cs with
    | [] => []
    | '%' :: '%' :: rest => '%' :: go rest
    | '%' :: '<' :: rest => old ++ go rest
    | '%' :: '>' :: rest => new ++ go rest
    | '%' :: '=' :: rest => same ++ go rest
    | '%' :: 'c' :: rest => match namedChar? rest with
      | some (c, rest) => c :: go rest
      | none => '%' :: 'c' :: go rest
    | '%' :: '(' :: rest =>
      let (left, more) := (rest.takeWhile (· ≠ '='), (rest.dropWhile (· ≠ '=')).drop 1)
      let (right, more) := (more.takeWhile (· ≠ '?'), (more.dropWhile (· ≠ '?')).drop 1)
      let (thenPart, more) := upToMarks ':' ')' n 0 more
      let (elsePart, more) := match more with
        | ':' :: more =>
          let (part, more) := upToMarks ')' ')' n 0 more
          (part, more.drop 1)
        | more => ([], more.drop 1)
      go (if (value left).isSome && value left == value right then thenPart else elsePart) ++ go more
    | '%' :: rest => match numberFormat? rest with
      | some (f, letter :: more) => match g.number? letter with
        | some k => f.text k ++ go more
        | none => '%' :: go rest
      | _ => '%' :: go rest
    | c :: rest => c :: go rest

/-- the lines of a file in a range -/
def mergedLines (format : List Char) (lines : Array (List Char)) (isEnded : Bool) (range : Nat × Nat) : List Char :=
  (List.range (range.2 - range.1)).flatMap fun k =>
    let i := range.1 + k
    mergedLine ((lines[i]?).getD []) (i + 1 < lines.size || isEnded) (i + 1) (format.length + 1) format

end PatternBuild.Shell.Tool.Difference
