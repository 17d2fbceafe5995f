import PatternBuild.Shell.Tool.Difference.Lines
import PatternBuild.Shell.Tool.Quantity

/-!
# Reports of differences

Changes between two files are reported in one of several forms.  Changes that lie close together share
a hunk where lines around them are shown too.
-/

namespace PatternBuild.Shell.Tool.Difference

/-- one of the two files that are compared -/
structure Side where
  /-- the name in headings, and the text that stands in its place and that of the time -/
  name : String
  label : Option String
  time : String
  lines : Array (List Char)
  /-- whether the last line has an end -/
  isEnded : Bool

/-- the form of a report -/
inductive Form where
  | normal
  | unified
  | context
  | editor
  | forwardEditor
  | counted
  | sideBySide
  | merged
  deriving DecidableEq, Repr

/-- how differences are reported -/
structure ReportStyle where
  form : Form
  /-- the number of lines around changes -/
  around : Nat
  /-- whether changes of such lines alone do not count -/
  ignoresLine : List Char → Bool
  /-- whether a line is a heading that is shown with the changes under it -/
  isHeading : Option (List Char → Bool)
  /-- the width of a report side by side, and what it leaves out -/
  width : Nat
  leavesCommon : Bool
  onlyLeftCommon : Bool
  /-- tabs are written as blanks, or stand in front of lines -/
  expandsTabs : Bool
  startsWithTab : Bool
  /-- the columns between tab stops -/
  tabSize : Nat
  /-- how both files are written as one text -/
  merging : MergeFormats

namespace Side

/-- a line with its end -/
def lineText (s : Side) (i : Nat) : List Char :=
  let text := (s.lines[i]?).getD []
  if i + 1 = s.lines.size && !s.isEnded then text ++ "\n\\ No newline at end of file\n".toList
  else text ++ ['\n']

end Side

/-- a line with a line feed, as editors want it -/
def Side.fullLine (s : Side) (i : Nat) : List Char := (s.lines[i]?).getD [] ++ ['\n']

/-- a line as it stands in its file -/
def Side.exactLine (s : Side) (i : Nat) : List Char :=
  if i + 1 = s.lines.size && !s.isEnded then (s.lines[i]?).getD [] else s.fullLine i

/-- blanks in the place of tabs -/
def untabbed (tabSize column : Nat) : List Char → List Char
  | [] => []
  | '\t' :: cs =>
    let n := tabSize - column % tabSize
    List.replicate n ' ' ++ untabbed tabSize (column + n) cs
  | '\n' :: cs => '\n' :: untabbed tabSize 0 cs
  | c :: cs => c :: untabbed tabSize (column + 1) cs

namespace ReportStyle

/-- a line behind a mark, with a blank between them if `isApart` holds -/
def markedLine (s : ReportStyle) (mark : List Char) (isApart : Bool) (side : Side) (i : Nat) : List Char :=
  let text := side.lineText i
  let text := if s.expandsTabs then untabbed s.tabSize 0 text else text
  if mark.isEmpty then text
  else if s.startsWithTab then mark ++ '\t' :: text
  else if isApart then mark ++ ' ' :: text else mark ++ text

/-- whether files without changes have a report too -/
def tellsCommon (s : ReportStyle) : Bool :=
  match s.form with
  | .sideBySide => !s.leavesCommon
  | .merged => !s.merging.group.same.isEmpty && !(s.merging.group.same == ['%', '='] && s.merging.line.same.isEmpty)
  | _ => false

/-- whether changes are of lines that do not count -/
def isIgnored (s : ReportStyle) (side0 side1 : Side) (cs : List Change) : Bool :=
  cs.all fun c =>
    ((List.range c.deleted).all fun k => s.ignoresLine ((side0.lines[c.line0 + k]?).getD [])) &&
    (List.range c.inserted).all fun k => s.ignoresLine ((side1.lines[c.line1 + k]?).getD [])

end ReportStyle

/-! ## one change after the other -/

/-- the numbers of lines, or of the line in front of where there are none -/
def rangeText (separator : String) (first count : Nat) : String :=
  if 1 < count then s!"{first + 1}{separator}{first + count}" else toString (first + count)

def Change.letter (c : Change) : String :=
  if c.deleted = 0 then "a" else if c.inserted = 0 then "d" else "c"

/-- the lines of a change in one of the files -/
def linesOfChange (s : ReportStyle) (mark : List Char) (side : Side) (first count : Nat) : List Char :=
  (List.range count).flatMap fun k => s.markedLine mark true side (first + k)

def normalText (s : ReportStyle) (side0 side1 : Side) (c : Change) : List Char :=
  let heading := rangeText "," c.line0 c.deleted ++ c.letter ++ rangeText "," c.line1 c.inserted ++ "\n"
  heading.toList ++ linesOfChange s ['<'] side0 c.line0 c.deleted ++
    (if c.deleted ≠ 0 && c.inserted ≠ 0 then "---\n".toList else []) ++
    linesOfChange s ['>'] side1 c.line1 c.inserted

/-- the lines that an editor is given, in which a lone point needs care; `isOpen` holds while it
takes lines -/
def editorLines (side : Side) (isOpen : Bool) : List Nat → List Char
  | [] => if isOpen then ".\n".toList else []
  | i :: rest =>
    let start := if isOpen then [] else "a\n".toList
    if (side.lines[i]?).getD [] == ['.'] then start ++ "..\n.\ns/.//\n".toList ++ editorLines side false rest
    else start ++ side.fullLine i ++ editorLines side true rest

def editorText (side1 : Side) (c : Change) : List Char :=
  (rangeText "," c.line0 c.deleted ++ c.letter ++ "\n").toList ++
    if c.inserted = 0 then []
    else editorLines side1 true ((List.range c.inserted).map (c.line1 + ·))

def forwardText (side1 : Side) (c : Change) : List Char :=
  (c.letter ++ rangeText " " c.line0 c.deleted ++ "\n").toList ++
    if c.inserted = 0 then []
    else ((List.range c.inserted).flatMap fun k => side1.fullLine (c.line1 + k)) ++ ".\n".toList

def countedText (side1 : Side) (c : Change) : List Char :=
  let taken := if c.deleted = 0 then "" else s!"d{c.line0 + 1} {c.deleted}\n"
  let added := if c.inserted = 0 then "" else s!"a{c.line0 + c.deleted} {c.inserted}\n"
  (taken ++ added).toList ++
    (List.range c.inserted).flatMap fun k => side1.exactLine (c.line1 + k)

/-! ## hunks -/

/-- split changes where enough lines lie between them -/
def hunks (s : ReportStyle) (side0 side1 : Side) : List Change → List (List Change)
  | [] => []
  | c :: rest =>
    match rest, hunks s side0 side1 rest with
    | d :: _, hunk :: others =>
      let isWeak := s.isIgnored side0 side1 [c] || s.isIgnored side0 side1 [d]
      let limit := if isWeak then s.around else 2 * s.around + 1
      if d.line0 - (c.line0 + c.deleted) < limit then (c :: hunk) :: others else [c] :: hunk :: others
    | _, others => [c] :: others

/-- the lines of a hunk in the two files: the first, and the one behind the last -/
structure Extent where
  from0 : Nat
  to0 : Nat
  from1 : Nat
  to1 : Nat

def extentOf (s : ReportStyle) (side0 side1 : Side) (hunk : List Change) : Extent :=
  match hunk.head?, hunk.getLast? with
  | some a, some b =>
    ⟨a.line0 - s.around, min side0.lines.size (b.line0 + b.deleted + s.around),
      a.line1 - s.around, min side1.lines.size (b.line1 + b.inserted + s.around)⟩
  | _, _ => ⟨0, 0, 0, 0⟩

/-- the heading above a line: the last line in front of it that is one -/
def headingAbove (s : ReportStyle) (side : Side) (i : Nat) : List Char :=
  match s.isHeading with
  | none => []
  | some isHeading =>
    match (List.range i).reverse.find? fun k => isHeading ((side.lines[k]?).getD []) with
    | none => []
    | some k =>
      let isSpace (c : Char) : Bool := c == ' ' || ('\t' ≤ c && c ≤ '\r')
      let text := (((side.lines[k]?).getD []).dropWhile isSpace).take 40
      ' ' :: (text.reverse.dropWhile isSpace).reverse

/-- a range of lines in a unified heading -/
def unifiedRange (first stop : Nat) : String :=
  if stop = first then s!"{first},0" else if stop = first + 1 then toString stop
  else s!"{first + 1},{stop - first}"

/-- the lines between two places, and the changes among them -/
def unifiedLines (s : ReportStyle) (side0 side1 : Side) (to0 : Nat) : Nat → List Change → List Char
  | i, [] => (List.range (to0 - i)).flatMap fun k => common (i + k)
  | i, c :: rest =>
    ((List.range (c.line0 - i)).flatMap fun k => common (i + k)) ++
    ((List.range c.deleted).flatMap fun k => s.markedLine ['-'] false side0 (c.line0 + k)) ++
    ((List.range c.inserted).flatMap fun k => s.markedLine ['+'] false side1 (c.line1 + k)) ++
    unifiedLines s side0 side1 to0 (c.line0 + c.deleted) rest
where
  common (i : Nat) : List Char :=
    if s.startsWithTab then '\t' :: side0.lineText i else s.markedLine [' '] false side0 i

def unifiedText (s : ReportStyle) (side0 side1 : Side) (hunk : List Change) : List Char :=
  let e := extentOf s side0 side1 hunk
  (s!"@@ -{unifiedRange e.from0 e.to0} +{unifiedRange e.from1 e.to1} @@").toList ++
    headingAbove s side0 e.from0 ++ '\n' :: unifiedLines s side0 side1 e.to0 e.from0 hunk

/-- a range of lines in a heading of a hunk with context -/
def contextRange (first stop : Nat) : String :=
  if stop ≤ first + 1 then toString stop else s!"{first + 1},{stop}"

/-- the lines of a hunk in one file, with the mark of the change that each belongs to -/
def contextLines (s : ReportStyle) (side : Side) (first stop : Nat) (mark : Nat → List Char) : List Char :=
  (List.range (stop - first)).flatMap fun k => s.markedLine (mark (first + k)) true side (first + k)

def contextText (s : ReportStyle) (side0 side1 : Side) (hunk : List Change) : List Char :=
  let e := extentOf s side0 side1 hunk
  let mark0 (i : Nat) : List Char :=
    match hunk.find? fun c => c.line0 ≤ i && i < c.line0 + c.deleted with
    | some c => if c.inserted = 0 then ['-'] else ['!']
    | none => [' ']
  let mark1 (i : Nat) : List Char :=
    match hunk.find? fun c => c.line1 ≤ i && i < c.line1 + c.inserted with
    | some c => if c.deleted = 0 then ['+'] else ['!']
    | none => [' ']
  "***************".toList ++ headingAbove s side0 e.from0 ++
    (s!"\n*** {contextRange e.from0 e.to0} ****\n").toList ++
    (if hunk.any (0 < ·.deleted) then contextLines s side0 e.from0 e.to0 mark0 else []) ++
    ("--- " ++ contextRange e.from1 e.to1 ++ " ----\n").toList ++
    (if hunk.any (0 < ·.inserted) then contextLines s side1 e.from1 e.to1 mark1 else [])

/-! ## side by side -/

/-- tabs and blanks from a column to another -/
def fill (s : ReportStyle) (from_ to_ : Nat) : List Char :=
  if s.expandsTabs then List.replicate (to_ - from_) ' '
  else
    let tabs := to_ / s.tabSize - from_ / s.tabSize
    if tabs = 0 then List.replicate (to_ - from_) ' '
    else List.replicate tabs '\t' ++ List.replicate (to_ % s.tabSize) ' '

/-- the start of a line up to a bound, and the column that it ends at -/
def halfLine (s : ReportStyle) (bound : Nat) : Nat → Nat → List Char → List Char × Nat
  | _, out, [] => ([], out)
  | at_, out, '\t' :: cs =>
    let stop := at_ + (s.tabSize - at_ % s.tabSize)
    if at_ = out then
      if s.expandsTabs then
        let (rest, column) := halfLine s bound stop (min stop bound) cs
        (List.replicate (min stop bound - out) ' ' ++ rest, column)
      else if stop < bound then
        let (rest, column) := halfLine s bound stop stop cs
        ('\t' :: rest, column)
      else halfLine s bound stop out cs
    else halfLine s bound stop out cs
  | at_, out, c :: cs =>
    if at_ < bound then
      let (rest, column) := halfLine s bound (at_ + 1) (at_ + 1) cs
      (c :: rest, column)
    else halfLine s bound (at_ + 1) out cs

/-- a pair of lines with a mark between them -/
def pairText (s : ReportStyle) (left right : Option (List Char × Bool)) (mark : Char) : List Char :=
  let t := if s.expandsTabs then 1 else s.tabSize
  let middle := s.width / 2 + (t + 3) / 2 + (if s.width % 2 = 1 && (t + 3) % 2 = 1 then 1 else 0)
  let second := middle - middle % t
  let half := min (second - 3) (s.width - second)
  let second := if half = 0 then s.width else second
  let isLeftEnded := left.any (·.2)
  let isEnded := isLeftEnded || right.any (·.2)
  let mark := if mark == '|' && right.any (·.2 != isLeftEnded) then (if isLeftEnded then '/' else '\\')
    else mark
  let (text, column) := match left with
    | some (cs, _) => halfLine s half 0 0 cs
    | none => ([], 0)
  let gutter := (half + second - 1) / 2
  let (text, column) := if mark == ' ' then (text, column)
    else (text ++ fill s column gutter ++ [mark], gutter + 1)
  let text := match right with
    | some (cs, _) =>
      if cs.isEmpty then text else text ++ fill s column second ++ (halfLine s half 0 0 cs).1
    | none => text
  if isEnded then text ++ ['\n'] else text

/-- lines of both files that are common to them, or that differ -/
structure Stretch where
  isCommon : Bool
  lines : MergeGroup

namespace Stretch

/-- the numbers of lines in the two files -/
def oldCount (t : Stretch) : Nat := t.lines.old.2 - t.lines.old.1

def newCount (t : Stretch) : Nat := t.lines.new.2 - t.lines.new.1

end Stretch

/-- the stretches of two files, from two places on; what lies between changes is common -/
def stretches (size0 size1 : Nat) : Nat → Nat → List Change → List Stretch
  | i, j, [] => common i size0 j size1
  | i, j, c :: rest =>
    let stop0 := c.line0 + c.deleted
    let stop1 := c.line1 + c.inserted
    common i c.line0 j c.line1 ++ ⟨false, ⟨(c.line0, stop0), (c.line1, stop1)⟩⟩ ::
      stretches size0 size1 stop0 stop1 rest
where
  common (i i' j j' : Nat) : List Stretch :=
    if i = i' && j = j' then [] else [⟨true, ⟨(i, i'), (j, j')⟩⟩]

/-- the lines of a stretch side by side, one text for each -/
def pairsOf (s : ReportStyle) (side0 side1 : Side) (t : Stretch) : List (List Char) :=
  let both := min t.oldCount t.newCount
  let left (count : Nat) (mark : Char) : List (List Char) :=
    (List.range (t.oldCount - count)).map fun k => pairText s (line side0 (t.lines.old.1 + count + k)) none mark
  let right (mark : Char) : List (List Char) :=
    (List.range (t.newCount - both)).map fun k => pairText s none (line side1 (t.lines.new.1 + both + k)) mark
  let pairs (mark : Char) : List (List Char) :=
    (List.range both).map fun k =>
      pairText s (line side0 (t.lines.old.1 + k)) (line side1 (t.lines.new.1 + k)) mark
  if !t.isCommon then pairs '|' ++ right '>' ++ left both '<'
  else if s.leavesCommon then []
  else if s.onlyLeftCommon then left 0 '('
  else pairs ' ' ++ right ')' ++ left both '('
where
  line (side : Side) (i : Nat) : Option (List Char × Bool) :=
    (side.lines[i]?).map fun cs => (cs, i + 1 < side.lines.size || side.isEnded)

/-! ## both files in one text -/

/-- a stretch of both files in one text -/
def mergedText (f : MergeFormats) (side0 side1 : Side) (t : Stretch) : List Char :=
  let format :=
    if t.isCommon then f.group.same
    else if t.oldCount = 0 then f.group.new
    else if t.newCount = 0 then f.group.old else f.changed
  mergedGroup (mergedLines f.line.old side0.lines side0.isEnded t.lines.old)
    (mergedLines f.line.new side1.lines side1.isEnded t.lines.new)
    (mergedLines f.line.same side0.lines side0.isEnded t.lines.old) t.lines (format.length + 1) format

/-! ## reports -/

/-- a name as headings show it: in quotes if it has blanks or characters that cannot be shown -/
def headingName (name : String) : String :=
  let isSpecial (c : Char) : Bool := c == ' ' || c == '"' || c == '\\' || isHidden c
  if name.toList.any isSpecial then
    let inner := name.toList.flatMap fun c =>
      if c == '"' then ['\\', '"'] else if isHidden c || c == '\\' then spelled c else [c]
    "\"" ++ String.ofList inner ++ "\""
  else name

/-- the two lines that name the files -/
def headingText (mark0 mark1 : String) (side0 side1 : Side) : List Char :=
  let one (mark : String) (side : Side) : String :=
    match side.label with
    | some label => s!"{mark} {label}\n"
    | none => s!"{mark} {headingName side.name}\t{side.time}\n"
  (one mark0 side0 ++ one mark1 side1).toList

/-- the report of changes, of which not all are ignored; lines that are ignored are left out where
whole changes or hunks consist of them -/
def reportText (s : ReportStyle) (side0 side1 : Side) (all : List Change) : List Char :=
  let counted := all.filter fun c => !s.isIgnored side0 side1 [c]
  let groups := (hunks s side0 side1 all).filter fun hunk => !s.isIgnored side0 side1 hunk
  let whole := stretches side0.lines.size side1.lines.size 0 0 counted
  match s.form with
  | .normal => counted.flatMap (normalText s side0 side1)
  | .editor => counted.reverse.flatMap (editorText side1)
  | .forwardEditor => counted.flatMap (forwardText side1)
  | .counted => counted.flatMap (countedText side1)
  | .unified => headingText "---" "+++" side0 side1 ++ groups.flatMap (unifiedText s side0 side1)
  | .context => headingText "***" "---" side0 side1 ++ groups.flatMap (contextText s side0 side1)
  | .sideBySide => whole.flatMap fun t => (pairsOf s side0 side1 t).flatten
  | .merged => whole.flatMap (mergedText s.merging side0 side1)

end PatternBuild.Shell.Tool.Difference
