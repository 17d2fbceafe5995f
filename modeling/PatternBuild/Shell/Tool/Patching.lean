import PatternBuild.Shell.Tool.Basic
import PatternBuild.Shell.Tool.Calendar.Reading

/-!
# Patching

Differences are read as hunks under headings, and hunks are put into files.
-/

/-!
## Hunks: changes of neighbouring lines

A hunk has the lines that it looks for and those that take their place.  Lines that both have are its
context.  Hunks are read from the forms in which differences are written.
-/

namespace PatternBuild.Shell.Tool.Patching

/-- the form of a difference -/
inductive Form where
  | normal
  | unified
  /-- lines before and after apart; the newer way has stars behind ranges too -/
  | context (isNewer : Bool)
  | script
  deriving DecidableEq, Repr

/-- a line of a hunk: a blank stands in front of context, a dash, a plus or a mark in front of the rest -/
structure HunkLine where
  sign : Char
  /-- the text with what ends it -/
  text : List Char
  deriving DecidableEq, Repr

/-- a change of neighbouring lines -/
structure Hunk where
  /-- the first line that is looked for -/
  first : Nat
  old : List HunkLine
  newFirst : Nat
  new : List HunkLine
  /-- what stands behind the ranges -/
  title : List Char
  deriving Repr

namespace Hunk

/-- how many lines of context begin a list -/
def contextOf (lines : List HunkLine) : Nat := (lines.takeWhile (·.sign == ' ')).length

/-- the context in front of the change, and behind it -/
def leading (h : Hunk) : Nat := min (contextOf h.old) (contextOf h.new)
def trailing (h : Hunk) : Nat := min (contextOf h.old.reverse) (contextOf h.new.reverse)

/-- the hunk that takes the change back -/
def reversed (h : Hunk) : Hunk :=
  let turned (lines : List HunkLine) : List HunkLine := lines.map fun l =>
    { l with sign := if l.sign == '-' then '+' else if l.sign == '+' then '-' else l.sign }
  { h with first := h.newFirst, old := turned h.new, newFirst := h.first, new := turned h.old }

/-- lines with a mark where lines are taken away and put in at one place, at most `n` steps -/
def markedUpTo : Nat → List HunkLine → List HunkLine → List HunkLine × List HunkLine
  | 0, old, new => (old, new)
  | n + 1, old, new =>
    let taken := old.takeWhile (·.sign == '-')
    let put := new.takeWhile (·.sign == '+')
    let mark (lines : List HunkLine) : List HunkLine :=
      if taken.isEmpty || put.isEmpty then lines else lines.map fun l => { l with sign := '!' }
    let oldRest := old.drop taken.length
    let newRest := new.drop put.length
    let common (lines : List HunkLine) : List HunkLine := lines.takeWhile fun l => l.sign ≠ '-' && l.sign ≠ '+'
    let oldCommon := common oldRest
    let newCommon := common newRest
    if old.isEmpty && new.isEmpty then ([], [])
    else
      let (a, b) := markedUpTo n (oldRest.drop oldCommon.length) (newRest.drop newCommon.length)
      (mark taken ++ oldCommon ++ a, mark put ++ newCommon ++ b)

/-- the hunk with a mark in front of lines that take the place of others -/
def marked (h : Hunk) : Hunk :=
  let (old, new) := markedUpTo (h.old.length + h.new.length + 1) h.old h.new
  { h with old, new }

end Hunk

/-! ### reading -/

/-- a text with differences that is read line by line -/
structure PatchText where
  rest : List (List Char)
  /-- the number of the last line that was read -/
  number : Nat
  /-- the columns in front of each line that do not count -/
  indent : Nat
  /-- whether carriage returns at the ends of lines do not count -/
  dropsReturns : Bool
  /-- whether the text was seen to end within a line -/
  isTorn : Bool

/-- reading of hunks; a fault is told by a message -/
abbrev HunkReader := ExceptT String (StateM PatchText)

/-- a line without the columns that do not count -/
def withoutIndent : Nat → Nat → List Char → List Char
  | wanted, at_, c :: cs =>
    if wanted ≤ at_ then c :: cs
    else if c == ' ' || c == 'X' then withoutIndent wanted (at_ + 1) cs
    else if c == '\t' then withoutIndent wanted ((at_ + 8) / 8 * 8) cs
    else c :: cs
  | _, _, [] => []

/-- a line without a carriage return at its end -/
def withoutReturn (line : List Char) : List Char :=
  match line.reverse with
  | '\n' :: '\r' :: cs => ('\n' :: cs).reverse
  | _ => line

/-- the next line, of at most `n` that are looked at; lines behind a number sign do not count -/
def nextLineUpTo : Nat → HunkReader (Option (List Char))
  | 0 => return none
  | n + 1 => do
    let t ← get
    match t.rest with
    | [] => return none
    | line :: rest =>
      if line.getLast? ≠ some '\n' then
        set { t with rest := [], isTorn := true }
        return none
      else
        set { t with rest, number := t.number + 1 }
        let line := withoutIndent t.indent 0 line
        if line.head? == some '#' then nextLineUpTo n
        else return some (if t.dropsReturns then withoutReturn line else line)

/-- the next line -/
def nextLine : HunkReader (Option (List Char)) := do nextLineUpTo ((← get).rest.length + 1)

/-- go back to where reading was -/
def goBack (t : PatchText) : HunkReader Unit := modify fun u => { t with isTorn := u.isTorn }

/-- whether the line before is told to lack an end -/
def lacksEnd : HunkReader Bool := do
  let t ← get
  match t.rest with
  | line :: rest =>
    if (withoutIndent t.indent 0 line).head? == some '\\' then
      set { t with rest }
      return true
    return false
  | [] => return false

/-- fail at the line that was read last -/
def malformed {α : Type} (line : List Char) : HunkReader α := do
  let number := (← get).number
  throw (s!"malformed patch at line {number}: " ++ String.ofList line)

/-- a number and what follows it -/
def numeralOf (cs : List Char) : Option (Nat × List Char) :=
  let digits := cs.takeWhile Char.isDigit
  if digits.isEmpty then none
  else (String.ofList digits).toNat?.map fun n => (n, cs.drop digits.length)

/-- the text of a line that may lack its end -/
def endedText (isOpen : Bool) (cs : List Char) : List Char := if isOpen then cs.dropLast else cs

/-! #### the unified form -/

/-- a range: a first line and a number of lines -/
def unifiedRange (cs : List Char) : Option (Nat × Nat × List Char) := do
  let (first, rest) ← numeralOf cs
  match rest with
  | ',' :: rest =>
    let (count, rest) ← numeralOf rest
    return (first, count, rest)
  | rest => return (first, 1, rest)

/-- the ranges of a hunk, and what stands behind them -/
def unifiedRanges? (line : List Char) : Option ((Nat × Nat) × (Nat × Nat) × List Char) := do
  let (first, count, rest) ← unifiedRange (line.drop 4)
  let rest := if rest.head? == some ' ' then rest.drop 1 else rest
  guard (rest.head? == some '+')
  let (newFirst, newCount, rest) ← unifiedRange (rest.drop 1)
  let rest := if rest.head? == some ' ' then rest.drop 1 else rest
  guard (rest.head? == some '@')
  let rest := rest.drop 1
  let title := if "@ ".toList.isPrefixOf rest then (rest.drop 1).takeWhile (· ≠ '\n') else []
  return ((first, count), (newFirst, newCount), title)

/-- the lines of a hunk, of which so many are still to come; what was read comes the latest first -/
def unifiedLines : Nat → Nat → Nat → List HunkLine → List HunkLine → HunkReader (List HunkLine × List HunkLine)
  | 0, _, _, old, new => return (old.reverse, new.reverse)
  | n + 1, oldLeft, newLeft, old, new => do
    if oldLeft = 0 && newLeft = 0 then return (old.reverse, new.reverse)
    let line ← match ← nextLine with
      | some line => pure line
      | none =>
        -- blank lines at the end may have been lost
        if newLeft ≤ 3 then pure " \n".toList else throw "unexpected end of file in patch"
    let (sign, text) := match line with
      | '\t' :: _ => (' ', line)
      | '\n' :: _ => (' ', line)
      | c :: rest => (c, rest)
      | [] => (' ', [])
    let sign := if sign == '=' then ' ' else sign
    let takesOld := sign == '-' || sign == ' '
    let takesNew := sign == '+' || sign == ' '
    if !(takesOld || takesNew) then malformed line
    if takesOld && oldLeft = 0 || takesNew && newLeft = 0 then malformed line
    let isOpen ← if (takesOld && oldLeft = 1) || (takesNew && newLeft = 1) then lacksEnd else pure false
    let found : HunkLine := ⟨sign, endedText isOpen text⟩
    unifiedLines n (if takesOld then oldLeft - 1 else oldLeft) (if takesNew then newLeft - 1 else newLeft)
      (if takesOld then found :: old else old) (if takesNew then found :: new else new)

/-- the next hunk of the unified form -/
def unifiedHunk : HunkReader (Option Hunk) := do
  let before ← get
  match ← nextLine with
  | none => return none
  | some line =>
    if !"@@ -".toList.isPrefixOf line then
      goBack before
      return none
    match unifiedRanges? line with
    | none => malformed line
    | some ((first, count), (newFirst, newCount), title) =>
      let (old, new) ← unifiedLines (count + newCount + 1) count newCount [] []
      if old.all (·.sign == ' ') && new.all (·.sign == ' ') then
        malformed ((old.getLast?.map fun l => l.sign :: l.text).getD line)
      return some ⟨if count = 0 then first + 1 else first, old, if newCount = 0 then newFirst + 1 else newFirst,
        new, title⟩

/-! #### the form with context -/

/-- a range: a first line and a number of lines -/
def contextRange? (cs : List Char) : Option (Nat × Nat) := do
  let cs := cs.dropWhile fun c => !c.isDigit
  let (first, rest) ← numeralOf cs
  match rest with
  | ',' :: rest =>
    let (last, _) ← numeralOf (rest.dropWhile (· == ' '))
    if first = 0 then return (1, 0)
    return (first, last + 1 - first)
  | _ => return (if first = 0 then (1, 0) else (first, 1))

/-- the lines of one half of a hunk, at most so many of them -/
def contextLines (signs : List Char) : Nat → List HunkLine → HunkReader (List HunkLine)
  | 0, found => return found.reverse
  | n + 1, found => do
    let before ← get
    match ← nextLine with
    | none => return found.reverse
    | some line =>
      let read : Option HunkLine := match line with
        | c :: ' ' :: text => if signs.contains c then some ⟨c, text⟩ else none
        | c :: '\t' :: text => if signs.contains c then some ⟨c, '\t' :: text⟩ else none
        | ['\n'] => some ⟨' ', ['\n']⟩
        | _ => none
      match read with
      | none =>
        goBack before
        return found.reverse
      | some l =>
        let isOpen ← lacksEnd
        contextLines signs n ({ l with text := endedText isOpen l.text } :: found)

/-- the next hunk of the form with context -/
def contextHunk : HunkReader (Option Hunk) := do
  let before ← get
  match ← nextLine with
  | none => return none
  | some stars =>
    if !"********".toList.isPrefixOf stars then
      goBack before
      return none
    let title := (stars.dropWhile (· == '*')).takeWhile (· ≠ '\n')
    let line ← match ← nextLine with
      | some line => pure line
      | none => throw "unexpected end of file in patch"
    if !"*** ".toList.isPrefixOf line then
      goBack before
      return none
    let (first, count) ← match contextRange? line with
      | some range => pure range
      | none => malformed line
    let old ← contextLines [' ', '-', '!'] count []
    let line ← match ← nextLine with
      | some line => pure line
      | none => throw "unexpected end of file in patch"
    if !"--- ".toList.isPrefixOf line then malformed line
    let (newFirst, newCount) ← match contextRange? line with
      | some range => pure range
      | none => malformed line
    let new ← contextLines [' ', '+', '!'] newCount []
    if old.isEmpty && new.isEmpty then throw "unexpected end of file in patch"
    let common (lines : List HunkLine) : List HunkLine := lines.filter (·.sign == ' ')
    let old := if old.isEmpty && 0 < count then common new else old
    let new := if new.isEmpty && 0 < newCount then common old else new
    if old.length ≠ count || new.length ≠ newCount then throw "unexpected end of file in patch"
    return some ⟨first, old, newFirst, new, title⟩

/-! #### the normal form -/

/-- what a line says that is a change: the lines looked for, the letter, and the lines put in -/
def normalCommand? (line : List Char) : Option (Nat × Nat × Char × Nat × Nat) := do
  let (first, rest) ← numeralOf line
  let (last, rest) ← match rest with
    | ',' :: rest => numeralOf rest
    | rest => some (first, rest)
  match rest with
  | letter :: rest =>
    guard ("acd".toList.contains letter)
    let (newFirst, rest) ← numeralOf rest
    let (newLast, rest) ← match rest with
      | ',' :: rest => numeralOf rest
      | rest => some (newFirst, rest)
    guard ((rest.dropWhile fun c => c == ' ' || c == '\t').takeWhile (· ≠ '\n') == [])
    return (first, last, letter, newFirst, newLast)
  | [] => none

/-- lines of one side, which all begin with a mark -/
def normalLines (mark sign : Char) : Nat → HunkReader (List HunkLine)
  | 0 => return []
  | n + 1 => do
    match ← nextLine with
    | none =>
      let number := (← get).number
      throw s!"unexpected end of file in patch at line {number}"
    | some line =>
      match line with
      | c :: blank :: text =>
        if c ≠ mark || !(blank == ' ' || blank == '\t') then
          let number := (← get).number
          throw s!"'{mark}' expected at line {number} of patch"
        let isOpen ← if n = 0 then lacksEnd else pure false
        return ⟨sign, endedText isOpen text⟩ :: (← normalLines mark sign n)
      | _ =>
        let number := (← get).number
        throw s!"'{mark}' expected at line {number} of patch"

/-- the next hunk of the normal form -/
def normalHunk : HunkReader (Option Hunk) := do
  let before ← get
  match ← nextLine with
  | none => return none
  | some line =>
    if !(line.head?.any Char.isDigit) then
      goBack before
      return none
    match normalCommand? line with
    | none => malformed line
    | some (first, last, letter, newFirst, newLast) =>
      let count := if letter == 'a' then 0 else last + 1 - first
      let newCount := if letter == 'd' then 0 else newLast + 1 - newFirst
      let old ← normalLines '<' '-' count
      if letter == 'c' then
        match ← nextLine with
        | some ('-' :: _) => pure ()
        | some _ =>
          let number := (← get).number
          throw s!"'---' expected at line {number} of patch"
        | none =>
          let number := (← get).number
          throw s!"unexpected end of file in patch at line {number}"
      let new ← normalLines '>' '+' newCount
      return some ⟨if letter == 'a' then first + 1 else first, old, if letter == 'd' then newFirst + 1 else newFirst,
        new, []⟩

/-- the next hunk of a form -/
def nextHunk : Form → HunkReader (Option Hunk)
  | .unified => unifiedHunk
  | .context _ => contextHunk
  | .normal => normalHunk
  | .script => return none

end PatternBuild.Shell.Tool.Patching

/-!
## Headings: what stands in front of the hunks of a file

A heading names the file in its old and its new state, with the times of both.  A time at the very start of
the calendar means that there is no such file.
-/

namespace PatternBuild.Shell.Tool.Patching

/-- what a heading says about one state of a file -/
structure FileState where
  name : Option String
  /-- what stands behind the name -/
  time : List Char
  /-- whether the time says that there is no file; nothing is known without a time -/
  isMissing : Option Bool
  /-- how surely there is no file or an empty one: 0 means that nothing says so, 2 that there is none -/
  absence : Nat
  mode : Option Nat
  isRenamed : Bool
  isCopied : Bool
  deriving Repr

def FileState.unknown : FileState := ⟨none, [], none, 0, none, false, false⟩

/-- a heading with the form of what follows it -/
structure Heading where
  old : FileState
  new : FileState
  index : Option String
  hasAttributes : Bool
  /-- whether a line names both states -/
  isNamedTwice : Bool
  form : Form
  /-- the number of the first line of the hunks -/
  start : Nat

namespace Heading

/-- a name without so many of its directories, or without all of them -/
def withoutDirs (strip : Option Nat) (name : List Char) : Option (List Char) :=
  let slashes := (List.range name.length).filter fun i => name[i]? == some '/'
  -- slashes side by side count once
  let ends := slashes.filter fun i => name[i + 1]? ≠ some '/'
  match strip with
  | none =>
    let rest := match ends.getLast? with
      | some i => name.drop (i + 1)
      | none => name
    if rest.isEmpty then none else some rest
  | some 0 => if name.isEmpty then none else some name
  | some n =>
    match ends[n - 1]? with
    | some i => if (name.drop (i + 1)).isEmpty then none else some (name.drop (i + 1))
    | none => none

/-- a name in double quotes, and what follows it -/
def quotedName : Nat → List Char → Option (List Char × List Char)
  | 0, _ => none
  | n + 1, cs =>
    match cs with
    | '"' :: rest => some ([], rest)
    | '\\' :: c :: rest =>
      let letters : List (Char × Char) := [('a', '\x07'), ('b', '\x08'), ('f', '\x0c'), ('n', '\n'),
        ('r', '\r'), ('t', '\t'), ('v', '\x0b'), ('\\', '\\'), ('"', '"')]
      match letters.lookup c with
      | some found => (quotedName n rest).map fun (name, rest) => (found :: name, rest)
      | none =>
        let digits := ((c :: rest).take 3).takeWhile fun c => '0' ≤ c && c ≤ '7'
        if digits.length ≠ 3 then none
        else
          let value := digits.foldl (fun n c => 8 * n + (c.toNat - 48)) 0
          (quotedName n (rest.drop 2)).map fun (name, rest) => (Char.ofNat value :: name, rest)
    | '\n' :: _ => none
    | c :: rest => (quotedName n rest).map fun (name, rest) => (c :: name, rest)
    | [] => none

def isSpace (c : Char) : Bool := c == ' ' || (9 ≤ c.toNat && c.toNat ≤ 13)

/-- a name and what stands behind it: blanks end a name, but only tabs if there are any -/
def nameOf (cs : List Char) : Option (List Char × List Char) :=
  let cs := cs.dropWhile isSpace
  match cs with
  | '"' :: rest => quotedName (rest.length + 1) rest
  | cs =>
    if cs.contains '\t' then some (cs.takeWhile (· ≠ '\t'), cs.dropWhile (· ≠ '\t'))
    else some (cs.takeWhile fun c => !isSpace c, cs.dropWhile fun c => !isSpace c)

/-- whether a time is so near to the start of the calendar that it means that there is no file -/
def isStart (now : Nat) (cs : List Char) : Bool :=
  let text := String.ofList (cs.filter fun c => c ≠ '\n' && c ≠ '\r')
  match Calendar.readMoment? now text with
  | some t => -90000 * 1000000000 < t && t < 93600 * 1000000000
  | none => false

/-- take a name into account -/
def named (strip : Option Nat) (now : Nat) (s : FileState) (cs : List Char) : FileState :=
  match nameOf cs with
  | none => s
  | some (name, rest) =>
    if name == "/dev/null".toList then { s with isMissing := some true }
    else match withoutDirs strip name with
      | none => s
      | some name =>
        let time := rest.filter fun c => c ≠ '\n' && c ≠ '\r'
        let isTimed := time.any fun c => !isSpace c
        { s with name := some (String.ofList name), time,
                 isMissing := if isTimed then some (isStart now time) else none }

/-- how surely a range of no lines means that there is no file -/
def absenceOf (s : FileState) : Nat := if s.isMissing == some true then 2 else 1

end Heading

/-- how headings are looked for -/
structure HeadingRules where
  strip : Option Nat
  now : Nat
  /-- the form that is expected -/
  form : Option Form
  /-- whether a heading must be there -/
  isNeeded : Bool

/-- what is known while a heading is looked for -/
structure Search where
  /-- the states as they are named by the lines with stars or pluses, and with dashes -/
  first : FileState
  second : FileState
  index : Option String
  isNeeded : Bool
  hasAttributes : Bool
  isNamedTwice : Bool
  /-- what the last line was -/
  wasStars : Bool
  wasCommand : Bool
  /-- where the last line begins -/
  previous : PatchText

/-- a line that is a change of the normal form -/
def isCommand (cs : List Char) : Bool := (normalCommand? cs).isSome

/-- whether a form may follow -/
def HeadingRules.expects (r : HeadingRules) (f : Form) : Bool :=
  match r.form with
  | none => true
  | some (.context _) => f == .context true || f == .context false
  | some g => f == g

/-- take a line of a heading into account -/
def Search.plus (q : Search) (r : HeadingRules) (s : List Char) : Search :=
  let starts (mark : String) : Bool := mark.toList.isPrefixOf s
  let modeAt (n : Nat) : Option Nat :=
    let digits := (s.drop n).takeWhile fun c => '0' ≤ c && c ≤ '7'
    some (digits.foldl (fun n c => 8 * n + (c.toNat - 48)) 0 % 4096)
  let attributed (q : Search) : Search := { q with hasAttributes := true }
  if !q.wasStars && starts "*** " then
    { q with first := Heading.named r.strip r.now q.first (s.drop 4), isNeeded := false }
  else if starts "+++ " then
    { q with first := Heading.named r.strip r.now q.first (s.drop 4), isNeeded := false }
  else if starts "Index:" then
    let found := Heading.named r.strip r.now .unknown (s.drop 6)
    { q with index := found.name.or q.index, isNeeded := false }
  else if starts "diff --git " then
    let names := do
      let (a, rest) ← Heading.nameOf (s.drop 11 |>.filter (· ≠ '\t'))
      let (b, _) ← Heading.nameOf rest
      let a ← Heading.withoutDirs r.strip a
      let b ← Heading.withoutDirs r.strip b
      return (String.ofList a, String.ofList b)
    { q with first := { q.first with name := names.map (·.1) }
             second := { q.second with name := names.map (·.2) }
             isNamedTwice := true, isNeeded := false }
  else if q.isNamedTwice && starts "index " then
    let hex (cs : List Char) : List Char := cs.takeWhile fun c => c.isDigit || ('a' ≤ c && c ≤ 'f')
    let a := hex (s.drop 6)
    let rest := s.drop (6 + a.length)
    let b := hex (rest.drop 2)
    if !"..".toList.isPrefixOf rest then q
    else
      let absence (cs : List Char) : Nat :=
        let empty := "e69de29bb2d1d6434b8b29ae775ad8c2e48c5391".toList
        if cs.all (· == '0') then 2 else if cs.isPrefixOf empty then 1 else 0
      attributed { q with first := { q.first with absence := absence a }
                          second := { q.second with absence := absence b } }
  else if q.isNamedTwice && starts "old mode " then
    attributed { q with first := { q.first with mode := modeAt 9 } }
  else if q.isNamedTwice && starts "new mode " then
    attributed { q with second := { q.second with mode := modeAt 9 } }
  else if q.isNamedTwice && starts "deleted file mode " then
    attributed { q with first := { q.first with mode := modeAt 18 }, second := { q.second with absence := 2 } }
  else if q.isNamedTwice && starts "new file mode " then
    attributed { q with second := { q.second with mode := modeAt 14 }, first := { q.first with absence := 2 } }
  else if q.isNamedTwice && starts "rename from " then
    attributed { q with first := { q.first with isRenamed := true } }
  else if q.isNamedTwice && starts "rename to " then
    attributed { q with second := { q.second with isRenamed := true } }
  else if q.isNamedTwice && starts "copy from " then
    attributed { q with first := { q.first with isCopied := true } }
  else if q.isNamedTwice && starts "copy to " then
    attributed { q with second := { q.second with isCopied := true } }
  else if starts "--- " then
    { q with second := Heading.named r.strip r.now q.second (s.drop 4) }
  else q

/-- the name and the time of one state with the attributes of the other -/
def exchanged (a b : FileState) : FileState × FileState :=
  ({ a with name := b.name, time := b.time, isMissing := b.isMissing },
    { b with name := a.name, time := a.time, isMissing := a.isMissing })

/-- look for a heading in at most `n` lines -/
def findHeading (r : HeadingRules) : Nat → Search → HunkReader (Option Heading)
  | 0, _ => return none
  | n + 1, q => do
    let here ← get
    let finish (old new : FileState) (form : Form) (start : PatchText) (indent : Nat) (dropsReturns : Bool) :
        HunkReader (Option Heading) := do
      goBack { start with indent, dropsReturns }
      return some ⟨old, new, q.index, q.hasAttributes, q.isNamedTwice, form, start.number + 1⟩
    match ← nextLine with
    | none =>
      if q.hasAttributes then
        return some ⟨q.first, q.second, q.index, true, true, .unified, (← get).number⟩
      return none
    | some line =>
      let s := line.dropWhile fun c => c == ' ' || c == '\t' || c == 'X'
      let indent := (line.take (line.length - s.length)).foldl (fun n c =>
        if c == '\t' then (n + 8) / 8 * 8 else n + 1) 0
      let hasReturn := withoutReturn line ≠ line
      if q.isNamedTwice && q.hasAttributes && "diff --git ".toList.isPrefixOf s then
        goBack here
        return some ⟨q.first, q.second, q.index, true, true, .unified, here.number + 1⟩
      let isStars := "********".toList.isPrefixOf s
      let q := q.plus r s
      let q' := { q with wasStars := isStars, wasCommand := isCommand s, previous := here }
      if q.isNeeded then findHeading r n q'
      else if r.expects .unified && "@@ -".toList.isPrefixOf s then
        let (old, new) := exchanged q.first q.second
        match unifiedRanges? s with
        | some ((first, _), (newFirst, _), _) =>
          let old := if first = 0 then { old with absence := Heading.absenceOf old } else old
          let new := if newFirst = 0 then { new with absence := Heading.absenceOf new } else new
          finish old new .unified here indent hasReturn
        | none => finish old new .unified here indent hasReturn
      else if r.expects (.context true) && q.wasStars && "*** ".toList.isPrefixOf s then
        let old := match contextRange? (s.drop 4) with
          | some (_, 0) => { q.first with absence := Heading.absenceOf q.first }
          | _ => q.first
        let isNewer := (s.reverse.drop 1).head? == some '*'
        -- the first hunk tells whether the file goes away
        let start := { q.previous with indent, dropsReturns := hasReturn }
        goBack start
        let new ← match ← contextHunk with
          | some h => pure (if h.new.isEmpty && h.newFirst = 1 then
              { q.second with absence := Heading.absenceOf q.second } else q.second)
          | none => pure q.second
        finish old new (.context isNewer) q.previous indent hasReturn
      else if r.expects .normal && q.wasCommand &&
          ("< ".toList.isPrefixOf s || "> ".toList.isPrefixOf s) then
        finish q.first q.second .normal q.previous indent hasReturn
      else findHeading r n q'

/-- the next heading; the text is behind it then -/
def nextHeading (r : HeadingRules) : HunkReader (Option Heading) := do
  modify fun t => { t with indent := 0, dropsReturns := false }
  let here ← get
  findHeading r (here.rest.length + 1) ⟨.unknown, .unknown, none, r.isNeeded, false, false, false, false, here⟩

end PatternBuild.Shell.Tool.Patching

/-!
## Placing: where hunks belong in a file, and what comes of it

A hunk is looked for at the line that it names and then ever further away from there.  Lines of its context
may be left out of the search.  Hunks are put into a file from its start to its end.
-/

namespace PatternBuild.Shell.Tool.Patching

/-- how far a file has been changed -/
structure Progress where
  lines : Array (List Char)
  /-- how many lines have been copied or left out -/
  frozen : Nat
  /-- how much lower hunks were found than they say, and how much lower lines stand that come after them -/
  inOffset : Int
  outOffset : Int
  /-- the new lines, the latest first -/
  written : List (List Char)

namespace Progress

def start (lines : List (List Char)) : Progress := ⟨lines.toArray, 0, 0, 0, []⟩

/-- a line by its number, which starts with 1 -/
def line (p : Progress) (n : Int) : List Char := if n < 1 then [] else (p.lines[n.toNat - 1]?).getD []

/-- whether the last line that was written has an end -/
def isClosed (p : Progress) : Bool := match p.written with
  | line :: _ => line.getLast? == some '\n'
  | [] => true

/-- write a line -/
def write (p : Progress) (line : List Char) : Progress := { p with written := line :: p.written }

/-- write a line of its own, whatever was written before -/
def writeApart (p : Progress) (line : String) : Progress :=
  p.write ((if p.isClosed then [] else ['\n']) ++ line.toList)

/-- copy lines up to a number; none if they have been copied already -/
def copyTo (p : Progress) (last : Int) : Option Progress :=
  if last < p.frozen then none
  else
    let n := min last.toNat p.lines.size
    let new := ((List.range (n - p.frozen)).map fun i => (p.lines[p.frozen + i]?).getD []).reverse
    some { p with written := new ++ p.written, frozen := max n p.frozen }

/-- all lines, those that were not copied yet too -/
def finish (p : Progress) : List (List Char) :=
  p.written.reverse ++ (p.lines.toList.drop p.frozen)

end Progress

/-! ### comparing -/

/-- whether a line fits another one in which blanks stand for any number of them -/
def fitsLoosely : Nat → List Char → List Char → Bool
  | 0, _, _ => false
  | n + 1, a, b =>
    let isBlank (c : Char) : Bool := c == ' ' || c == '\t'
    match b with
    | c :: rest =>
      if isBlank c then
        let b := b.dropWhile isBlank
        match a with
        | [] => b.isEmpty
        | d :: _ => isBlank d && fitsLoosely n (a.dropWhile isBlank) b
      else match a with
        | d :: more => c == d && fitsLoosely n more rest
        | [] => false
    | [] => (a.dropWhile isBlank).isEmpty

/-- whether two lines are the same, for which numbers of blanks may not count -/
def sameLine (loosely : Bool) (a b : List Char) : Bool :=
  let bare (cs : List Char) : List Char := if cs.getLast? == some '\n' then cs.dropLast else cs
  if loosely then fitsLoosely (a.length + b.length + 1) (bare a) (bare b) else a == b

/-- whether a hunk fits at a line, without so many lines at its ends -/
def Progress.fits (p : Progress) (loosely : Bool) (old : List HunkLine) (first : Int) (skipFront skipBack : Nat) :
    Bool :=
  let looked := (old.take (old.length - skipBack)).drop skipFront
  looked.zipIdx.all fun (l, i) => sameLine loosely (p.line (first + skipFront + i)) l.text

/-! ### looking for a place -/

/-- the first distance at which a hunk fits, of `n` of them -/
def searchFrom (fits : Int → Bool) (mostDown mostUp : Int) : Nat → Int → Option Int
  | 0, _ => none
  | n + 1, offset =>
    if offset ≤ mostDown && fits offset then some offset
    else if 0 < offset && offset ≤ mostUp && fits (-offset) then some (-offset)
    else searchFrom fits mostDown mostUp n (offset + 1)

/-- the line where a hunk fits, leaving out so many lines of context -/
def Progress.locate (p : Progress) (loosely : Bool) (h : Hunk) (fuzz : Nat) : Option Int × Progress :=
  let guess : Int := h.first + p.inOffset
  let count : Int := h.old.length
  let size : Int := p.lines.size
  let frozen : Int := p.frozen
  let leading : Int := h.leading
  let trailing : Int := h.trailing
  let context := max leading trailing
  let skipFront := fuzz + leading - context
  let skipBack := fuzz + trailing - context
  let highest := size - (count - skipBack) + 1
  let lowest := frozen + 1
  let mostDown := highest - guess
  let mostUp := guess - lowest
  let furthest := max mostDown mostUp
  let at_ (offset : Int) : Option Int × Progress := (some (guess + offset), { p with inOffset := p.inOffset + offset })
  if count = 0 then (some guess, p)
  else
    let mostUp := if guess ≤ mostUp then guess - 1 else mostUp
    let fitsAt (front back : Int) (offset : Int) : Bool :=
      p.fits loosely h.old (guess + offset) front.toNat back.toNat
    if skipFront < 0 && h.first ≤ 1 then
      -- such a hunk belongs at the start
      if skipBack < 0 && (count ≠ size || leading < frozen) then (none, p)
      else
        let offset := 1 - guess
        if frozen ≤ leading && offset ≤ mostDown && fitsAt 0 skipBack offset then at_ offset else (none, p)
    else
      let skipFront := max skipFront 0
      if skipBack < 0 then
        -- such a hunk belongs at the end
        let offset := guess - (size - count + 1)
        if offset ≤ mostUp && fitsAt skipFront 0 (-offset) then at_ (-offset) else (none, p)
      else
        let least := if mostDown < 0 then guess - highest else if mostUp < 0 then guess - lowest else 0
        match searchFrom (fitsAt skipFront skipBack) mostDown mostUp (furthest - least + 1).toNat least with
        | some offset => at_ offset
        | none => (none, p)

/-! ### putting in -/

/-- what encloses lines that are only in one of the two states -/
inductive Enclosure where
  | outside
  | inOld
  | inNew
  | inOther
  deriving DecidableEq, Repr

/-- lines for a preprocessor around what only one state has -/
structure Marks where
  onlyOld : String
  onlyNew : String
  other : String
  stop : String

/-- the lines around what a name chooses -/
def Marks.of (name : String) (isReversed : Bool) : Marks :=
  if isReversed then ⟨s!"#ifdef {name}\n", s!"#ifndef {name}\n", "#else\n", "#endif\n"⟩
  else ⟨s!"#ifndef {name}\n", s!"#ifdef {name}\n", "#else\n", "#endif\n"⟩

/-- put lines in and leave others out from a line on, in at most `n` steps -/
def putLines (marks : Option Marks) (first : Int) : Nat → Nat → Enclosure → List HunkLine → List HunkLine →
    Progress → Option (Progress × Enclosure)
  | 0, _, e, _, _, p => some (p, e)
  | n + 1, place, e, old, new, p =>
    let upTo : Option Progress := p.copyTo (first - 1 + place)
    let enter (e' : Enclosure) (line : Marks → String) (p : Progress) : Progress × Enclosure := match marks with
      | some m => (p.writeApart (line m), e')
      | none => (p, e)
    let leaveOut (p : Progress) (l : HunkLine) : Progress :=
      let p := if marks.isSome then p.write l.text else p
      { p with frozen := p.frozen + 1 }
    let isPut (l : HunkLine) : Bool := l.sign == '+'
    match old, new with
    | o :: olds, new =>
      if o.sign == '-' then do
        let p ← upTo
        let (p, e) := match e with
          | .outside => enter .inOld Marks.onlyOld p
          | .inNew => enter .inOther Marks.other p
          | _ => (p, e)
        putLines marks first n (place + 1) e olds new (leaveOut p o)
      else match new with
        | [] => some (p, e)
        | w :: news =>
          if isPut w then do
            let p ← upTo
            let (p, e) := match e with
              | .inOld => enter .inOther Marks.other p
              | .outside => enter .inNew Marks.onlyNew p
              | _ => (p, e)
            putLines marks first n place e (o :: olds) news (p.write w.text)
          else if w.sign == '!' then do
            let p ← upTo
            let out := (o :: olds).takeWhile (·.sign == '!')
            let put := (w :: news).takeWhile (·.sign == '!')
            let (p, _) := enter .inOld Marks.onlyOld p
            let p := out.foldl leaveOut p
            let (p, e) := enter .inOther Marks.other p
            let p := put.foldl (fun p l => p.write l.text) p
            putLines marks first n (place + out.length) e ((o :: olds).drop out.length)
              ((w :: news).drop put.length) p
          else
            let (p, e) := match e, marks with
              | .outside, _ => (p, e)
              | _, some m => (p.writeApart m.stop, .outside)
              | _, none => (p, e)
            putLines marks first n (place + 1) e olds news p
    | [], w :: news =>
      if isPut w then do
        let p ← upTo
        let (p, e) := match e with
          | .inOld => enter .inOther Marks.other p
          | .outside => enter .inNew Marks.onlyNew p
          | _ => (p, e)
        putLines marks first n place e [] news (p.write w.text)
      else some (p, e)
    | [], [] => some (p, e)

/-- put a hunk in at a line; none if that line has been left behind -/
def Progress.put (p : Progress) (marks : Option Marks) (h : Hunk) (first : Int) : Option Progress := do
  let steps := h.old.length + h.new.length + 1
  let (p, e) ← putLines marks first steps 0 .outside h.old h.new p
  let p := match marks, e with
    | _, .outside => p
    | some m, _ => p.writeApart m.stop
    | none, _ => p
  return { p with outOffset := p.outOffset + h.new.length - h.old.length }

/-! ### hunks that have no place -/

/-- a range of the unified form -/
def unifiedRangeText (first : Int) (count : Nat) : String :=
  match count with
  | 0 => s!"{first - 1},0"
  | 1 => toString first
  | _ => s!"{first},{count}"

/-- lines of both states in the unified form, in at most `n` steps -/
def mergedLines : Nat → List HunkLine → List HunkLine → List HunkLine
  | 0, _, _ => []
  | n + 1, old, new =>
    match old, new with
    | o :: olds, new =>
      if o.sign == '-' then o :: mergedLines n olds new
      else match new with
        | w :: news =>
          if w.sign == '+' then w :: mergedLines n (o :: olds) news
          else o :: mergedLines n olds news
        | [] => o :: mergedLines n olds []
    | [], w :: news => w :: mergedLines n [] news
    | [], [] => []

/-- a line behind its sign, with a note if it has no end -/
def signedText (start : List Char) (l : HunkLine) : List Char :=
  start ++ l.text ++ if l.text.getLast? == some '\n' then [] else "\n\\ No newline at end of file\n".toList

/-- a hunk in the unified form -/
def Hunk.unifiedText (h : Hunk) (offset : Int) : List Char :=
  let old := unifiedRangeText (h.first + offset) h.old.length
  let new := unifiedRangeText (h.newFirst + offset) h.new.length
  let lines := mergedLines (h.old.length + h.new.length + 1) h.old h.new
  s!"@@ -{old} +{new} @@".toList ++ h.title ++ ['\n'] ++ lines.flatMap fun l => signedText [l.sign] l

/-- a hunk in the form with context -/
def Hunk.contextText (h : Hunk) (offset : Int) (isNewer : Bool) : List Char :=
  let range (first : Int) (count : Nat) : String :=
    let last := first + count - 1
    if last < first then "0" else if last = first then toString first else s!"{first},{last}"
  let old := range (h.first + offset) h.old.length
  let new := range (h.newFirst + offset) h.new.length
  let body (lines : List HunkLine) : List Char := lines.flatMap fun l => signedText [l.sign, ' '] l
  "***************".toList ++ h.title ++ ("\n*** " ++ old ++ (if isNewer then " ****\n" else "\n")).toList ++
    body h.old ++ ("--- " ++ new ++ (if isNewer then " ----\n" else " -----\n")).toList ++ body h.new

end PatternBuild.Shell.Tool.Patching
