import PatternBuild.Shell.Tool.Changes
import PatternBuild.Shell.Tool.Patching
import PatternBuild.Shell.Tool.Paths

/-!
# Patch: differences put into files

`patch` reads differences and makes the changes that they tell of.  Hunks that have no place in a file are
kept in a file of their own.
-/

namespace PatternBuild.Shell.Tool

namespace Patching

open Activity

/-- what is done about files that may not be written -/
inductive ReadOnlyRule where
  | warns
  | ignores
  | refuses
  deriving DecidableEq, Repr

/-- what `patch` is told to do -/
structure Rules where
  file : Option String
  strip : Option Nat
  form : Option Form
  most : Nat
  isReversed : Bool
  /-- hunks that seem to be in the file already are left out -/
  onlyForward : Bool
  isForced : Bool
  assumes : Bool
  isQuiet : Bool
  isVerbose : Bool
  onlyTries : Bool
  output : Option String
  rejects : Option String
  rejectForm : Option Bool
  backsUp : Bool
  backsUpMismatches : Bool
  backup : Backup
  /-- texts in front of the names of backups -/
  pathStart : String
  nameStart : String
  define : Option String
  loosely : Bool
  removesEmpty : Bool
  isStrict : Bool
  keepsReturns : Bool
  readOnly : ReadOnlyRule
  style : Option String

/-- how far the work has come -/
structure Patched where
  text : PatchText
  /-- whether something has failed -/
  hasFailed : Bool
  /-- the lines for a file that takes all results, the latest first -/
  output : List (List Char)
  /-- the rejects for a file that takes all of them -/
  rejects : List Char
  backedUp : List String

/-- work that can end with a code -/
abbrev Patcher := StateT Patched (ExceptT Nat Activity)

/-- end with a message -/
def fatal {α : Type} (message : String) : Patcher α := do
  Tool.complain "patch" s!"**** {message}"
  throw 2

/-- read from the differences -/
def reading {α : Type} (a : HunkReader α) : Patcher α := do
  let p ← get
  let (found, text) := a.run p.text
  set { p with text := { text with isTorn := false } }
  if text.isTorn then Tool.say "patch unexpectedly ends in middle of line\n"
  match found with
  | .ok x => return x
  | .error message => fatal message

/-- a name as it is printed -/
def Rules.named (r : Rules) (name : String) : String :=
  if r.style = some "c" then "\"" ++ name ++ "\"" else if r.style = some "literal" then name
  else if r.style = some "shell-always" then inAnyQuotes name else shown name

/-- what is done about a file -/
structure FileWork where
  heading : Heading
  /-- the file that is changed -/
  source : Option String
  isReversed : Bool
  isSkipped : Bool
  appliesAnyway : Bool
  mismatches : Bool
  progress : Progress
  hunks : Nat
  failed : Nat
  rejects : List Char

/-- the state of the file before and after -/
def FileWork.before (w : FileWork) : FileState := if w.isReversed then w.heading.new else w.heading.old
def FileWork.after (w : FileWork) : FileState := if w.isReversed then w.heading.old else w.heading.new

/-- whether a change is taken back; `question` tells why -/
def Rules.turns (r : Rules) (w : FileWork) (question : String) : Patcher (Bool × FileWork) := do
  if r.onlyForward || !(r.isForced && r.isQuiet) then Tool.say question
  if r.onlyForward then
    Tool.say "  Skipping patch.\n"
    return (false, { w with isSkipped := true })
  if r.isForced then
    if !r.isQuiet then Tool.say "  Applying it anyway.\n"
    return (false, w)
  if r.assumes then
    Tool.say (if w.isReversed then "  Ignoring -R.\n" else "  Assuming -R.\n")
    return (true, w)
  -- nobody answers these questions
  Tool.say (if w.isReversed then "  Ignore -R? [n] \n" else "  Assume -R? [n] \n")
  Tool.say "Apply anyway? [n] \n"
  if !r.isQuiet then Tool.say "Skipping patch.\n"
  return (false, { w with isSkipped := true })

/-! ## the file that is meant -/

/-- the directories in a name, which need be there or not -/
def dirCount (d : Disk) (onlyPresent : Bool) (name : String) : Nat :=
  let above := (Disk.ancestors name).dropLast
  if onlyPresent then (above.filter d.isDir).length else above.length

/-- whether a name stays inside the directory -/
def isInside (name : String) : Bool :=
  !name.startsWith "/" && !(Path.parts name.toList).contains ['.', '.']

/-- the best of some names: the fewest directories, then the shortest last part, then the shortest name -/
def bestName? (names : List String) : Option String :=
  let measure (name : String) : Nat × Nat × Nat :=
    ((Disk.ancestors name).length, (baseOf name).length, name.length)
  let less (a b : Nat × Nat × Nat) : Bool :=
    a.1 < b.1 || (a.1 = b.1 && (a.2.1 < b.2.1 || (a.2.1 = b.2.1 && a.2.2 < b.2.2)))
  names.foldl (fun best name => match best with
    | none => some name
    | some b => if less (measure name) (measure b) then some name else some b) none

/-- the names in a heading -/
def Heading.names (h : Heading) : List String :=
  let both := [h.old.name, h.new.name].filterMap id
  if both.isEmpty then h.index.toList else both

/-- keep only names inside the directory, and tell of others -/
def Rules.safeNames (r : Rules) (names : List String) : Patcher (List String) := do
  for name in names.eraseDups do
    if !isInside name then
      let text := r.named name
      Tool.say s!"Ignoring potentially dangerous file name {text}\n"
  return names.filter isInside

/-- whether the change seems to be the other way round, going by whether the file is there -/
def Rules.checkDirection (r : Rules) (w : FileWork) (name : String) (isMissing isEmpty : Bool) :
    Patcher (Bool × FileWork) := do
  let side (isNew : Bool) : Nat := if isNew then w.heading.new.absence else w.heading.old.absence
  let looksTurned := (if isEmpty then 0 else 1) < side (w.isReversed != isEmpty)
  if isEmpty && side (w.isReversed != isMissing) = 1 && side ((!w.isReversed) != isMissing) = 2 then
    return (false, w)
  if !looksTurned then return (false, w)
  let text := r.named name
  let (verb, state) := if isMissing then ("delete", "does not exist")
    else if isEmpty then ("empty out", "is already empty") else ("create", "already exists")
  let condition := if w.isReversed then ", when reversed," else ""
  let (isTurned, w) ← r.turns w s!"The next patch{condition} would {verb} the file {text},\nwhich {state}!"
  return (true, if isTurned then { w with isReversed := !w.isReversed } else w)

/-- find the file that is meant -/
def Rules.findFile (r : Rules) (w : FileWork) : Patcher FileWork := do
  let d ← disk
  let isEmpty (name : String) : Bool := match d.stat name with
    | .ok (_, node) => d.sizeOf node = 0
    | .error _ => true
  match r.file with
  | some name =>
    let (_, w) ← r.checkDirection w name (!d.isPresent name) (isEmpty name)
    return { w with source := some name }
  | none =>
    let names := w.heading.names
    let safe ← r.safeNames (names.filter d.isThere)
    let best := bestName? safe
    match names.getLast? with
    | none => return w
    | some last =>
      let name := best.getD last
      let (isTurned, w) ← r.checkDirection w name best.isNone (best.isNone || isEmpty name)
      let best := if isTurned && best.isNone then some last else best
      if best.isSome then return { w with source := best }
      if 0 < w.before.absence then
        let inside ← r.safeNames names
        let missing (name : String) : Nat := dirCount d false name - dirCount d true name
        let least := (inside.map missing).foldl min 1000
        return { w with source := bestName? (inside.filter fun name => missing name = least) }
      return w

/-! ## hunks -/

/-- look for the place of a hunk, leaving out ever more context; the outcome is the place and how much was
left out -/
def Rules.findPlace (r : Rules) (most : Nat) : Nat → Nat → Hunk → FileWork → Patcher (Option (Int × Nat) × Hunk × FileWork)
  | 0, _, h, w => return (none, h, w)
  | n + 1, fuzz, h, w => do
    let (place, p) := w.progress.locate r.loosely h fuzz
    let w := { w with progress := p }
    let isOff := place.isNone || 0 < fuzz || p.inOffset ≠ 0
    let w := { w with mismatches := w.mismatches || isOff }
    match place with
    | some line => return (some (line, fuzz), h, w)
    | none =>
      let next (h : Hunk) (w : FileWork) (fuzz : Nat) : Patcher (Option (Int × Nat) × Hunk × FileWork) :=
        if w.isSkipped || most < fuzz then return (none, h, w) else r.findPlace most n fuzz h w
      if w.hunks = 1 && !(r.isForced || w.appliesAnyway) && w.isReversed = r.isReversed then
        let turned := h.reversed
        let (place, p) := w.progress.locate r.loosely turned fuzz
        let w := { w with progress := p }
        match place with
        | none => next h w (fuzz + 1)
        | some line =>
          let what := if w.isReversed then "Unreversed" else "Reversed (or previously applied)"
          let (isTurned, w) ← r.turns w s!"{what} patch detected!"
          if isTurned then return (some (line, fuzz), turned, { w with isReversed := !w.isReversed })
          else next h { w with appliesAnyway := true } fuzz
      else next h w (fuzz + 1)

/-- whether the lines of a hunk and of a file end in different ways -/
def endsDiffer (w : FileWork) (h : Hunk) (place : Int) : Bool :=
  let hasReturn (line : List Char) : Bool := withoutReturn line ≠ line
  let size : Int := w.progress.lines.size
  match h.old with
  | first :: _ => size ≠ 0 && hasReturn first.text != hasReturn (w.progress.line (min place size))
  | [] => false

/-- a hunk among the rejects -/
def Rules.reject (r : Rules) (w : FileWork) (h : Hunk) : FileWork :=
  let isUnified := r.rejectForm.getD (w.heading.form == .unified)
  let isNewer := match w.heading.form with
    | .unified => true
    | .context isNewer => isNewer
    | _ => false
  let headingLine (mark : String) (s : FileState) : List Char :=
    (mark ++ " ").toList ++ ((s.name.getD "/dev/null").toList) ++ s.time ++ ['\n']
  let front := if w.failed ≠ 0 then []
    else
      let index := match w.heading.index with
        | some name => if w.heading.names == [name] then s!"Index: {name}\n".toList else []
        | none => []
      index ++ headingLine (if isUnified then "---" else "***") w.before ++
        headingLine (if isUnified then "+++" else "---") w.after
  let body := if isUnified then h.unifiedText w.progress.outOffset
    else (if w.heading.form = .unified then h.marked else h).contextText w.progress.outOffset isNewer
  { w with rejects := w.rejects ++ front ++ body, failed := w.failed + 1 }

/-- put one hunk in -/
def Rules.applyHunk (r : Rules) (hasContent : Bool) (h : Hunk) (w : FileWork) : Patcher FileWork := do
  let w := { w with hunks := w.hunks + 1 }
  let h := if w.isReversed then h.reversed else h
  let most := min r.most (max h.leading h.trailing)
  let (found, h, w) ← if w.isSkipped then pure (none, h, w) else r.findPlace most (2 * most + 4) 0 h w
  let place : Int := (match found with
    | some (line, _) => line
    | none => h.first) + w.progress.outOffset
  let marks := r.define.map fun name => Marks.of name w.isReversed
  let put? : Option Progress := match found with
    | some (line, _) =>
      if line = 1 && w.before.absence = 2 && hasContent then none else w.progress.put marks h line
    | none => none
  match w.isSkipped, put? with
  | false, some p =>
    let offset := w.progress.inOffset
    let fuzz := (found.map (·.2)).getD 0
    if r.isVerbose || (!r.isQuiet && (fuzz ≠ 0 || offset ≠ 0)) then
      let loose := if fuzz = 0 then "" else s!" with fuzz {fuzz}"
      let moved := if offset = 0 then "" else
        s!" (offset {offset} line" ++ (if offset = 1 then "" else "s") ++ ")"
      Tool.say s!"Hunk #{w.hunks} succeeded at {place}{loose}{moved}.\n"
    return { w with progress := p }
  | isSkipped, _ =>
    if !isSkipped && found.isSome && put?.isNone && !(w.before.absence = 2 && hasContent) then
      Tool.say "misordered hunks! output would be garbled\n"
    let isOdd := !isSkipped && endsDiffer w h place
    let w := r.reject w h
    if r.isVerbose || (!isSkipped && !r.isQuiet) then
      let what := if isSkipped then "ignored" else "FAILED"
      let note := if isOdd then " (different line endings)" else ""
      Tool.say s!"Hunk #{w.hunks} {what} at {place}{note}.\n"
    return w

/-- put all hunks of a file in -/
def Rules.applyHunks (r : Rules) (hasContent : Bool) : Nat → FileWork → Patcher FileWork
  | 0, w => return w
  | n + 1, w => do
    match ← reading (nextHunk w.heading.form) with
    | none => return w
    | some h => r.applyHunks hasContent n (← r.applyHunk hasContent h w)

/-! ## results -/

/-- the name under which a file is kept -/
def Rules.backupName (r : Rules) (d : Disk) (path : String) : String :=
  let dir := (path.toList.reverse.dropWhile (· ≠ '/')).reverse
  let base := path.toList.drop dir.length
  if r.pathStart ≠ "" || r.nameStart ≠ "" then
    r.pathStart ++ String.ofList dir ++ r.nameStart ++ String.ofList base
  else match d.resolve false path with
    | .ok l => path ++ r.backup.endingFor d l
    | .error _ => path ++ ".orig"

/-- keep a file as it was -/
def Rules.keep (r : Rules) (path : String) : Patcher Unit := do
  if (← get).backedUp.contains path then return
  modify fun p => { p with backedUp := path :: p.backedUp }
  let d ← disk
  let target := r.backupName d path
  let made : Except DiskFault Disk := do
    let d ← (Disk.ancestors target).dropLast.foldlM (fun d dir => if d.isDir dir then .ok d else d.makeDir dir) d
    match d.stat path with
    | .ok (l, .file n) =>
      let cleared := match d.resolve false target with
        | .ok old => if d.isThere target then d.drop old else d
        | .error _ => d
      let (d, new) ← cleared.create (d.file n).mode target
      match new with
      | .file k =>
        let d := d.setContent k (d.file n).content
        match d.resolve false target with
        | .ok place => return d.setModified place (d.modifiedOf ((d.node? l).getD (.file n)))
        | .error f => throw f
      | _ => return d
    | _ =>
      let (d, _) ← d.create 0o600 target
      return d
  match made with
  | .ok d => setDisk d
  | .error f => fatal s!"Can't create file {target} : {f.message}"

/-- take a file away, and directories above it that are empty then -/
def removeFile (path : String) : Patcher Unit := do
  let d ← disk
  match d.linkStat path with
  | .error _ => return
  | .ok (l, _) =>
    match d.remove l with
    | .error f => fatal s!"Can't remove file {path} : {f.message}"
    | .ok d =>
      let above := (Disk.ancestors path).dropLast.reverse
      let rec clear : List String → Disk → Disk
        | [], d => d
        | dir :: rest, d => match d.linkStat dir with
          | .ok (l, .dir _ _) =>
            if (d.namesIn l).isEmpty && l ≠ d.cwd then
              match d.remove l with
              | .ok d => clear rest d
              | .error _ => d
            else d
          | _ => d
      setDisk (clear above d)

/-- put lines into a file, with the mode of the one that was there -/
def replaceFile (path : String) (mode : Option Nat) (content : List Char) : Patcher Unit := do
  let d ← disk
  let mask := (← own).mask
  let made : Except DiskFault Disk := do
    let d ← (Disk.ancestors path).dropLast.foldlM (fun d dir => if d.isDir dir then .ok d else d.makeDir dir) d
    let (d, old) := match d.linkStat path with
      | .ok (l, node) => (d.drop l, some (d.modeOf node))
      | .error _ => (d, none)
    let usual := Mode.without 0o666 mask
    let (d, node) ← d.create usual path
    let d := match node with
      | .file n => d.setContent n (Text.toBytes content)
      | _ => d
    match d.resolve false path with
    | .ok l => return d.setMode l (mode.getD (old.getD usual))
    | .error f => throw f
  match made with
  | .ok d => setDisk d
  | .error f => fatal s!"Can't create file {path} : {f.message}"

/-- the name of a file of rejects -/
def rejectName (path : String) : String := path ++ ".rej"

/-- put the outcome in its place -/
def Rules.store (r : Rules) (w : FileWork) (source target : String) : Patcher Bool := do
  let lines := w.progress.finish
  if r.output.isSome then
    modify fun p => { p with output := lines.reverse ++ p.output }
    return false
  let backsUp := r.backsUp || (r.backsUpMismatches && (w.mismatches || 0 < w.failed))
  if lines.isEmpty && (r.removesEmpty || (w.after.absence = 2 && !r.isStrict)) then
    if !r.onlyTries then
      if backsUp then r.keep target
      removeFile target
    return false
  let isLeft := !lines.isEmpty && w.after.absence = 2 && (r.removesEmpty || !r.isStrict)
  if isLeft && !r.isQuiet then
    let text := r.named target
    Tool.say s!"Not deleting file {text} as content differs from patch\n"
  if !r.onlyTries then
    if backsUp then r.keep target
    let mode := match w.before.mode, w.after.mode with
      | old, some new => if old = some new then none else some new
      | _, none => none
    let isMoved := w.after.isRenamed || w.after.isCopied
    if w.failed < w.hunks || mode.isSome || isMoved then
      let d ← disk
      let oldMode := match d.stat source with
        | .ok (_, node) => if isMoved then some (d.modeOf node) else none
        | .error _ => none
      replaceFile target (mode.or oldMode) lines.flatten
      if w.after.isRenamed && source ≠ target then removeFile source
  return isLeft

/-- keep the rejects -/
def Rules.storeRejects (r : Rules) (w : FileWork) (target : Option String) : Patcher Unit := do
  if w.failed = 0 then return
  modify fun p => { p with hasFailed := true }
  let plural := if w.hunks = 1 then "" else "s"
  let what := if w.isSkipped then "ignored" else "FAILED"
  Tool.say s!"{w.failed} out of {w.hunks} hunk{plural} {what}"
  match target with
  | some target =>
    if r.rejects = some "-" then Tool.say "\n"
    else
      let path := r.rejects.getD (rejectName target)
      if r.onlyTries then Tool.say "\n"
      else
        let text := r.named path
        Tool.say s!" -- saving rejects to file {text}\n"
        if r.rejects.isSome then modify fun p => { p with rejects := p.rejects ++ w.rejects }
        else replaceFile path none w.rejects
  | none => Tool.say "\n"

/-! ## one file after the other -/

/-- what a form is called -/
def Form.title : Form → String
  | .unified => "a unified diff"
  | .context false => "a context diff"
  | .context true => "a new-style context diff"
  | .normal => "a normal diff"
  | .script => "an ed script"

/-- tell what stands in front of the hunks -/
def tellLeading (before : List (List Char)) (count : Nat) : Patcher Unit := do
  if 0 < count then
    Tool.say "The text leading up to this was:\n--------------------------\n"
    for line in before.take count do Tool.out ('|' :: line)
    Tool.say "--------------------------\n"

/-- tell what is known about the next change, and find its file -/
def Rules.announce (r : Rules) (isFirst : Bool) (before : PatchText) (h : Heading) : Patcher FileWork := do
  let w : FileWork := ⟨h, none, r.isReversed, false, false, false, .start [], 0, 0, []⟩
  let w ← r.findFile w
  if w.isSkipped then return w
  if r.isVerbose then
    let start := if isFirst then "  L" else "  The next patch l"
    let title := h.form.title
    Tool.say s!"{start}ooks like {title} to me...\n"
  let text := (← get).text
  if !r.isQuiet then
    if text.indent ≠ 0 then
      let plural := if text.indent = 1 then "" else "s"
      Tool.say s!"(Patch is indented {text.indent} space{plural}.)\n"
    if text.dropsReturns then Tool.say "(Stripping trailing CRs from patch; use --binary to disable.)\n"
    if w.source.isNone then
      Tool.say s!"can't find file to patch at input line {h.start}\n"
      if r.file.isNone then
        Tool.say (if r.strip.isNone then "Perhaps you should have used the -p or --strip option?\n"
          else "Perhaps you used the wrong -p or --strip option?\n")
  if r.isVerbose || w.source.isNone then tellLeading before.rest (h.start - 1 - before.number)
  if w.source.isSome then return w
  if r.isForced || r.assumes then Tool.say "No file to patch.  Skipping patch.\n"
  else
    Tool.say "File to patch: \nSkip this patch? [y] \n"
    if !r.isQuiet then Tool.say "Skipping patch.\n"
  return { w with isSkipped := true }

/-- the file that takes the outcome -/
def Rules.targetOf (r : Rules) (w : FileWork) (source : String) : String :=
  match r.output with
  | some path => path
  | none =>
    if w.after.isRenamed || w.after.isCopied then
      (if w.heading.old.name = some source then w.heading.new.name else w.heading.old.name).getD source
    else source

/-- look at the file that is changed -/
def Rules.open (r : Rules) (w : FileWork) (source : String) : Patcher FileWork := do
  let d ← disk
  match d.linkStat source with
  | .error _ => return w
  | .ok (l, node) =>
    let text := r.named source
    let isFile := match node with
      | .file _ => true
      | _ => false
    if !isFile then
      Tool.say s!"File {text} is not a regular file -- refusing to patch\n"
      modify fun p => { p with hasFailed := true }
      return { w with isSkipped := true }
    if r.readOnly ≠ .ignores && !d.allows l Disk.writing then
      Tool.say s!"File {text} is read-only; "
      if r.readOnly = .warns then
        Tool.say "trying to patch anyway\n"
        return w
      Tool.say "refusing to patch\n"
      modify fun p => { p with hasFailed := true }
      return { w with isSkipped := true }
    return w

/-- the lines of a text with what ends them -/
def linesWithEnds (cs : List Char) : List (List Char) :=
  let (parts, isEnded) := partsOf '\n' cs
  if isEnded then parts.map (· ++ ['\n'])
  else parts.dropLast.map (· ++ ['\n']) ++ parts.getLast?.toList

/-- change one file -/
def Rules.changeFile (r : Rules) (w : FileWork) : Patcher Unit := do
  let limit := (← get).text.rest.length + 1
  match w.source with
  | none =>
    let w ← r.applyHunks false limit w
    r.storeRejects w none
  | some source =>
    if w.isSkipped then return ← r.storeRejects (← r.applyHunks false limit w) none
    let target := r.targetOf w source
    let w ← r.open w source
    let content ← if w.isSkipped then pure []
      else match (← disk).read source with
        | .ok bytes => pure (Text.ofBytes bytes)
        | .error .missing => pure []
        | .error f => fatal s!"Can't open file {source} : {f.message}"
    if !r.isQuiet && !w.isSkipped then
      let verb := if r.onlyTries then "checking" else "patching"
      let text := r.named target
      Tool.say s!"{verb} file {text}"
      if source ≠ target then
        let how := if w.after.isCopied then "copied" else if w.after.isRenamed then "renamed" else "read"
        Tool.say s!" ({how} from {source})"
      Tool.say "\n"
      if r.isVerbose then Tool.say "Using Plan A...\n"
    let w := { w with progress := .start (linesWithEnds content) }
    let w ← r.applyHunks (!content.isEmpty) limit w
    if !w.isSkipped then
      if ← r.store w source target then modify fun p => { p with hasFailed := true }
    r.storeRejects w (some target)

/-- make the changes of at most `n` files -/
def Rules.changeAll (r : Rules) (now : Nat) : Nat → Bool → Patcher Unit
  | 0, _ => return
  | n + 1, isFirst => do
    let before := (← get).text
    if before.rest.isEmpty then
      if r.isVerbose then Tool.say "done\n"
      return
    if r.isVerbose then Tool.say "Hmm..."
    if r.form = some .script then fatal "ed FAILED"
    let rules : HeadingRules := ⟨r.strip, now, r.form, r.file.isNone && !r.isStrict⟩
    match ← reading (nextHeading rules) with
    | none =>
      if r.isVerbose then
        Tool.say (if isFirst then "  I can't seem to find a patch in there anywhere.\n"
          else "  Ignoring the trailing garbage.\ndone\n")
      if isFirst then fatal "Only garbage was found in the patch input."
    | some h =>
      if r.keepsReturns then modify fun p => { p with text := { p.text with dropsReturns := false } }
      r.changeFile (← r.announce isFirst before h)
      modify fun p => { p with text := { p.text with indent := 0, dropsReturns := false } }
      r.changeAll now n false

/-! ## the command -/

def optionRules : OptionRules :=
  .of "bcEefElNnRstuvT" "BDdFgiopPrVxYz" [("backup", "b", .never), ("prefix", "B", .always),
    ("context", "c", .never), ("directory", "d", .always), ("ifdef", "D", .always), ("ed", "e", .never),
    ("remove-empty-files", "E", .never), ("force", "f", .never), ("fuzz", "F", .always), ("get", "g", .always),
    ("input", "i", .always), ("ignore-whitespace", "l", .never), ("normal", "n", .never),
    ("forward", "N", .never), ("output", "o", .always), ("strip", "p", .always), ("reject-file", "r", .always),
    ("reverse", "R", .never), ("quiet", "s", .never), ("silent", "s", .never), ("batch", "t", .never),
    ("set-time", "T", .never), ("unified", "u", .never), ("version", "v", .never),
    ("version-control", "V", .always), ("debug", "x", .always), ("basename-prefix", "Y", .always),
    ("suffix", "z", .always), ("set-utc", "Z", .never), ("dry-run", "dry-run", .never),
    ("verbose", "verbose", .never), ("binary", "binary", .never), ("help", "help", .never),
    ("backup-if-mismatch", "mismatch", .never), ("no-backup-if-mismatch", "no-mismatch", .never),
    ("posix", "posix", .never), ("quoting-style", "quoting-style", .always),
    ("reject-format", "reject-format", .always), ("read-only", "read-only", .always),
    ("follow-symlinks", "follow", .never), ("merge", "merge", .maybe)]

/-- the rules that options and operands give -/
def rulesOf (g : Given) : Except String Rules := do
  let number (name what : String) : Except String (Option Nat) :=
    match g.value? name with
    | none => .ok none
    | some text => match text.toNat? with
      | some n => .ok (some n)
      | none => .error s!"**** {what} {text} is not a number"
  let strip ← number "p" "strip count"
  let fuzz ← number "F" "fuzz factor"
  let kind := match g.value? "V" with
    | some text => match choice? backupChoices text with
      | some "numbered" => BackupKind.numbered
      | some "simple" => .simple
      | _ => .existing
    | none => .existing
  let isStrict := g.has "posix"
  return {
    file := g.operands.head?
    strip
    form := (g.last? ["c", "e", "n", "u"]).map fun
      | "c" => .context true
      | "e" => .script
      | "n" => .normal
      | _ => .unified
    most := fuzz.getD 2
    isReversed := g.has "R"
    onlyForward := g.has "N"
    isForced := g.has "f"
    assumes := g.has "t"
    isQuiet := g.last? ["s", "verbose"] = some "s"
    isVerbose := g.last? ["s", "verbose"] = some "verbose"
    onlyTries := g.has "dry-run"
    output := g.value? "o"
    rejects := g.value? "r"
    rejectForm := (g.value? "reject-format").map (· = "unified")
    backsUp := g.has "b"
    backsUpMismatches := match g.last? ["mismatch", "no-mismatch"] with
      | some name => name = "mismatch"
      | none => !isStrict
    backup := ⟨if g.has "z" then .simple else kind, (g.value? "z").getD ".orig"⟩
    pathStart := (g.value? "B").getD ""
    nameStart := (g.value? "Y").getD ""
    define := g.value? "D"
    loosely := g.has "l"
    removesEmpty := g.has "E"
    isStrict
    keepsReturns := g.has "binary"
    readOnly := match g.value? "read-only" with
      | some "ignore" => .ignores
      | some "fail" => .refuses
      | _ => .warns
    style := g.value? "quoting-style" }

/-- do the work on the differences in a text -/
def Rules.perform (r : Rules) (cs : List Char) : Activity Nat := do
  let lines := linesWithEnds cs
  let now := (← disk).now
  let start : Patched := ⟨⟨lines, 0, 0, false, false⟩, false, [], [], []⟩
  let work : Patcher Unit := do
    match r.output with
    | some "-" => pure ()
    | some path => replaceFile path none []
    | none => pure ()
    r.changeAll now (lines.length + 1) true
    let p ← get
    match r.output with
    | some "-" => Tool.out p.output.reverse.flatten
    | some path => replaceFile path none p.output.reverse.flatten
    | none => pure ()
    match r.rejects with
    | some path => if !p.rejects.isEmpty then replaceFile path none p.rejects
    | none => pure ()
  match ← (work.run start).run with
  | .error code => return code
  | .ok (_, p) => return if p.hasFailed then 1 else 0

end Patching

def patch (args : List String) : Activity Nat := do
  let hint := "patch: Try 'patch --help' for more information.\n"
  let misused (message : String) : Activity Nat := do
    if message ≠ "" then Tool.complain "patch" message
    Activity.tell hint
    return 2
  match readOptions Patching.optionRules args with
  | .error p => misused p.message
  | .ok g =>
    if g.has "v" then
      Tool.say "GNU patch 2.7.6\n"
      return 0
    match g.value? "reject-format" with
    | some text => if text ≠ "unified" && text ≠ "context" then return ← misused ""
    | none => pure ()
    match g.operands with
    | _ :: _ :: extra :: _ => misused s!"{extra}: extra operand"
    | operands =>
      match Patching.rulesOf g with
      | .error message => refuse "patch" message 2
      | .ok r =>
        match g.value? "d" with
        | some dir =>
          match (← Activity.disk).stat dir with
          | .ok (l, .dir _ _) => Activity.modifyOwn fun p => { p with cwd := l }
          | .ok _ => return ← refuse "patch" s!"**** Can't change to directory {dir} : Not a directory" 2
          | .error f => return ← refuse "patch" s!"**** Can't change to directory {dir} : {f.message}" 2
        | none => pure ()
        let path := ((operands[1]?).or (g.value? "i")).getD "-"
        match ← contentOf path with
        | .error f => refuse "patch" s!"**** Can't open patch file {path} : {f.message}" 2
        | .ok cs => r.perform cs

end PatternBuild.Shell.Tool
