import PatternBuild.Shell.Tool.Changes
import PatternBuild.Shell.Tool.Editor.Script

/-!
# Editing: scripts carried out

Every line of the input comes into the pattern space in turn, and the script is carried out for it.
`runScript` carries it out once; what is printed goes to the standard output, or is collected to take
the place of the file.
-/

namespace PatternBuild.Shell.Editor

open Activity

/-- tell why an edit cannot go on, and end with a code -/
def giveUp {α : Type} (message : String) (code : Nat) : Activity α := do
  tell s!"sed: {message}\n"
  discard Tool.flush
  stop (.exit code)

/-! ## input -/

/-- the lines that are still to come -/
structure LineInput where
  /-- the files after the one that is read -/
  paths : List String
  /-- the file that is read, by its descriptor and its name -/
  current : Option (Nat × String)
  /-- what was read and not used yet -/
  buffer : List Char
  /-- whether the file that is read has ended -/
  isEnded : Bool
  /-- whether every file has lines and an end of its own -/
  isSeparate : Bool
  mark : Char
  code : Nat

namespace LineInput

/-- read on until there is something in the buffer; false at the end of the file -/
def fill (r : LineInput) : Activity (Bool × LineInput) := do
  if !r.buffer.isEmpty then return (true, r)
  match r.current with
  | none => return (false, r)
  | some (fd, name) =>
    if r.isEnded then return (false, r)
    match ← Tool.readBlock fd Tool.blockSize with
    | .ok [] => return (false, { r with isEnded := true })
    | .ok cs => return (true, { r with buffer := cs })
    | .error f =>
      giveUp s!"read error on {name}: {f.message}" 4

/-- open the next file that can be read -/
def openNext (r : LineInput) : Nat → Activity (Bool × LineInput)
  | 0 => return (false, r)
  | n + 1 => do
    match r.current with
    | some (fd, _) => Tool.close fd
    | none => pure ()
    match r.paths with
    | [] => return (false, { r with current := none })
    | path :: rest =>
      let r := { r with paths := rest, current := none, isEnded := false }
      match ← Tool.openOperand path with
      | .ok fd => return (true, { r with current := some (fd, path) })
      | .error f =>
        tell s!"sed: can't read {path}: {f.message}\n"
        openNext { r with code := 2 } n

/-- read on in this file or in the next ones until there is something in the buffer -/
def advance (r : LineInput) : Nat → Activity (Bool × LineInput)
  | 0 => return (false, r)
  | n + 1 => do
    let (hasMore, r) ← r.fill
    if hasMore then return (true, r)
    let (isOpen, r) ← r.openNext (r.paths.length + 1)
    if isOpen then advance r n else return (false, r)

/-- whether no line follows -/
def isAtEnd (r : LineInput) : Activity (Bool × LineInput) := do
  if r.isSeparate then
    let (hasMore, r) ← r.fill
    return (!hasMore, r)
  let (hasMore, r) ← r.advance (r.paths.length + 2)
  return (!hasMore, r)

/-- the rest of the line that the buffer starts, and whether there is an end to it -/
def lineFrom (r : LineInput) : Nat → List (List Char) → Activity (List Char × Bool × LineInput)
  | 0, seen => return (seen.reverse.flatten, false, r)
  | n + 1, seen => do
    match Tool.splitAt? r.mark r.buffer with
    | (part, some rest) => return ((part :: seen).reverse.flatten, true, { r with buffer := rest })
    | (part, none) =>
      let (hasMore, r) ← { r with buffer := [] }.fill
      if hasMore then lineFrom r n (part :: seen)
      else return ((part :: seen).reverse.flatten, false, r)

/-- the next line of the file that is read, or of the next ones -/
def next (r : LineInput) : Activity (Option (List Char × Bool) × LineInput) := do
  let (hasMore, r) ← if r.isSeparate then r.fill else r.advance (r.paths.length + 2)
  if !hasMore then return (none, r)
  let (line, isEnded, r) ← r.lineFrom endless []
  return (some (line, isEnded), r)

/-- leave the file that is read so that others can go on behind the lines that were used -/
def leave (r : LineInput) : Activity Unit := do
  match r.current with
  | some (fd, _) =>
    if !r.buffer.isEmpty then seekBack fd r.buffer.length
    Tool.close fd
  | none => return

end LineInput

/-! ## state -/

/-- what is printed at the end of a turn -/
inductive Queued where
  | text (cs : List Char)
  | file (path : String)
  | line (cs : List Char)

/-- how a script is carried out -/
structure EditStyle where
  script : Script
  isQuiet : Bool
  mark : Char
  /-- the width of lines that `l` prints -/
  width : Nat
  /-- whether what is printed is collected -/
  collects : Bool

/-- where an edit stands -/
structure EditState where
  input : LineInput
  pattern : List Char
  /-- whether the line ended with a mark -/
  isEnded : Bool
  hold : List Char
  /-- whether the line that is held ended with a mark -/
  isHoldEnded : Bool
  line : Nat
  lastPattern : Option LinePattern
  hasReplaced : Bool
  queue : List Queued
  /-- the ranges that are open, by the place of the instruction, with the line that ends them if it
  is known -/
  ranges : List (Nat × Option Nat)
  /-- ranges that have been open from the start and have ended -/
  spent : List Nat
  /-- the descriptors of files that are written -/
  targets : List (String × Nat)
  /-- the targets whose last line is still without its end -/
  openLines : List String
  /-- lines of files that are read one by one -/
  readers : List (String × List (List Char))
  /-- what is collected, the latest first -/
  collected : List (List Char)

/-- what is left of a state when a file of its own starts -/
def EditState.restarted (t : EditState) : EditState :=
  { t with hold := [], isHoldEnded := true, line := 0, ranges := [], spent := [], collected := [] }

/-- write octets to a target; the empty name means what is printed -/
def emit (s : EditStyle) (t : EditState) (target : String) (cs : List Char) (isEnded : Bool) :
    Activity EditState := do
  let isOpen := t.openLines.contains target
  let text := (if isOpen then [s.mark] else []) ++ cs ++ if isEnded then [s.mark] else []
  let t := { t with openLines :=
    if isEnded then t.openLines.filter (· ≠ target) else target :: t.openLines.filter (· ≠ target) }
  if target = "" || target = "/dev/stdout" then
    if s.collects && target = "" then return { t with collected := text :: t.collected }
    Tool.out text
    return t
  match t.targets.lookup target with
  | some fd => discard (write fd text)
  | none => pure ()
  return t

/-- print octets as they are -/
def emitRaw (s : EditStyle) (t : EditState) (cs : List Char) : Activity EditState := do
  if cs.isEmpty then return t
  let text := (if t.openLines.contains "" then [s.mark] else []) ++ cs
  let t := { t with openLines := t.openLines.filter (· ≠ "") }
  if s.collects then return { t with collected := text :: t.collected }
  Tool.out text
  return t

/-- print what was kept for the end of the turn -/
def emitQueue (s : EditStyle) (t : EditState) : Activity EditState := do
  let mut state := { t with queue := [] }
  for q in t.queue.reverse do
    match q with
    | .text cs => state ← emitRaw s state cs
    | .line cs => state ← emit s state "" cs true
    | .file path =>
      match ← Tool.contentOf path with
      | .ok cs => state ← emitRaw s state cs
      | .error _ => pure ()
  return state

/-! ## matching -/

/-- the pattern that is meant: the given one or the last that was used -/
def meant (t : EditState) (p : Option LinePattern) : Option LinePattern × EditState :=
  match p with
  | some p => (some p, { t with lastPattern := some p })
  | none => (t.lastPattern, t)

def LinePattern.subject (p : LinePattern) (cs : List Char) : Regex.Subject :=
  ⟨cs.toArray, p.ignoresCase, p.isMultiline⟩

/-- whether an address holds for the current line -/
def addressHolds (t : EditState) : LineAddress → Activity (Bool × EditState)
  | .number n => return (t.line = n, t)
  | .every first step =>
    return (if step = 0 then t.line = first else first ≤ t.line && (t.line - first) % step = 0, t)
  | .last => do
    let (isAtEnd, input) ← t.input.isAtEnd
    return (isAtEnd, { t with input })
  | .matching p => do
    match meant t p with
    | (none, _) =>
      giveUp "-e expression #1, char 0: no previous regular expression" 1
    | (some p, t) => return ((p.regex.find? (p.subject t.pattern) false 0).isSome, t)

/-- whether an instruction at a place is for the current line -/
def isSelected (at_ : Nat) (sel : Selector) (t : EditState) : Activity (Bool × EditState) := do
  let (holds, t) ← match sel.first, sel.stop with
    | none, _ => pure (true, t)
    | some first, none => addressHolds t first
    | some first, some stop => inRange first stop t
  return (holds != sel.isNegated, t)
where
  close (t : EditState) : EditState :=
    { t with ranges := t.ranges.filter (·.1 ≠ at_), spent := at_ :: t.spent }
  /-- whether a line is in a range, which opens and closes by that -/
  inRange (first : LineAddress) (stop : RangeEnd) (t : EditState) : Activity (Bool × EditState) := do
    let fromStart := match first with
      | .number 0 => !t.spent.contains at_
      | _ => false
    let opened := if fromStart && (t.ranges.lookup at_).isNone then some none else t.ranges.lookup at_
    match opened with
    | some known =>
      match known, stop with
      | some n, _ =>
        -- a range that should have ended before is over
        let t := if n ≤ t.line then close t else t
        return (t.line ≤ n, t)
      | none, .address (.number n) =>
        let t := if n ≤ t.line then close t else t
        return (t.line ≤ n, t)
      | none, .address a =>
        let (holds, t) ← addressHolds t a
        return (true, if holds then close t else t)
      | none, _ => return (true, t)
    | none =>
      let (holds, t) ← addressHolds t first
      if !holds then return (false, t)
      let openTo (stop : Option Nat) : EditState := { t with ranges := (at_, stop) :: t.ranges }
      match stop with
      | .address (.number n) => return (true, if n ≤ t.line then t else openTo (some n))
      | .after 0 => return (true, t)
      | .after n => return (true, openTo (some (t.line + n)))
      | .multiple n =>
        if n = 0 then return (true, t)
        else return (true, openTo (some ((t.line / n + 1) * n)))
      | .address _ => return (true, openTo none)

/-! ## replacing -/

/-- letters changed by what is in force: for all that follows, and for the next one -/
def recased (all next : CaseChange) (cs : List Char) : List Char :=
  let base := match all with
    | .upper => cs.map Char.toUpper
    | .lower => cs.map Char.toLower
    | _ => cs
  match next, base with
  | .nextUpper, c :: rest => c.toUpper :: rest
  | .nextLower, c :: rest => c.toLower :: rest
  | _, base => base

/-- what is put in the place of a match -/
def replacementFor (subject : Regex.Subject) (found : Regex.Spans) (parts : List ReplacementPart) :
    List Char :=
  let (pieces, _, _) := parts.foldl (fun (t : List (List Char) × CaseChange × CaseChange) part =>
    let (pieces, all, next) := t
    let add (cs : List Char) : List (List Char) × CaseChange × CaseChange :=
      if cs.isEmpty then t else (recased all next cs :: pieces, all, .none)
    match part with
    | .text cs => add cs
    | .group n => add (Regex.groupText subject found n)
    | .recase .nextUpper => (pieces, all, .nextUpper)
    | .recase .nextLower => (pieces, all, .nextLower)
    | .recase change => (pieces, change, next)) ([], .none, .none)
  pieces.reverse.flatten

/-- replace matches from a place on: the text, the latest piece first, and whether there was one; a
match of nothing right behind another match does not count -/
def replaceFrom (subject : Regex.Subject) (r : Regex) (s : Substitution) (wantsGroups : Bool) :
    Nat → Nat → Nat → Option Nat → List (List Char) → Bool → List (List Char) × Bool
  | 0, i, _, _, found, hasAny => (subject.slice i subject.text.size :: found, hasAny)
  | n + 1, i, count, lastEnd, found, hasAny =>
    let rest (found : List (List Char)) (i : Nat) (hasAny : Bool) : List (List Char) × Bool :=
      (subject.slice i subject.text.size :: found, hasAny)
    if subject.text.size < i then (found, hasAny)
    else
      match r.find? subject wantsGroups i with
      | none => rest found i hasAny
      | some spans =>
        let (start, stop) := (spans.lookup 0).getD (i, i)
        let found := subject.slice i start :: found
        let isEmpty := start = stop
        let copied := subject.slice start (start + 1)
        if isEmpty && lastEnd == some start then
          replaceFrom subject r s wantsGroups n (start + 1) count none (copied :: found) hasAny
        else if count + 1 < s.number then
          if isEmpty then
            replaceFrom subject r s wantsGroups n (start + 1) (count + 1) none (copied :: found) hasAny
          else
            replaceFrom subject r s wantsGroups n stop (count + 1) (some stop)
              (subject.slice start stop :: found) hasAny
        else
          let found := replacementFor subject spans s.parts :: found
          if !s.isGlobal then rest found stop true
          else if isEmpty then
            replaceFrom subject r s wantsGroups n (start + 1) (count + 1) none (copied :: found) true
          else replaceFrom subject r s wantsGroups n stop (count + 1) (some stop) found true

/-- replace matches in a text; none if there was nothing to replace -/
def replaced (p : LinePattern) (s : Substitution) (cs : List Char) : Option (List Char) :=
  let subject := p.subject cs
  let wantsGroups := s.parts.any fun
    | .group n => n ≠ 0
    | _ => false
  match replaceFrom subject p.regex s wantsGroups (cs.length + 2) 0 0 none [] false with
  | (pieces, true) => some pieces.reverse.flatten
  | (_, false) => none

/-! ## showing -/

/-- a line with every character spelled, broken where it is too wide -/
def listed (width : Nat) (cs : List Char) : List Char :=
  let spell (c : Char) : List Char :=
    match c with
    | '\\' => ['\\', '\\']
    | '\x07' => ['\\', 'a']
    | '\x08' => ['\\', 'b']
    | '\x0c' => ['\\', 'f']
    | '\n' => ['\\', 'n']
    | '\r' => ['\\', 'r']
    | '\t' => ['\\', 't']
    | '\x0b' => ['\\', 'v']
    | c => if isHidden c then '\\' :: octalDigits c.toNat else [c]
  let (found, _) := cs.foldl (fun (found, column) c =>
    let text := spell c
    if 0 < width && width - 1 < column + text.length then
      (text.reverse ++ ['\n', '\\'] ++ found, text.length)
    else (text.reverse ++ found, column + text.length)) (([] : List Char), 0)
  found.reverse ++ ['$']

/-! ## turns -/

/-- how the script ends for a line -/
inductive TurnEnd where
  | completed
  | discarded
  /-- the next turn starts with what is left of the line -/
  | again
  /-- there is no next line -/
  | ended
  | quit (code : Nat) (prints : Bool)

/-- run a command and collect what it prints -/
def outputOf (programs : Programs) (command : List Char) : Activity (List Char) := do
  let (_, cs) ← collect do
    match ← programs.run ["sh", "-c", String.ofList command] with
    | .ok code => return code
    | .error _ => return 127
  return cs

/-- carry out a script from a place on -/
def runScript (programs : Programs) (s : EditStyle) : Nat → Nat → EditState →
    Activity (TurnEnd × EditState)
  | 0, _, t => return (.completed, t)
  | n + 1, at_, t => do
    match s.script[at_]? with
    | none => return (.completed, t)
    | some i =>
      let goOn (t : EditState) : Activity (TurnEnd × EditState) := runScript programs s n (at_ + 1) t
      let (isFor, t) ← isSelected at_ i.selector t
      match isFor, i.action with
      | false, .block stop => runScript programs s n stop t
      | false, _ => goOn t
      | true, action =>
      match action with
      | .block _ => goOn t
      | .blockEnd => goOn t
      | .label _ => goOn t
      | .nothing => goOn t
      | .printNumber => goOn (← emit s t "" (toString t.line).toList true)
      | .append text => goOn { t with queue := .text text :: t.queue }
      | .insert text => goOn (← emitRaw s t text)
      | .change text =>
        let isInside := (t.ranges.lookup at_).isSome && !i.selector.isNegated
        let t ← if isInside then pure t else emitRaw s t text
        return (.discarded, t)
      | .jump _ stop => runScript programs s n stop t
      | .jumpIf isReplaced _ stop =>
        if t.hasReplaced = isReplaced then runScript programs s n stop { t with hasReplaced := false }
        else goOn { t with hasReplaced := false }
      | .delete => return (.discarded, t)
      | .deleteFirst =>
        match Tool.splitAt? s.mark t.pattern with
        | (_, some rest) => return (.again, { t with pattern := rest })
        | (_, none) => return (.discarded, t)
      | .evaluate command =>
        match command with
        | some text =>
          let cs ← outputOf programs text
          goOn (← emitRaw s t cs)
        | none =>
          let cs ← outputOf programs t.pattern
          goOn { t with
            pattern := if cs.getLast? == some '\n' then cs.dropLast else cs, isEnded := true }
      | .fileName => goOn (← emit s t "" ((t.input.current.map (·.2)).getD "-").toList true)
      | .get => goOn { t with pattern := t.hold, isEnded := t.isHoldEnded }
      | .getAppend => 
        goOn { t with pattern := t.pattern ++ s.mark :: t.hold, isEnded := t.isHoldEnded }
      | .hold => goOn { t with hold := t.pattern, isHoldEnded := t.isEnded }
      | .holdAppend => 
        goOn { t with hold := t.hold ++ s.mark :: t.pattern, isHoldEnded := t.isEnded }
      | .exchange => 
        goOn { t with
          pattern := t.hold, hold := t.pattern, isEnded := t.isHoldEnded, isHoldEnded := t.isEnded }
      | .list width =>
        goOn (← emit s t "" (listed (width.getD s.width) t.pattern) true)
      | .next =>
        let (isAtEnd, input) ← t.input.isAtEnd
        let t := { t with input }
        if isAtEnd then return (.ended, t)
        let t ← if s.isQuiet then pure t else emit s t "" t.pattern t.isEnded
        let t ← emitQueue s t
        match ← t.input.next with
        | (some (line, isEnded), input) =>
          goOn { t with input, pattern := line, isEnded, line := t.line + 1 }
        | (none, input) => return (.ended, { t with input })
      | .nextAppend =>
        let (isAtEnd, input) ← t.input.isAtEnd
        let t := { t with input }
        if isAtEnd then return (.ended, t)
        let t ← emitQueue s t
        match ← t.input.next with
        | (some (line, isEnded), input) =>
          goOn { t with input, pattern := t.pattern ++ s.mark :: line, isEnded, line := t.line + 1 }
        | (none, input) => return (.ended, { t with input })
      | .print => goOn (← emit s t "" t.pattern t.isEnded)
      | .printFirst => goOn (← emit s t "" (Tool.splitAt? s.mark t.pattern).1 true)
      | .quit code prints => return (.quit code prints, t)
      | .readFile path => goOn { t with queue := .file path :: t.queue }
      | .readLine path =>
        let lines ← match t.readers.lookup path with
          | some lines => pure lines
          | none => do
            match ← Tool.contentOf path with
            | .ok cs => pure (Tool.linesOf cs)
            | .error _ => pure []
        let readers := (path, lines.drop 1) :: t.readers.filter (·.1 ≠ path)
        let queue := match lines with
          | line :: _ => .line line :: t.queue
          | [] => t.queue
        goOn { t with readers, queue }
      | .transliterate pairs =>
        goOn { t with pattern := t.pattern.map fun c => (pairs.lookup c).getD c }
      | .write path firstOnly =>
        if firstOnly then goOn (← emit s t path (Tool.splitAt? s.mark t.pattern).1 true)
        else goOn (← emit s t path t.pattern t.isEnded)
      | .clear => goOn { t with pattern := [] }
      | .substitute sub =>
        match meant t sub.pattern with
        | (none, _) =>
          giveUp "-e expression #1, char 0: no previous regular expression" 1
        | (some p, t) =>
          match replaced p sub t.pattern with
          | none => goOn t
          | some pattern =>
            let t := { t with pattern, hasReplaced := true }
            let t ← if sub.evaluates then do
                let cs ← outputOf programs t.pattern
                pure { t with pattern := if cs.getLast? == some '\n' then cs.dropLast else cs }
              else pure t
            let t ← if sub.prints then emit s t "" t.pattern t.isEnded else pure t
            let t ← match sub.target with
              | some path => emit s t path t.pattern t.isEnded
              | none => pure t
            goOn t

/-- carry out a script for line after line; the outcome is a code if the script ends the edit -/
def runTurns (programs : Programs) (s : EditStyle) : Nat → Bool → EditState →
    Activity (Option Nat × EditState)
  | 0, _, t => return (none, t)
  | n + 1, keepsPattern, t => do
    let (hasLine, t) ← if keepsPattern then pure (true, t) else do
      match ← t.input.next with
      | (some (line, isEnded), input) =>
        pure (true, { t with input, pattern := line, isEnded, line := t.line + 1, hasReplaced := false })
      | (none, input) => pure (false, { t with input })
    if !hasLine then return (none, t)
    let (ending, t) ← runScript programs s endless 0 t
    let finish (prints : Bool) : Activity EditState := do
      let t ← if prints && !s.isQuiet then emit s t "" t.pattern t.isEnded else pure t
      emitQueue s t
    match ending with
    | .completed => runTurns programs s n false (← finish true)
    | .discarded => runTurns programs s n false (← finish false)
    | .again => runTurns programs s n true (← finish false)
    | .ended => return (none, ← finish true)
    | .quit code prints =>
      let t ← if prints then finish true else pure t
      return (some code, t)

/-! ## files -/

/-- edit several files one after the other into the standard output -/
def editAll (programs : Programs) (s : EditStyle) (t : EditState) : Activity (Nat × EditState) := do
  let (code, t) ← runTurns programs s endless false t
  t.input.leave
  return (code.getD t.input.code, t)

/-- put the result of an edit in the place of a file -/
def replaceFile (path ending : String) (cs : List Char) : Activity Unit := do
  let d ← disk
  match d.stat path with
  | .ok (l, .file n) =>
    let mode := (d.file n).mode
    let (d, k) := d.newFile mode (Text.toBytes cs)
    let backup := if ending.contains '*' then
        (Tool.baseOf path).intercalate (ending.splitOn "*")
      else Tool.baseOf path ++ ending
    let d := if ending = "" then d
      else
        let backupAt := if backup.contains '/' then (d.resolve true backup).toOption.getD l
          else l.dropLast ++ [backup]
        d.put backupAt (.file n)
    setDisk ((d.put l (.file k)).markDir l.dropLast)
  | _ => return

/-- edit files, each in its place; the ending of backups may be empty -/
def editInPlace (programs : Programs) (s : EditStyle) (ending : String) :
    List String → Nat → EditState → Activity (Nat × EditState)
  | [], code, t => return (code, t)
  | path :: rest, code, t => do
    match (← disk).stat path with
    | .error f =>
      tell s!"sed: can't read {path}: {f.message}\n"
      editInPlace programs s ending rest 2 t
    | .ok (_, .file _) =>
      match ← Tool.openToRead path with
      | .error f =>
        tell s!"sed: can't read {path}: {f.message}\n"
        editInPlace programs s ending rest 2 t
      | .ok fd =>
        let input := { t.input with current := some (fd, path), buffer := [], isEnded := false }
        let (quit, t) ← runTurns programs s endless false { t.restarted with input }
        Tool.close fd
        replaceFile path ending t.collected.reverse.flatten
        let t := { t with collected := [], openLines := t.openLines.filter (· ≠ "") }
        match quit with
        | some code => return (code, t)
        | none => editInPlace programs s ending rest code t
    | .ok _ =>
      tell s!"sed: couldn't edit {path}: not a regular file\n"
      return (4, t)

end Editor

namespace Tool

open Activity Editor

/-- open the files that a script writes -/
def openTargets : List String → Activity (Except String (List (String × Nat)))
  | [] => return .ok []
  | path :: rest => do
    if path = "/dev/stdout" then openTargets rest
    else
      match ← openToWrite path false with
      | .error f => return .error s!"couldn't open file {path}: {f.message}"
      | .ok fd => return (← openTargets rest).map ((path, fd) :: ·)

def sedUsage : String :=
  "Usage: sed [OPTION]... \x7bscript-only-if-no-other-script\x7d [input-file]...\n\n"

/-- the script that options write, with the names of scripts in files put in place of their texts -/
def scriptText : List (String × String) → Activity (Except String (List (List Char)))
  | [] => return .ok []
  | (name, value) :: rest => do
    match name with
    | "e" => return (← scriptText rest).map (value.toList :: ·)
    | "f" =>
      match ← contentOf value with
      | .error f =>
        giveUp s!"couldn't open file {value}: {f.message}" 4
      | .ok cs =>
        let cs := if cs.getLast? == some '\n' then cs.dropLast else cs
        return (← scriptText rest).map (cs :: ·)
    | _ => scriptText rest

def sed (programs : Programs) (args : List String) : Activity Nat := do
  -- the ending behind `-i` belongs to it
  let args := args.map fun a =>
    let cs := a.toList
    let letters := (cs.drop 1).takeWhile fun c => "nErsuz".toList.contains c
    match cs, (cs.drop 1).drop letters.length with
    | '-' :: _ :: _, 'i' :: ending =>
      "--in-place=" ++ String.ofList ending ++
        (if letters.isEmpty then "" else "\x00" ++ String.ofList letters)
    | _, _ => a
  let args := args.flatMap fun a =>
    match a.splitOn "\x00" with
    | [option, letters] => [("-" ++ letters), option]
    | _ => [a]
  match readOptions (.of "nErsuz" "efl" [("quiet", "n", .never), ("silent", "n", .never),
    ("expression", "e", .always), ("file", "f", .always), ("in-place", "i", .maybe),
    ("line-length", "l", .always), ("regexp-extended", "E", .never), ("separate", "s", .never),
    ("unbuffered", "u", .never), ("null-data", "z", .never), ("posix", "posix", .never),
    ("debug", "debug", .never), ("sandbox", "sandbox", .never), ("follow-symlinks", "follow", .never),
    ("version", "version", .never), ("help", "help", .never)]) args with
  | .error p =>
    tell s!"sed: {p.message}\n"
    tell sedUsage
    return 1
  | .ok g =>
    if g.has "version" then
      Tool.say "sed (GNU sed) 4.9\n"
      return 0
    if g.has "help" then
      Tool.say sedUsage
      return 0
    match ← scriptText g.options with
    | .error message =>
      tell s!"sed: {message}\n"
      return 1
    | .ok given =>
      let (texts, operands) := match given, g.operands with
        | [], text :: rest => ([text.toList], rest)
        | given, rest => (given, rest)
      if texts.isEmpty then
        tell sedUsage
        return 1
      let text := ['\n'].intercalate texts
      match Script.read (g.has "E" || g.has "r") text with
      | .error (message, isJump) =>
        tell s!"sed: {message}\n"
        return if isJump then 4 else 1
      | .ok script =>
        match ← openTargets (script.toList.flatMap fun i => i.action.targets).eraseDups with
        | .error message =>
          tell s!"sed: {message}\n"
          return 4
        | .ok targets =>
          let s : EditStyle := {
            script
            isQuiet := g.has "n" || text.take 3 == ['#', 'n', '\n'] || text == ['#', 'n']
            mark := if g.has "z" then '\x00' else '\n'
            width := ((g.value? "l").bind natural?).getD 70
            collects := g.has "i" }
          let operands := if operands.isEmpty then ["-"] else operands
          let t : EditState := {
            input := ⟨operands, none, [], false, g.has "s" || g.has "i", s.mark, 0⟩
            pattern := [], isEnded := true, hold := [], isHoldEnded := true, line := 0
            lastPattern := none, hasReplaced := false, queue := [], ranges := [], spent := [], targets, openLines := []
            readers := [], collected := [] }
          let (code, _) ← if g.has "i" then editInPlace programs s (g.valueOf "i") operands 0 t
            else if g.has "s" then editSeparately programs s operands 0 t
            else editAll programs s t
          for (_, fd) in targets do close fd
          return code
where
  /-- edit several files, each with an end of its own, into the standard output -/
  editSeparately (programs : Programs) (s : EditStyle) :
      List String → Nat → EditState → Activity (Nat × EditState)
    | [], code, t => return (code, t)
    | path :: rest, code, t => do
      match ← openOperand path with
      | .error f =>
        tell s!"sed: can't read {path}: {f.message}\n"
        editSeparately programs s rest 2 t
      | .ok fd =>
        let input := { t.input with current := some (fd, path), buffer := [], isEnded := false }
        let (quit, t) ← runTurns programs s endless false { t.restarted with input }
        t.input.leave
        match quit with
        | some code => return (code, t)
        | none => editSeparately programs s rest code t

end Tool

end PatternBuild.Shell
