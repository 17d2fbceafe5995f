import PatternBuild.Shell.Builtin.Variables
import PatternBuild.Shell.Test

/-!
# Builtins that read lines

A line is read into variables, which get its fields, or into the items of an array; many lines are
read into the items of an array at once.
-/

namespace PatternBuild.Shell

namespace Builtin

open Activity

/-! ## reading -/

/-- how fields of a line are separated -/
structure Separation where
  ifs : List Char

namespace Separation

def isSeparator (s : Separation) (g : Glyph) : Bool := !g.2 && s.ifs.contains g.1

def isBlank (s : Separation) (g : Glyph) : Bool :=
  s.isSeparator g && (g.1 == ' ' || g.1 == '\t' || g.1 == '\n')

/-- the first field, and what follows the separator after it -/
def first (s : Separation) (gs : List Glyph) : List Glyph × List Glyph :=
  let gs := gs.dropWhile s.isBlank
  let field := gs.takeWhile fun g => !s.isSeparator g
  let rest := (gs.drop field.length).dropWhile s.isBlank
  let rest := match rest with
    | g :: more => if s.isSeparator g && field.length < gs.length && !s.isBlank g then
        more.dropWhile s.isBlank else rest
    | [] => []
  (field, rest)

/-- the text of glyphs -/
def text (gs : List Glyph) : String := String.ofList (gs.map (·.1))

/-- deal a line among variables: all but the last get a field each, and the last one the rest; a
rest of one field loses the separator after it -/
def deal (s : Separation) : List String → List Glyph → List (String × String)
  | [], _ => []
  | [name], gs =>
    let (field, rest) := s.first gs
    if rest.isEmpty then [(name, text field)]
    else [(name, text ((gs.dropWhile s.isBlank).reverse.dropWhile s.isBlank).reverse)]
  | name :: names, gs =>
    let (field, rest) := s.first gs
    (name, text field) :: s.deal names rest

/-- all fields of a line, of at most `n` -/
def all (s : Separation) : Nat → List Glyph → List String
  | 0, _ => []
  | n + 1, gs =>
    let gs := gs.dropWhile s.isBlank
    if gs.isEmpty then []
    else
      let (field, rest) := s.first gs
      text field :: s.all n rest

end Separation

/-- what a reading builtin takes at once -/
structure ReadRules where
  fd : Nat
  delimiter : Char
  isRaw : Bool
  /-- the most characters; with `isExact` the delimiter is like others -/
  most : Option Nat
  isExact : Bool
  /-- whether octets that are zero count -/
  keepsZeros : Bool
  /-- when it has to be done -/
  deadline : Option Nat

/-- how a record ends -/
inductive RecordEnd where
  | delimiter
  /-- it has as many characters as were asked for -/
  | full
  | closed
  | late
  | failed (f : DiskFault)
  deriving DecidableEq, Repr

def RecordEnd.isRegular (e : RecordEnd) : Bool := e = .delimiter || e = .full

/-- a record that is being read -/
structure OpenRecord where
  /-- its characters, the last first -/
  done : List Glyph
  count : Nat
  /-- a backslash quotes the next character -/
  isQuoting : Bool

def OpenRecord.start : OpenRecord := ⟨[], 0, false⟩

def OpenRecord.add (s : OpenRecord) (g : Glyph) : OpenRecord := ⟨g :: s.done, s.count + 1, false⟩

/-- read characters into a record; the outcome has those after it, and how it ends if it does -/
def ReadRules.take (r : ReadRules) : List Char → OpenRecord → OpenRecord × List Char × Option RecordEnd
  | [], s => (s, [], none)
  | c :: cs, s =>
    let next? : Option OpenRecord :=
      if s.isQuoting then some (if c == '\n' then { s with isQuoting := false } else s.add (c, true))
      else if !r.isRaw && c == '\\' then some { s with isQuoting := true }
      else if !r.isExact && c == r.delimiter then none
      else if c == '\x00' && !r.keepsZeros then some s
      else some (s.add (c, false))
    match next? with
    | none => (s, cs, some .delimiter)
    | some s => if r.most = some s.count then (s, cs, some .full) else r.take cs s

/-- whether there is something to be read in time, or the end of it -/
def ReadRules.isInTime (r : ReadRules) : Activity Bool := do
  let waitFor (pipe now : Nat) : Activity Bool := do
    pause (.readableBy pipe now)
    return (Pause.readable pipe).isOver (← machine)
  match r.deadline, ← streamOf r.fd with
  | some now, some (_, .reader pipe) => waitFor pipe now
  | some now, some (_, .both pipe) => waitFor pipe now
  | _, _ => return true

/-- how much is read at a time -/
def pieceSize : Nat := 1024

/-- read a record, in at most `n` pieces -/
def readRecord (r : ReadRules) : Nat → OpenRecord → Activity (List Glyph × RecordEnd)
  | 0, s => return (s.done.reverse, .closed)
  | n + 1, s => do
    if !(← r.isInTime) then return (s.done.reverse, .late)
    match ← readAtMost r.fd pieceSize with
    | .error f => return (s.done.reverse, .failed f)
    | .ok [] => return (s.done.reverse, .closed)
    | .ok cs =>
      match r.take cs s with
      | (s, _, none) => readRecord r n s
      | (s, rest, some ending) =>
        putBack r.fd rest
        return (s.done.reverse, ending)

/-- read a line into variables of the plain language -/
def plainRead : Builtin := fun args =>
  withLetters "read" "r" "p" args fun l => do
    if l.operands.isEmpty then return ← refuse "read" "arg count"
    let (gs, ending) ← readRecord ⟨0, '\n', l.has 'r', none, false, false, none⟩ endless .start
    let ifs ← Expansion.separators
    for (name, value) in (Separation.mk ifs.toList).deal l.operands gs do
      if !isName name.toList then return ← refuse "read" s!"{name}: bad variable name"
      if ((← own).bindings.get? name).any (·.isReadOnly) then
        return ← refuse "read" s!"{name}: is read only"
      assign name value
    return if ending.isRegular then 0 else 1

/-! ## reading in the language with extensions -/

/-- the nanoseconds of a time limit -/
def timeLimit? (text : String) : Option Nat :=
  let whole := text.toList.takeWhile Char.isDigit
  match text.toList.drop whole.length with
  | [] => some ((numeral? 10 whole).getD 0 * 1000000000)
  | '.' :: digits =>
    if digits.all Char.isDigit then
      let micros := (numeral? 10 ((digits ++ List.replicate 6 '0').take 6)).getD 0
      let micros := if (digits[6]?).any ('5' ≤ ·) then micros + 1 else micros
      some ((numeral? 10 whole).getD 0 * 1000000000 + micros * 1000)
    else none
  | _ => none

/-- the number of at least `least` that a letter is given -/
def countFrom? (least : Int) (text : String) : Option Nat :=
  match Test.number text with
  | .ok n => if least ≤ n && n < 2147483648 then some n.toNat else none
  | .error _ => none

/-- what is wrong with the descriptor that a builtin is to read -/
def descriptorProblem? (p : Process) (text : String) : Option String :=
  match countFrom? 0 text with
  | none => some s!"{text}: invalid file descriptor specification"
  | some fd =>
    if p.descriptors.contains fd then none
    else some (s!"{fd}: invalid file descriptor: " ++ DiskFault.badDescriptor.message)

/-- what is wrong with the first value of a letter that `read` cannot use -/
def readProblem? (p : Process) (l : Letters) : Option String :=
  l.found.findSome? fun (c, value) =>
    let text := value.getD ""
    match c with
    | 'n' => if (countFrom? 0 text).isNone then some (invalidCount text) else none
    | 'N' => if (countFrom? 0 text).isNone then some (invalidCount text) else none
    | 't' => if (timeLimit? text).isNone then some s!"{text}: invalid timeout specification" else none
    | 'u' => descriptorProblem? p text
    | _ => none

/-- whether something can be read at once -/
def hasInput (fd : Nat) : Activity Bool := do
  giveWay
  match ← streamOf fd with
  | some (_, .reader pipe) => return (Pause.readable pipe).isOver (← machine)
  | some (_, .both pipe) => return (Pause.readable pipe).isOver (← machine)
  | _ => return true

/-- put a record into the items of an array -/
def dealItems (array : String) (texts : List String) : Activity Nat := do
  match ← valueOf? array with
  | some (.keyed _) => refuse "read" s!"{array}: not an indexed array"
  | _ =>
    assignValue array (.indexed (numbered 0 texts))
    return 0

/-- put texts into variables, up to one that has no name or cannot be changed -/
def dealTexts : List (String × String) → Activity Nat
  | [] => return 0
  | (name, value) :: rest => do
    let d := declared name
    if !isName d.name.toList then refuse "read" s!"\x60{name}': not a valid identifier"
    else
      store { d with value := some value }
      dealTexts rest

/-- when a reading builtin has to be done: a variable tells it if no letter does -/
def deadlineFor (l : Letters) : Activity (Option Nat) := do
  let limit? ← match l.value? 't' with
    | some text => pure (timeLimit? text)
    | none => do
      let text? := (← valueOf? "TMOUT").bind (·.text?)
      pure (text?.bind timeLimit? |>.filter (· ≠ 0))
  match limit? with
  | some limit => return some ((← machine).disk.now + limit)
  | none => return none

/-- read a record into variables, or into the items of an array -/
def wideRead : Builtin := fun args =>
  withLetters "read" "ers" "adinNptu" args fun l => do
    if let some problem := readProblem? (← own) l then return ← refuse "read" problem
    let fd := ((l.value? 'u').bind (countFrom? 0)).getD 0
    if (l.value? 't').bind timeLimit? = some 0 then return if ← hasInput fd then 0 else 1
    match l.operands.head?.filter fun name => !isName (declared name).name.toList with
    | some name => return ← refuse "read" s!"\x60{name}': not a valid identifier"
    | none => pure ()
    match (l.value? 'a').filter fun name => !isName name.toList with
    | some name => return ← refuse "read" s!"\x60{name}': not a valid identifier"
    | none => pure ()
    let most := ((l.found.reverse.find? fun (c, _) => c == 'n' || c == 'N').bind (·.2)).bind (countFrom? 0)
    let rules : ReadRules := {
      fd
      delimiter := (l.value? 'd').elim '\n' fun d => d.toList.headD '\x00'
      isRaw := l.has 'r'
      most
      isExact := l.has 'N'
      keepsZeros := false
      deadline := ← deadlineFor l }
    let (gs, ending) ← if most = some 0 then pure ([], .full) else readRecord rules endless .start
    if let .failed f := ending then return ← refuse "read" s!"read error: {fd}: {f.message}"
    let separation := Separation.mk (← Expansion.separators).toList
    try
      let code ← match l.value? 'a' with
        | some array => dealItems array (separation.all (gs.length + 1) gs)
        | none =>
          if l.operands.isEmpty then do
            assign "REPLY" (Separation.text gs)
            pure 0
          else if rules.isExact then
            dealTexts (l.operands.zip (Separation.text gs :: l.operands.map fun _ => ""))
          else dealTexts (separation.deal l.operands gs)
      if code ≠ 0 then return code
      return if ending = .late then 142 else if ending.isRegular then 0 else 1
    catch h =>
      match h with
      | .abandon code => return code
      | h => throw h

def read : Builtin := fun args => do
  if (← own).isExtended then wideRead args else plainRead args

/-! ## many lines -/

/-- what a builtin that reads lines into an array is asked for -/
structure LineRequest where
  rules : ReadRules
  array : String
  /-- the number of the first item -/
  origin : Nat
  /-- the most lines; no limit if it is zero -/
  most : Nat
  isChopped : Bool
  /-- a command that is run at every so many lines -/
  callback : Option String
  quantum : Nat

/-- read a line, with what ends it if that is kept -/
def LineRequest.next? (q : LineRequest) : Activity (Option String) := do
  let (gs, ending) ← readRecord q.rules endless .start
  let isEnded := ending = .delimiter
  if gs.isEmpty && !isEnded then return none
  let keepsEnd := isEnded && !q.isChopped && q.rules.delimiter ≠ '\x00'
  let text := Separation.text (gs.takeWhile (·.1 ≠ '\x00'))
  return some (text ++ if keepsEnd then String.ofList [q.rules.delimiter] else "")

/-- put lines in place of the items from a number on -/
def putLines (array : String) (origin : Nat) (lines : List String) : Activity Unit := do
  let items : List (Nat × String) := match ← valueOf? array with
    | some (.indexed items) => items
    | some (.text text) => [(0, text)]
    | _ => []
  let after := items.filter fun (n, _) => origin + lines.length ≤ n
  assignValue array (.indexed (items.filter (fun (n, _) => n < origin) ++ numbered origin lines ++ after))

/-- read lines, of which `count` are there -/
def LineRequest.collect (q : LineRequest) : Nat → Nat → Activity (List String)
  | 0, _ => return []
  | n + 1, count => do
    if q.most ≠ 0 && q.most ≤ count then return []
    match ← q.next? with
    | none => return []
    | some line => return line :: (← q.collect n (count + 1))

/-- read lines one by one and run a command for some of them -/
def LineRequest.store (q : LineRequest) (call : Nat → String → Activity Unit) : Nat → Nat → Activity Unit
  | 0, _ => return
  | n + 1, count => do
    if q.most ≠ 0 && q.most ≤ count then return
    match ← q.next? with
    | none => return
    | some line =>
      if (count + 1) % q.quantum = 0 then call (q.origin + count) line
      putLines q.array (q.origin + count) [line]
      q.store call n (count + 1)

/-- what is wrong with the first value of a letter that `mapfile` cannot use -/
def mapfileProblem? (p : Process) (l : Letters) : Option String :=
  l.found.findSome? fun (c, value) =>
    let text := value.getD ""
    let refused (least : Int) (what : String) : Option String :=
      if (countFrom? least text).isNone then some s!"{text}: invalid {what}" else none
    match c with
    | 'u' => descriptorProblem? p text
    | 'n' => refused 0 "line count"
    | 's' => refused 0 "line count"
    | 'O' => refused 0 "array origin"
    | 'c' => refused 1 "callback quantum"
    | _ => none

/-- read lines into the items of an array; a command may be run for some of them -/
def mapfile (name : String) (run : String → Activity Nat) : Builtin := fun args =>
  withLetters name "t" "dnsOuCc" args fun l => do
    if let some problem := mapfileProblem? (← own) l then return ← refuse name problem
    let array := l.operands.headD "MAPFILE"
    if array = "" then
      Builtin.complain name "empty array variable name"
      return 2
    if !isName array.toList then return ← refuse name s!"\x60{array}': not a valid identifier"
    let p ← own
    let v := (p.bindings.get? (p.meant array Process.maxReferences)).getD .none
    if v.isReadOnly then
      complainPlainly s!"{array}: readonly variable"
      return 1
    if let some (.keyed _) := v.value then return ← refuse name s!"{array}: not an indexed array"
    let number (c : Char) (usual : Nat) : Nat := ((l.value? c).bind (countFrom? 0)).getD usual
    let q : LineRequest := {
      rules := ⟨number 'u' 0, (l.value? 'd').elim '\n' fun d => d.toList.headD '\x00', true, none, false, true, none⟩
      array
      origin := number 'O' 0
      most := number 'n' 0
      isChopped := l.has 't'
      callback := l.value? 'C'
      quantum := number 'c' 5000 }
    if (l.value? 'O').isNone then assignValue array (.indexed [])
    if number 's' 0 ≠ 0 then discard ({ q with most := number 's' 0 }.collect endless 0)
    match q.callback with
    | none => putLines array q.origin (← q.collect endless 0)
    | some command =>
      q.store (fun index line => discard (run s!"{command} {index} {inQuotes line}")) endless 0
    return 0

end Builtin

end PatternBuild.Shell
