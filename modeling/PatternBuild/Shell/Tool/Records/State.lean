import PatternBuild.Shell.Tool.Basic
import PatternBuild.Shell.Tool.Records.Value

/-!
# Programs for records at work

The state of a program is what its names stand for, the record at hand and the files and commands that
it reads and writes.  What is written is kept back until there is enough of it, or until a command is
run.
-/

namespace PatternBuild.Shell.Records

open Activity

/-! ## state -/

/-- what is read from a descriptor -/
structure LineStream where
  fd : Nat
  /-- what was read and not used yet -/
  buffer : List Char
  isEnded : Bool
  /-- the process that writes it -/
  process : Option Nat

/-- what is written to a file or a command -/
structure OutputStream where
  name : List Char
  fd : Nat
  /-- what is kept back, the latest first -/
  pieces : List (List Char)
  size : Nat
  /-- the process that reads it -/
  process : Option Nat

/-- what a parameter stands for -/
inductive Slot where
  | value (v : Value)
  | array (name : String)
  deriving Inhabited

/-- what a program does not change -/
structure Frame where
  program : Program
  functions : Std.HashMap String Function
  programs : Programs
  /-- the number of values that are held until others are computed -/
  held : Nat

/-- so many values more are held -/
def Frame.hold (x : Frame) (n : Nat) : Frame := { x with held := x.held + n }

structure State where
  globals : Std.HashMap String Value
  arrays : Std.HashMap String Collection
  /-- the parameters of the function that runs -/
  slots : Array Slot
  record : Record
  separator : Separator
  ending : Ending
  /-- the formats of numbers that become text, and of those that are printed -/
  conversions : List Char
  outputFormat : List Char
  /-- the file that records come from, and the number of the next operand -/
  main : Option LineStream
  nextOperand : Nat
  hasOpened : Bool
  inputs : List ((LineSource × List Char) × LineStream)
  /-- the latest used first -/
  outputs : List OutputStream
  regexes : Std.HashMap String Regex
  /-- the rules for ranges of records that have started -/
  ranges : List Nat
  /-- the number of arrays that functions have had -/
  made : Nat
  seed : Value
  random : Nat
  code : Int

/-- why something is not done up to its end -/
inductive Interruption where
  | next
  | nextFile
  | exit
  | leave
  | goOn
  | return (v : Value)
  /-- a fault ends the program -/
  | fault (message : String)

/-- a step of a program -/
abbrev Work := ExceptT Interruption (StateT State Activity)

/-- do something outside the program -/
def outside {α : Type} (a : Activity α) : Work α := ExceptT.lift (StateT.lift a)

/-- stop the program with a complaint -/
def giveUp {α : Type} (message : String) : Work α := throw (.fault message)

/-! ## names -/

def globalValue (name : String) : Work Value := do
  return ((← get).globals[name]?).getD .unset

/-- the text of a name -/
def globalText (name : String) : Work (List Char) := do
  let s ← get
  return ((s.globals[name]?).getD .unset).toText s.conversions

/-- stop at work with a complaint, which tells the record at hand -/
def failAtWork {α : Type} (message : String) : Work α := do
  let file := String.ofList (← globalText "FILENAME")
  let inFile := String.ofList (← globalText "FNR")
  let count := String.ofList (← globalText "NR")
  let place := "\n\tFILENAME=\"" ++ file ++ "\" FNR=" ++ inFile ++ " NR=" ++ count
  giveUp ("run time error: " ++ message ++ place)

/-- give a name a value, which may change how records are read -/
def setGlobal (name : String) (v : Value) : Work Unit := do
  modify fun s => { s with globals := s.globals.insert name v }
  let refuse (text : List Char) (fault : RegexFault) : Work Unit :=
    giveUp (regexComplaint text fault)
  match name with
  | "FS" =>
    let text := v.toText (← get).conversions
    match Separator.read text with
    | .ok separator => modify fun s => { s with separator }
    | .error fault => refuse text fault
  | "RS" =>
    let text := v.toText (← get).conversions
    match Ending.read text with
    | .ok ending => modify fun s => { s with ending }
    | .error fault => refuse text fault
  | "CONVFMT" => modify fun s => { s with conversions := v.toText s.conversions }
  | "OFMT" => modify fun s => { s with outputFormat := v.toText s.conversions }
  | _ => return

/-- add one to the number of a name -/
def countUp (name : String) : Work Unit :=
  modify fun s =>
    let x := ((s.globals[name]?).getD .unset).toNumber
    { s with globals := s.globals.insert name (.number (x + 1)) }

/-- the regular expression of a value -/
def regexOf (v : Value) : Work Regex := do
  let s ← get
  let text := v.toText s.conversions
  let key := String.ofList text
  match s.regexes[key]? with
  | some r => return r
  | none =>
    match readRegex text with
    | .ok r =>
      modify fun s => { s with regexes := s.regexes.insert key r }
      return r
    | .error fault => giveUp (regexComplaint text fault)

/-! ## the record -/

def setRecord (text : List Char) : Work Unit :=
  modify fun s => { s with record := .ofText s.separator text }

/-- the text of the record -/
def recordText : Work (List Char) := do
  if (← get).record.isStale then
    let output ← globalText "OFS"
    modify fun s => { s with record := s.record.joined s.conversions output }
  return (← get).record.text

/-- the value of a field -/
def fieldValue (i : Nat) : Work Value := do
  if i = 0 then return .input (← recordText)
  if !(← get).record.isSplit then modify fun s => { s with record := s.record.split }
  return ((← get).record.fields[i - 1]?).getD .unset

def fieldCount : Work Nat := do
  if !(← get).record.isSplit then modify fun s => { s with record := s.record.split }
  return (← get).record.fields.size

/-- give a field a value -/
def setField (i : Nat) (v : Value) : Work Unit := do
  if i = 0 then setRecord (v.toText (← get).conversions)
  else modify fun s => { s with record := s.record.setField i v }

def setFieldCount (v : Value) : Work Unit := do
  let n := toWhole v.toNumber
  if n < 0 then failAtWork "negative value assigned to NF"
  modify fun s => { s with record := s.record.withCount n.toNat }

/-! ## output -/

/-- write what an output has kept back -/
def OutputStream.flush (o : OutputStream) : Activity OutputStream := do
  if o.pieces.isEmpty then return o
  discard (Activity.write o.fd o.pieces.reverse.flatten)
  return { o with pieces := [], size := 0 }

/-- write all that is kept back -/
def flushAll : Work Unit := do
  outside (discard Tool.flush)
  let outputs ← (← get).outputs.mapM fun o => outside o.flush
  modify fun s => { s with outputs }

/-- start a command with a descriptor led to a stream; none of the other pipes is seen by it -/
def startCommand (x : Frame) (command : List Char) (fd stream : Nat) : Work (Option Nat) := do
  flushAll
  outside do
    let outer := (← own).descriptors
    let plain := Table.ofList ((outer.entries.filter fun (n, _) => n ≤ 2).map id)
    modifyOwn fun p => { p with descriptors := plain.insert fd stream }
    let started ← x.programs.start ["/bin/sh", "-c", String.ofList command]
    modifyOwn fun p => { p with descriptors := outer }
    return match started with
      | .ok process => some process
      | .error _ => none

/-- wait for the end of a process; the outcome is its code -/
def await (process : Option Nat) : Activity Nat := do
  match process with
  | none => return 0
  | some n =>
    pause (.ended [n] false (← own).number)
    return ((← machine).ended.lookup n).getD 0

/-- close an output; the outcome is the code of its command -/
def OutputStream.close (o : OutputStream) : Activity Nat := do
  let o ← o.flush
  Tool.close o.fd
  await o.process

def LineStream.close (l : LineStream) : Activity Nat := do
  Tool.close l.fd
  await l.process

/-- a pipe, by the numbers of the stream that is read and of the one that is written -/
def newPipe : Activity (Nat × Nat) := do
  let (m, pipe) := (← machine).addPipe false
  let (m, reader) := m.addStream (.reader pipe)
  let (m, writer) := m.addStream (.writer pipe)
  modifyMachine fun _ => m
  return (reader, writer)

/-- lead a free descriptor to an end of a pipe -/
def openEnd (stream : Nat) : Activity Nat := do
  let fd ← Tool.freeDescriptor
  setDescriptor fd stream
  let p ← own
  modifyMachine fun m =>
    match m.streams[stream]? with
    | some (.reader pipe) => m.addReader p.host pipe
    | some (.writer pipe) => m.addWriter p.host pipe
    | _ => m
  return fd

/-- names of files that lead to the usual outputs -/
def usualOutput? (name : String) : Option Nat :=
  match name with
  | "-" => some 1
  | "/dev/stdout" => some 1
  | "/dev/stderr" => some 2
  | _ => none

/-- open an output -/
def openOutput (x : Frame) (kind : OutputKind) (name : List Char) : Work OutputStream := do
  match kind with
  | .pipe =>
    let (reader, writer) ← outside newPipe
    let fd ← outside (openEnd writer)
    let process ← startCommand x name 0 reader
    return ⟨name, fd, [], 0, process⟩
  | kind =>
    let path := String.ofList name
    match ← outside (Tool.openToWrite path (kind = .append)) with
    | .ok fd => return ⟨name, fd, [], 0, none⟩
    | .error f =>
      throw (.fault ("cannot open \"" ++ path ++ "\" for output (" ++ f.message ++ ")"))

/-- write to an output, which is opened if it is not -/
def writeTo (x : Frame) (kind : OutputKind) (name text : List Char) : Work Unit := do
  match if kind = .pipe then none else usualOutput? (String.ofList name) with
  | some 2 => outside (discard (Activity.write 2 text))
  | some _ => outside (Tool.out text)
  | none =>
    let s ← get
    let o ← match s.outputs.find? (·.name = name) with
      | some o => pure o
      | none => openOutput x kind name
    let o := { o with pieces := text :: o.pieces, size := o.size + text.length }
    let o ← if Tool.keptSize ≤ o.size then outside o.flush else pure o
    modify fun s => { s with outputs := o :: s.outputs.filter (·.name ≠ name) }

/-! ## input -/

/-- read on; false at the end -/
def LineStream.fill (l : LineStream) : Activity (Except DiskFault (Bool × LineStream)) := do
  if l.isEnded then return .ok (false, l)
  match ← Tool.readBlock l.fd Tool.blockSize with
  | .error fault => return .error fault
  | .ok [] => return .ok (false, { l with isEnded := true })
  | .ok cs => return .ok (true, { l with buffer := l.buffer ++ cs })

/-- all that is left -/
def LineStream.fillAll (l : LineStream) : Activity (Except DiskFault LineStream) := do
  if l.isEnded then return .ok l
  match ← readAll l.fd with
  | .error fault => return .error fault
  | .ok cs => return .ok { l with buffer := l.buffer ++ cs, isEnded := true }

/-- the record that the buffer starts up to a character; the pieces before it come with the latest
first -/
def LineStream.upTo (c : Char) :
    Nat → LineStream → List (List Char) → Activity (Except DiskFault (Option (List Char) × LineStream))
  | 0, l, _ => return .ok (none, l)
  | n + 1, l, seen => do
    match Tool.splitAt? c l.buffer with
    | (record, some rest) =>
      return .ok (some ((record :: seen).reverse.flatten), { l with buffer := rest })
    | (record, none) =>
      match ← { l with buffer := [] }.fill with
      | .error fault => return .error fault
      | .ok (true, l) => upTo c n l (record :: seen)
      | .ok (false, l) =>
        let text := (record :: seen).reverse.flatten
        return .ok (if text.isEmpty then none else some text, l)

/-- the next record -/
def LineStream.next (l : LineStream) (e : Ending) :
    Activity (Except DiskFault (Option (List Char) × LineStream)) := do
  match e with
  | .char c => l.upTo c endless []
  | e =>
    match ← l.fillAll with
    | .error fault => return .error fault
    | .ok l =>
      match e.take? l.buffer with
      | some (record, rest) => return .ok (some record, { l with buffer := rest })
      | none => return .ok (none, { l with buffer := [] })

/-- stop because something cannot be read -/
def failRead {α : Type} (fault : DiskFault) : Work α :=
  giveUp s!"read error ({fault.message})"

/-- the name and the value of an operand that is an assignment -/
def assignmentOf? (text : List Char) : Option (String × List Char) :=
  let name := text.takeWhile (· ≠ '=')
  match name, text.drop name.length with
  | c :: _, '=' :: value =>
    let isName := (c.isAlpha || c == '_') && name.all fun c => c.isAlphanum || c == '_'
    if isName then some (String.ofList name, value) else none
  | _, _ => none

/-- give a name the value that text from outside writes -/
def assignOutside (name : String) (v : Value) : Work Unit := do
  if name = "NF" then setFieldCount v else setGlobal name v

/-- open the file of the next operand; `unescape` reads the text of an assignment -/
def openNext (unescape : List Char → List Char) : Nat → Work Bool
  | 0 => return false
  | n + 1 => do
    let s ← get
    let count := toWhole (((s.globals["ARGC"]?).getD .unset).toNumber)
    if count ≤ s.nextOperand then
      if s.hasOpened then return false
      modify fun s => { s with hasOpened := true, main := some ⟨0, [], false, none⟩ }
      setGlobal "FILENAME" (.text ['-'])
      return true
    let key : Collection.Key := ⟨toString s.nextOperand, some s.nextOperand⟩
    let arg := ((s.arrays.getD "ARGV" .empty).value key).toText s.conversions
    modify fun s => { s with nextOperand := s.nextOperand + 1 }
    if arg.isEmpty then openNext unescape n
    else
      match assignmentOf? arg with
      | some (name, value) =>
        assignOutside name (.input (unescape value))
        openNext unescape n
      | none =>
        let path := String.ofList arg
        match ← outside (Tool.openOperand path) with
        | .ok fd =>
          modify fun s => { s with hasOpened := true, main := some ⟨fd, [], false, none⟩ }
          setGlobal "FILENAME" (.text arg)
          setGlobal "FNR" (.number 0)
          return true
        | .error f => throw (.fault s!"cannot open {path} ({f.message})")

/-- the next record of the operands -/
def nextRecord? (unescape : List Char → List Char) : Nat → Work (Option (List Char))
  | 0 => return none
  | n + 1 => do
    let s ← get
    match s.main with
    | none =>
      if ← openNext unescape endless then nextRecord? unescape n else return none
    | some l =>
      match ← outside (l.next s.ending) with
      | .error fault => failRead fault
      | .ok (some record, l) =>
        modify fun s => { s with main := some l }
        return some record
      | .ok (none, l) =>
        outside (Tool.close l.fd)
        modify fun s => { s with main := none }
        nextRecord? unescape n

/-- the input of a file or a command, which is opened if it is not -/
def inputOf? (x : Frame) (kind : LineSource) (name : List Char) : Work (Option LineStream) := do
  match (← get).inputs.find? (·.1 = (kind, name)) with
  | some (_, l) => return some l
  | none =>
    match kind with
    | .command =>
      let (reader, writer) ← outside newPipe
      let fd ← outside (openEnd reader)
      let process ← startCommand x name 1 writer
      return some ⟨fd, [], false, process⟩
    | _ =>
      match ← outside (Tool.openOperand (String.ofList name)) with
      | .ok fd => return some ⟨fd, [], false, none⟩
      | .error _ => return none

/-- the next record of a file or a command; the outcome is 1, 0 at the end, and -1 if there is none -/
def nextLine (x : Frame) (kind : LineSource) (name : List Char) : Work (Int × List Char) := do
  match ← inputOf? x kind name with
  | none => return (-1, [])
  | some l =>
    match ← outside (l.next (← get).ending) with
    | .error fault => failRead fault
    | .ok (record?, l) =>
      modify fun s =>
        { s with inputs := ((kind, name), l) :: s.inputs.filter (·.1 ≠ (kind, name)) }
      match record? with
      | some record => return (1, record)
      | none => return (0, [])

/-- close whatever has a name; the outcome is the code of the last command among it, or -1 -/
def closeNamed (name : List Char) : Work Int := do
  let s ← get
  let outputs := s.outputs.filter (·.name = name)
  let inputs := s.inputs.filter (·.1.2 = name)
  modify fun s =>
    { s with
      outputs := s.outputs.filter (·.name ≠ name)
      inputs := s.inputs.filter (·.1.2 ≠ name) }
  let mut code : Int := -1
  for o in outputs do
    code := ← outside o.close
  for (_, l) in inputs do
    code := ← outside l.close
  return code

/-- close everything at the end -/
def closeAll (s : State) : Activity Unit := do
  for o in s.outputs do discard o.close
  for (_, l) in s.inputs do Tool.close l.fd
  match s.main with
  | some l => Tool.close l.fd
  | none => return

end PatternBuild.Shell.Records
