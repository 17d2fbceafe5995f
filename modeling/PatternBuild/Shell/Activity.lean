import PatternBuild.Shell.Machine

/-!
# Activities and the signals that reach them
-/

/-!
## Signals

A signal has a number and a name.  One that is not trapped ends the process that it reaches, unless
it is one of the quiet ones.
-/

namespace PatternBuild.Shell

/-- the signals with a meaning of their own, by name -/
def plainSignals : List (String × Nat) := [
  ("HUP", 1), ("INT", 2), ("QUIT", 3), ("ILL", 4), ("TRAP", 5), ("ABRT", 6), ("BUS", 7),
  ("FPE", 8), ("KILL", 9), ("USR1", 10), ("SEGV", 11), ("USR2", 12), ("PIPE", 13), ("ALRM", 14),
  ("TERM", 15), ("STKFLT", 16), ("CHLD", 17), ("CONT", 18), ("STOP", 19), ("TSTP", 20),
  ("TTIN", 21), ("TTOU", 22), ("URG", 23), ("XCPU", 24), ("XFSZ", 25), ("VTALRM", 26),
  ("PROF", 27), ("WINCH", 28), ("IO", 29), ("PWR", 30), ("SYS", 31)]

/-- the name of a signal that has no meaning of its own, by its number -/
def freeSignalName (n : Nat) : String :=
  if n = 34 then "RTMIN"
  else if n < 50 then s!"RTMIN+{n - 34}"
  else if n < 64 then s!"RTMAX-{64 - n}"
  else "RTMAX"

/-- the signals by name -/
def signals : List (String × Nat) :=
  plainSignals ++ (List.range 31).map fun k => (freeSignalName (34 + k), 34 + k)

/-- signals that nobody notices by themselves, or that only stop a process -/
def quietSignals : List Nat := [17, 18, 19, 20, 21, 22, 23, 28]

/-- the signals that the model itself sends -/
def interrupt : Nat := 2
def killSignal : Nat := 9
def faultSignal : Nat := 11
def brokenPipe : Nat := 13
def endSignal : Nat := 15

/-- the name of a signal -/
def signalName? (n : Nat) : Option String := (signals.find? (·.2 = n)).map (·.1)

/-- what signals mean, from the first on -/
def signalMeanings : List String := [
  "Hangup", "Interrupt", "Quit", "Illegal instruction", "Trace/breakpoint trap", "Aborted", "Bus error",
  "Floating point exception", "Killed", "User defined signal 1", "Segmentation fault",
  "User defined signal 2", "Broken pipe", "Alarm clock", "Terminated", "Stack fault", "Child exited",
  "Continued", "Stopped (signal)", "Stopped", "Stopped (tty input)", "Stopped (tty output)",
  "Urgent I/O condition", "CPU time limit exceeded", "File size limit exceeded",
  "Virtual timer expired", "Profiling timer expired", "Window changed", "I/O possible",
  "Power failure", "Bad system call"]

/-- what a signal means -/
def signalMeaning (n : Nat) : String :=
  if n < 34 then (signalMeanings[n - 1]?).getD s!"Unknown signal {n}"
  else s!"Real-time signal {n - 34}"

/-- how a list of all signals shows one -/
def listedSignal (n : Nat) : String :=
  if n = 16 then "16"
  else (signalName? n).getD (toString n)

/-- the signal of a name or number; `SIG` may stand before a name where that is allowed -/
def signal? (allowsFullNames : Bool) (text : String) : Option Nat :=
  let upper := text.toList.map Char.toUpper
  let name := if allowsFullNames && "SIG".toList.isPrefixOf upper then upper.drop 3 else upper
  match signals.lookup (String.ofList name) with
  | some n => some n
  | none =>
    if !upper.isEmpty && upper.all Char.isDigit then text.toNat?.bind fun n => if n ≤ 64 then some n else none
    else none

/-- the name under which the trap for a signal, or for another occasion, is kept -/
def trapName? (isExtended : Bool) (text : String) : Option String :=
  let upper := String.ofList (text.toList.map Char.toUpper)
  if upper = "EXIT" ∨ text = "0" then some "EXIT"
  else if isExtended ∧ ["ERR", "DEBUG", "RETURN"].contains upper then some upper
  else (signal? isExtended text).bind signalName?

/-- whether a signal ends a process that has some traps, which are commands by name -/
def endsProcess (traps : List (String × String)) (signal : Nat) : Bool :=
  signal = killSignal ||
    !(signal = 0 || quietSignals.contains signal ||
      ((signalName? signal).bind fun name => traps.lookup name).isSome)

end PatternBuild.Shell

/-!
## Activities: what a process does

An activity works on a session, which is a process with its machine.  It may stop before its end,
for one of the reasons that `Halt` lists, and it may have to wait; then it hands its session over
and goes on with another one, in which the machine has changed meanwhile.
-/

namespace PatternBuild.Shell

open Text

structure Session where
  own : Process
  machine : Machine

/-- a signal on its way that ends the process, or one that waits for it, with the process that it is
for -/
def Session.fatal? (s : Session) : Option (Nat × Nat) :=
  s.machine.signals.find? fun (target, signal) =>
    match if target = s.own.number then some s.own.traps else s.own.outer.lookup target with
    | some traps => endsProcess traps signal
    | none => false

/-- why an activity stops before its end -/
inductive Halt where
  /-- the shell ends -/
  | exit (code : Nat)
  /-- a process is ended by a signal: this one, or the one of the given number -/
  | killed (signal : Nat) (target : Option Nat)
  /-- a number of loops are left, the outermost of them for its next turn or for good, with a code -/
  | leave (loops : Nat) (goOn : Bool) (code : Nat)
  /-- a function ends -/
  | return (code : Nat)
  /-- the commands of the current line are left -/
  | abandon (code : Nat)
  deriving DecidableEq, Repr

/-- an activity that has run as far as it can -/
inductive Thread (α : Type) where
  | done (outcome : Except Halt α) (s : Session)
  | waiting (why : Pause) (s : Session) (resume : Session → Thread α)

/-- go on after an activity -/
def Thread.andThen {α β : Type} (next : Except Halt α → Session → Thread β) : Thread α → Thread β
  | .done outcome s => next outcome s
  | .waiting why s resume => .waiting why s fun s => (resume s).andThen next

/-- an activity of a process -/
structure Activity (α : Type) where
  start : Session → Thread α

namespace Activity

/-! ### composition -/

@[always_inline, inline]
protected def pure {α : Type} (a : α) : Activity α := ⟨fun s => .done (.ok a) s⟩

@[always_inline, inline]
protected def bind {α β : Type} (x : Activity α) (f : α → Activity β) : Activity β :=
  ⟨fun s =>
    match x.start s with
    | .done (.ok a) s => (f a).start s
    | .done (.error h) s => .done (.error h) s
    | .waiting why s resume => .waiting why s fun s => (resume s).andThen fun
      | .ok a, s => (f a).start s
      | .error h, s => .done (.error h) s⟩

instance : Monad Activity where
  pure := Activity.pure
  bind := Activity.bind

instance : MonadStateOf Session Activity where
  get := ⟨fun s => .done (.ok s) s⟩
  set s := ⟨fun _ => .done (.ok ()) s⟩
  modifyGet f := ⟨fun s => let (a, s) := f s; .done (.ok a) s⟩

instance : MonadExceptOf Halt Activity where
  throw h := ⟨fun s => .done (.error h) s⟩
  tryCatch x f := ⟨fun s =>
    match x.start s with
    | .done (.ok a) s => .done (.ok a) s
    | .done (.error h) s => (f h).start s
    | .waiting why s resume => .waiting why s fun s => (resume s).andThen fun
      | .ok a, s => .done (.ok a) s
      | .error h, s => (f h).start s⟩

def stop {α : Type} (h : Halt) : Activity α := throw h

/-- wait, whatever for; a signal may end the process meanwhile -/
def pause (why : Pause) : Activity Unit :=
  ⟨fun s =>
    if why.isOver s.machine then .done (.ok ()) s
    else .waiting why s fun s =>
      match s.fatal? with
      | some (target, signal) => .done (.error (.killed signal (some target))) s
      | none => .done (.ok ()) s⟩

/-- how long something takes that gives way, in nanoseconds -/
def turnTime : Nat := 5000

/-- let the other processes go on, if there are any, and some time pass -/
def giveWay : Activity Unit :=
  ⟨fun s =>
    if s.machine.launches.isEmpty && s.machine.alive.all (· = s.own.host) then .done (.ok ()) s
    else .waiting (.time 0) { s with machine := s.machine.afterTime turnTime } fun s =>
      match s.fatal? with
      | some (target, signal) => .done (.error (.killed signal (some target))) s
      | none => .done (.ok ()) s⟩

/-- how often something is repeated that ends by itself -/
def endless : Nat := 1000000000

/-! ### the session -/

def own : Activity Process := do return (← get).own

def machine : Activity Machine := do return (← get).machine

def modifyOwn (f : Process → Process) : Activity Unit :=
  modify fun s => { s with own := f s.own }

def modifyMachine (f : Machine → Machine) : Activity Unit :=
  modify fun s => { s with machine := f s.machine }

/-- the disk as the process sees it -/
def disk : Activity Disk := do
  let s ← get
  return { s.machine.disk with cwd := s.own.cwd }

def setDisk (d : Disk) : Activity Unit := modifyMachine fun m => { m with disk := d }

/-- let time pass -/
def sleep (nanoseconds : Nat) : Activity Unit := do
  pause (.time ((← machine).disk.now + nanoseconds))

/-! ### streams -/

def streamOf (fd : Nat) : Activity (Option (Nat × Stream)) := do
  let s ← get
  return do
    let n ← s.own.descriptors.get? fd
    let stream ← s.machine.streams[n]?
    return (n, stream)

def setStream (n : Nat) (stream : Stream) : Activity Unit :=
  modifyMachine fun m => m.setStream n stream

/-- a new stream, by its number -/
def addStream (stream : Stream) : Activity Nat := do
  let (m, n) := (← machine).addStream stream
  modifyMachine fun _ => m
  return n

/-- lead a descriptor to a stream -/
def setDescriptor (fd n : Nat) : Activity Unit :=
  modifyOwn fun p => { p with descriptors := p.descriptors.insert fd n }

/-- write to a pipe, when it takes more -/
def writePipe (n : Nat) (cs : List Char) : Activity Bool := do
  pause (.writable n)
  let p := (← machine).pipe n
  if p.readers.isEmpty && !p.isStore then
    if (← own).traps.any fun (name, text) => name == "PIPE" && text.isEmpty then return false
    stop (.killed brokenPipe none)
  modifyMachine fun m => m.setPipe n ((m.pipe n).write cs)
  return true

/-- octets with others in place from an offset on -/
def overwrite (old : Bytes) (offset : Nat) (new : Bytes) : Bytes :=
  let start := old.take offset
  start ++ List.replicate (offset - start.length) 0 ++ new ++ old.drop (offset + new.length)

/-- write to a descriptor; false if it cannot be written -/
def write (fd : Nat) (cs : List Char) : Activity Bool := do
  if cs.isEmpty then return true
  match ← streamOf fd with
  | none => return false
  | some (_, .printed) =>
    modifyMachine fun m => { m with printed := cs :: m.printed }
    return true
  | some (_, .told) => return true
  | some (_, .device name) => return name ≠ "full"
  | some (_, .writer p) => writePipe p cs
  | some (_, .both p) => writePipe p cs
  | some (n, .file number offset isAppended) =>
    let d := (← machine).disk
    let old := (d.file number).content
    let at_ := if isAppended then old.length else offset
    setDisk (d.setContent number (overwrite old at_ (toBytes cs)))
    setStream n (.file number (at_ + cs.length) isAppended)
    return true
  | some _ => return false

/-- write a text -/
def print (fd : Nat) (text : String) : Activity Bool := write fd text.toList

/-- print a text and go on -/
def say (text : String) : Activity Unit := discard (print 1 text)

/-- tell something besides what is printed -/
def tell (text : String) : Activity Unit := discard (print 2 text)

/-- take what a pipe holds, or wait until it holds something; nothing if it never will -/
def takePipe (n : Nat) : Activity (List Char) := do
  pause (.readable n)
  let p := (← machine).pipe n
  modifyMachine fun m => m.setPipe n (p.keep [])
  return p.content

/-- take at most so many octets from a pipe, or wait until it holds any; nothing if it never will -/
def takeFromPipe (n count : Nat) : Activity (List Char) := do
  pause (.readable n)
  let p := (← machine).pipe n
  let octets := p.content.take count
  modifyMachine fun m => m.setPipe n (p.drop octets.length)
  return octets

/-- octets that nobody can foretell -/
def randomOctets (count : Nat) : Activity (List Char) := do
  let p ← own
  let step (n : Nat) : Nat := (n * 6364136223846793005 + 1442695040888963407) % 18446744073709551616
  let first := step (p.random + 31 * p.number + (← machine).disk.now)
  let (seed, octets) := (List.range count).foldl (fun (n, octets) _ =>
    (step n, Char.ofNat (n / 281474976710656 % 256) :: octets)) (first, [])
  modifyOwn fun p => { p with random := seed % 4294967296 }
  return octets

/-- what a device gives -/
def readDevice (name : String) (count : Nat) : Activity (List Char) := do
  match name with
  | "zero" | "full" => return List.replicate count '\x00'
  | "random" | "urandom" => randomOctets count
  | _ => return []

/-- how much a device gives at a time -/
def deviceSize : Nat := 4096

/-- what can be read next from a descriptor; nothing at its end -/
def readSome (fd : Nat) : Activity (Except DiskFault (List Char)) := do
  match ← streamOf fd with
  | none => return .error .badDescriptor
  | some (_, .reader p) => return .ok (← takePipe p)
  | some (_, .both p) => return .ok (← takePipe p)
  | some (n, .file number offset isAppended) =>
    let rest := ((← machine).disk.file number).content.drop offset
    setStream n (.file number (offset + rest.length) isAppended)
    return .ok (ofBytes rest)
  | some (_, .device name) => return .ok (← readDevice name deviceSize)
  | some (_, .directory _) => return .error .isDir
  | some _ => return .ok []

/-- read up to the end of a descriptor, in at most `n` steps; the latest pieces come first -/
def readPieces (fd : Nat) : Nat → List (List Char) → Activity (Except DiskFault (List (List Char)))
  | 0, found => pure (.ok found)
  | n + 1, found => do
    match ← readSome fd with
    | .error f => return .error f
    | .ok [] => return .ok found
    | .ok cs => readPieces fd n (cs :: found)

/-- read everything from a descriptor -/
def readAll (fd : Nat) : Activity (Except DiskFault (List Char)) := do
  return (← readPieces fd endless []).map fun pieces => pieces.reverse.flatten

/-- give octets back that were read last; only files take them -/
def seekBack (fd count : Nat) : Activity Unit := do
  match ← streamOf fd with
  | some (n, .file number offset isAppended) =>
    setStream n (.file number (offset - count) isAppended)
  | _ => return

/-- put octets back in front of a pipe, or of a file -/
def putBack (fd : Nat) (cs : List Char) : Activity Unit := do
  match ← streamOf fd with
  | some (_, .reader n) => modifyMachine (·.giveBack n cs)
  | some (_, .both n) => modifyMachine (·.giveBack n cs)
  | _ => seekBack fd cs.length

/-- read at most so many octets, and none at the end -/
def readAtMost (fd count : Nat) : Activity (Except DiskFault (List Char)) := do
  match ← streamOf fd with
  | some (_, .device name) => return .ok (← readDevice name count)
  | some (_, .reader p) => return .ok (← takeFromPipe p count)
  | some (_, .both p) => return .ok (← takeFromPipe p count)
  | some (n, .file number offset isAppended) =>
    let octets := ((← machine).disk.file number).content.drop offset |>.take count
    setStream n (.file number (offset + octets.length) isAppended)
    return .ok (ofBytes octets)
  | _ => readSome fd

/-- the octets up to one that ends them, and whether there was one; `seen` were read before -/
def readUntil (fd : Nat) (isEnd : Char → Bool) (most : Nat) :
    Nat → List Char → Activity (List Char × Bool)
  | 0, seen => pure (seen, false)
  | n + 1, seen => do
    match ← readSome fd with
    | .error _ => return (seen, false)
    | .ok [] => return (seen, false)
    | .ok cs =>
      let line := (cs.take (most - seen.length)).takeWhile fun c => !isEnd c
      let isLong := most ≤ seen.length + line.length
      if line.length = cs.length && !isLong then readUntil fd isEnd most n (seen ++ line)
      else
        let taken := if isLong then line.length else line.length + 1
        putBack fd (cs.drop taken)
        return (seen ++ line, true)

/-- the octets up to a line feed, and whether there was one -/
def readLine (fd : Nat) : Activity (List Char × Bool) :=
  readUntil fd (· == '\n') endless endless []

/-! ### faults -/

/-- tell what went wrong, as the shell does for one of its commands -/
def complainPlainly (message : String) : Activity Unit := do
  let p ← own
  if p.isExtended then
    let origin := if p.place ≠ "" then p.place
      else if p.calledFunctions.isEmpty || p.origin == .file then p.name else "environment"
    tell s!"{origin}: line {p.line}: {message}\n"
  else tell s!"{p.name}: {p.line}: {message}\n"

/-- tell what went wrong, as the shell does; the plain language tells the text inside the script -/
def complain (message : String) : Activity Unit := do
  let p ← own
  complainPlainly (if p.isExtended || p.place = "" then message else s!"{p.place}: {message}")

/-- tell what went wrong and end the shell, or leave the current line -/
def giveUp {α : Type} (message : String) : Activity α := do
  complain message
  stop (if (← own).isExtended then .abandon 1 else .exit 2)

/-- the code of a shell that ends because a parameter has no value -/
def unsetCode (p : Process) : Nat :=
  if !p.isExtended then 2 else if p.options.exitOnError then 1 else 127

/-- tell that a parameter has no value and end the shell -/
def giveUpUnset {α : Type} (name : String) : Activity α := do
  let p ← own
  if p.isExtended then
    complain s!"{name}: unbound variable"
    stop (.exit (unsetCode p))
  else
    complain s!"{name}: parameter not set"
    stop (.exit 2)

/-! ### nesting -/

/-- lead the descriptors elsewhere; pipes to which none leads any more are let go -/
def setDescriptors (descriptors : Table Nat Nat) : Activity Unit := do
  let p ← own
  modifyMachine fun m => m.releaseLost p.host p.descriptors descriptors
  modifyOwn fun p => { p with descriptors }

/-- run an activity and put the descriptors back -/
def withDescriptors {α : Type} (a : Activity α) : Activity α := do
  let outer := (← own).descriptors
  let leave : Activity Unit := setDescriptors outer
  try
    let x ← a
    leave
    return x
  catch h =>
    leave
    throw h

/-- a process like this one, with a number of its own; it has no children, and of the traps only those
that ignore something -/
def forked (isInside : Bool) : Activity Process := do
  let number := (← machine).nextProcess
  modifyMachine fun m => { m with nextProcess := number + 1 }
  let p ← own
  return { p with
    number
    depth := p.depth + 1
    host := if isInside then p.host else number
    outer := if isInside then (p.number, p.traps) :: p.outer else []
    traps := p.traps.filter fun (name, text) => text = "" || p.handsDown name
    oldTraps := if p.isExtended then p.traps ++ p.oldTraps else []
    isLeaving := false
    children := []
    jobs := if p.isExtended then p.jobs else []
    substitutions := []
    loops := 0
    kept := .none }

/-- have a process run a command, beside this one -/
def launch (p : Process) (command : Command) (isTested : Bool) : Activity Unit :=
  modifyMachine fun m =>
    let m := m.register p.number p.descriptors
    { m with launches := ⟨p, command, isTested⟩ :: m.launches, alive := p.number :: m.alive }

/-- run an activity as a process of its own: what it does to the machine stays, and nothing else
does; the outcome is its exit code, unless a process around it is ended -/
def asProcess (inner : Process) (a : Activity Nat) : Activity Nat := do
  let outer ← own
  modifyOwn fun _ => inner
  let leave : Activity Nat := do
    let status := (← own).status
    modifyOwn fun _ => outer
    return status
  try
    let code ← a
    discard leave
    return code
  catch h =>
    let status ← leave
    match h with
    | .exit code => return code
    | .return code => return code
    | .abandon code => return code
    | .leave _ _ _ => return status
    | .killed signal target =>
      if target.any (· ≠ inner.number) then throw h
      modifyMachine fun m => { m with fallen := (inner.number, signal) :: m.fallen }
      return 128 + signal

/-- tell which signal has ended a process that the shell has waited for, in the background or not, if
one has; a few are not worth telling -/
def tellFall (isJob : Bool) (process : Nat) (shown : String) : Activity Unit := do
  let p ← own
  match (← machine).fallen.lookup process with
  | none => return
  | some signal =>
    let text := signalMeaning signal
    if signal = interrupt || signal = brokenPipe then return
    if !p.isExtended then tell (text ++ "\n")
    else
      let isTrapped := ((signalName? signal).bind fun name => p.traps.lookup name).isSome
      if signal = endSignal then
        if !isJob then tell (text ++ "\n")
        return
      if isTrapped then return
      let padding := String.ofList (List.replicate (24 - text.length) ' ')
      complainPlainly s!"{process} {text}{padding}{shown}"

/-- run an activity and collect what it prints -/
def collect (a : Activity Nat) : Activity (Nat × List Char) := do
  let (m, p) := (← machine).addPipe true
  let (m, n) := m.addStream (.writer p)
  modifyMachine fun _ => m
  let code ← withDescriptors do
    setDescriptor 1 n
    a
  pause (.closed p)
  return (code, ((← machine).pipe p).content)

end Activity

end PatternBuild.Shell
