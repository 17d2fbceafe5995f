import PatternBuild.FileSystem.Disk
import PatternBuild.Shell.Script

/-!
# Machines: what running processes share

A machine holds the disk, the streams that descriptors lead to, the pipes between processes and what
is known about processes that run or have ended.  Its clock is that of the disk, and it goes on
when every process waits.
-/

namespace PatternBuild.Shell

open Text

/-! ## streams and pipes -/

/-- where octets come from or go to -/
inductive Stream where
  /-- a file, used from an offset on; one that is appended to is always written at its end -/
  | file (number offset : Nat) (isAppended : Bool)
  | device (name : String)
  /-- the end of a pipe that is read, or the one that is written -/
  | reader (pipe : Nat)
  | writer (pipe : Nat)
  /-- both ends of a pipe -/
  | both (pipe : Nat)
  /-- a directory, which can be opened but not read -/
  | directory (path : String)
  /-- what the whole script prints, or tells -/
  | printed
  | told
  deriving DecidableEq, Repr

/-- octets on their way from processes to others -/
structure Pipe where
  /-- what is read next -/
  front : List Char
  /-- what was written after that, the latest first -/
  back : List (List Char)
  size : Nat
  /-- whether a writer never has to wait, and there need be no reader -/
  isStore : Bool
  /-- the processes that may read and write -/
  readers : List Nat
  writers : List Nat
  /-- whether there have been readers and writers -/
  wasRead : Bool
  wasWritten : Bool
  deriving DecidableEq, Repr

namespace Pipe

/-- what a pipe takes before its writers have to wait -/
def capacity : Nat := 65536

def empty (isStore : Bool) : Pipe := ⟨[], [], 0, isStore, [], [], false, false⟩

/-- everything on its way -/
def content (p : Pipe) : List Char :=
  if p.back.isEmpty then p.front else p.front ++ p.back.reverse.flatten

def write (p : Pipe) (cs : List Char) : Pipe :=
  if cs.isEmpty then p
  else if p.front.isEmpty && p.back.isEmpty then { p with front := cs, size := cs.length }
  else { p with back := cs :: p.back, size := p.size + cs.length }

/-- take some octets away, with what remains in front -/
def keep (p : Pipe) (rest : List Char) : Pipe := { p with front := rest, back := [], size := rest.length }

/-- take away so many octets that are there -/
def drop (p : Pipe) (count : Nat) : Pipe :=
  { p with front := p.content.drop count, back := [], size := p.size - count }

def isFull (p : Pipe) : Bool := !p.isStore && capacity ≤ p.size

/-- a pipe that nobody uses is as if nobody ever had -/
def settled (p : Pipe) : Pipe :=
  if p.readers.isEmpty && p.writers.isEmpty then { p with wasRead := false, wasWritten := false }
  else p

/-- whether nothing will come any more -/
def isClosed (p : Pipe) : Bool := p.writers.isEmpty

end Pipe

/-! ## processes -/

/-- the value of a variable -/
inductive Value where
  | text (s : String)
  /-- an array whose elements have numbers, ascending -/
  | indexed (items : List (Nat × String))
  /-- an array whose elements have names, in the order of their assignment -/
  | keyed (items : List (String × String))
  deriving DecidableEq, Repr

/-- a variable; it may be marked before it has a value -/
structure Variable where
  value : Option Value
  isExported : Bool
  isReadOnly : Bool
  /-- what is assigned is computed -/
  isWhole : Bool
  /-- what is assigned is put into other letters -/
  letters : Option LetterChange
  /-- the value is the name of the variable that is meant -/
  isReference : Bool
  /-- it is marked as an array, but was never given a value -/
  isBare : Bool
  /-- the value is made anew whenever it is read -/
  isLive : Bool
  /-- how many variables there had been before it -/
  age : Nat
  deriving DecidableEq, Repr

def Variable.none : Variable := ⟨.none, false, false, false, .none, false, false, false, 0⟩

/-- a variable with a text that programs see -/
def Variable.exported (text : String) : Variable :=
  { Variable.none with value := some (.text text), isExported := true }

/-- the options of a shell, by letter -/
structure Options where
  /-- `-e`: end at the first failure -/
  exitOnError : Bool
  /-- `-u`: a variable without a value is a fault -/
  unsetIsFault : Bool
  /-- `-f`: no names of files in place of patterns -/
  noFileNames : Bool
  /-- `-n`: read commands only -/
  readOnly : Bool
  /-- `-v`: print lines as they are read -/
  verbose : Bool
  /-- `-x`: print commands as they are run -/
  trace : Bool
  /-- `-a`: export every variable that is assigned -/
  exportAll : Bool
  /-- `-C`: keep files that are there -/
  noOverwrite : Bool
  /-- a pipeline fails if one of its commands does -/
  failingPipes : Bool
  deriving DecidableEq, Repr

def Options.allOff : Options := ⟨false, false, false, false, false, false, false, false, false⟩

/-- where the commands of a shell come from -/
inductive ScriptOrigin where
  | text
  | file
  | input
  deriving DecidableEq, Repr

/-- octets that a program has printed and not written yet, the latest first -/
structure Kept where
  pieces : List (List Char)
  size : Nat
  /-- whether octets could not be written -/
  isLost : Bool
  deriving DecidableEq, Repr

def Kept.none : Kept := ⟨[], 0, false⟩

/-- a command that was started in the background -/
structure Job where
  /-- the number by which the shell calls it -/
  number : Nat
  process : Nat
  /-- the command as it is listed -/
  shown : String
  /-- whether the shell has told or used its exit code, so that its number can be given again -/
  isSettled : Bool
  deriving DecidableEq, Repr

/-- a function of a shell -/
structure Function where
  name : String
  /-- its definition as it is shown -/
  shown : String
  body : Command
  /-- the file that defines it, and the line there -/
  source : String
  line : Nat
  isExported : Bool
  isReadOnly : Bool

/-- a function as its shell hands it down: its lines have next to no indentation -/
def Function.handedDown (f : Function) : String :=
  match f.shown.splitOn "\n" with
  | _ :: _ :: body =>
    let lines := body.dropLast.map fun line => " " ++ String.ofList (line.toList.dropWhile (· == ' '))
    "() \x7b " ++ "\n".intercalate lines ++ "\n" ++ body.getLastD ""
  | _ => ""

/-- a function that is running, or a file that is being read -/
structure Call where
  name : String
  isFile : Bool
  /-- the file of what is called -/
  source : String
  /-- the line from which it is called, and the arguments there -/
  line : Nat
  outerArgs : List String
  deriving DecidableEq, Repr

/-- a program that a shell has looked up -/
structure KnownProgram where
  name : String
  path : String
  /-- how often it was run -/
  hits : Nat
  deriving DecidableEq, Repr

/-- how much of a resource a process may use, and up to which that can be raised -/
structure Limit where
  soft : Option Nat
  hard : Option Nat
  deriving DecidableEq, Repr

/-- how the arguments of a command are completed -/
structure Completion where
  /-- kinds of words, and options by name -/
  actions : List String
  options : List String
  pattern : Option String
  words : Option String
  function : Option String
  command : Option String
  /-- words that are left out, and texts around those that are not -/
  filter : Option String
  front : Option String
  back : Option String
  deriving DecidableEq, Repr

/-- a shell, apart from the machine on which it runs -/
structure Process where
  /-- whether it knows the language with extensions -/
  isExtended : Bool
  /-- the number that `$$` gives, and the number of the process itself -/
  shown : Nat
  number : Nat
  /-- the processes around it that wait for it, with their traps -/
  outer : List (Nat × List (String × String))
  /-- how many processes of the same shell are around it -/
  depth : Nat
  /-- the process that the machine knows, in which this one runs -/
  host : Nat
  /-- the group of processes to which it belongs -/
  group : Nat
  /-- whether what it runs next is the last thing that it does -/
  isLeaving : Bool
  /-- whether it runs a simple command that is joined to others by pipes -/
  isPiped : Bool
  cwd : Location
  /-- the working directory as it was reached, links and all, and directories to come back to -/
  pwd : String
  stack : List String
  /-- streams by descriptor -/
  descriptors : Table Nat Nat
  bindings : Table String Variable
  /-- how many variables there have been -/
  births : Nat
  /-- the variables that a program sees -/
  environment : List (String × String)
  /-- the variables that a running function hides, the innermost function first -/
  hidden : List (List (String × Option Variable))
  /-- options that are put back when the running function ends -/
  keptOptions : Option (Options × List String)
  /-- the functions and files that are running, the innermost first -/
  running : List Call
  /-- the name of the script, where it comes from, and its arguments -/
  name : String
  origin : ScriptOrigin
  args : List String
  functions : List Function
  aliases : List (String × String)
  /-- programs whose paths are known, the latest first -/
  known : List KnownProgram
  options : Options
  /-- options that are known by longer names -/
  settings : List String
  /-- the exit code of the last command -/
  status : Nat
  /-- the exit codes of the last pipeline -/
  pipeCodes : List Nat
  /-- the exit code of the last command whose output was put into the current one -/
  outputStatus : Option Nat
  /-- how many loops are running, and how many files are being read -/
  loops : Nat
  sources : Nat
  /-- what is run on a signal, or at the end, by name -/
  traps : List (String × String)
  /-- the traps of the shell of which this one is a part, as far as they are still listed -/
  oldTraps : List (String × String)
  /-- whether a trap is running, so that no other may start -/
  isTrapped : Bool
  line : Nat
  /-- the command that is running, as text -/
  current : String
  /-- the text or file inside the script that is read, as complaints name it -/
  place : String
  /-- the command that computes, as complaints about expressions name it -/
  computing : String
  /-- the process that was last started in the background, all that were, and those that are still
  listed -/
  lastBackground : Option Nat
  children : List Nat
  jobs : List Job
  /-- the processes that commands of the shell read from or write to by a path -/
  substitutions : List Nat
  /-- how far `getopts` has read the word of options in front of it -/
  optionOffset : Nat
  /-- the bits that files made here do not get -/
  mask : Nat
  /-- limits that were changed, by the letters of resources -/
  limits : List (Char × Limit)
  /-- builtins that are switched off -/
  disabled : List String
  /-- how the arguments of commands are completed, the latest last -/
  completions : List (String × Completion)
  /-- the commands that are remembered, the latest last -/
  history : List String
  /-- when the shell started -/
  started : Nat
  /-- the seed of random numbers, and the last one that was given -/
  random : Nat
  lastRandom : Option Nat
  /-- the last argument of the last command -/
  lastArg : String
  /-- what a program keeps back until there is enough of it -/
  kept : Kept
  /-- the tool that the process is, and what it calls itself -/
  tool : Option (String × String)

/-- a process in a directory that has done nothing yet -/
def Process.blank (number : Nat) (cwd : Location) : Process where
  isExtended := false
  shown := number
  number := number
  outer := []
  depth := 0
  host := number
  group := 0
  isLeaving := false
  isPiped := false
  cwd := cwd
  pwd := Disk.pathOf cwd
  stack := []
  descriptors := .empty
  bindings := .empty
  births := 0
  environment := []
  hidden := []
  keptOptions := .none
  running := []
  name := "sh"
  origin := .text
  args := []
  functions := []
  aliases := []
  known := []
  options := .allOff
  settings := []
  status := 0
  pipeCodes := []
  outputStatus := none
  loops := 0
  sources := 0
  traps := []
  oldTraps := []
  isTrapped := false
  line := 0
  current := ""
  place := ""
  computing := ""
  lastBackground := none
  children := []
  jobs := []
  substitutions := []
  optionOffset := 0
  mask := 0o022
  limits := []
  disabled := []
  completions := []
  history := []
  started := 0
  random := number
  lastRandom := none
  lastArg := ""
  kept := .none
  tool := .none

namespace Process

/-- the functions that are running, the innermost first -/
def calledFunctions (p : Process) : List Call := p.running.filter (!·.isFile)

/-- the function of a name -/
def function? (p : Process) (name : String) : Option Function := p.functions.find? (·.name = name)

/-- the names that lead to the running command, the innermost first: functions, files, and the script
if it is a file -/
def callStack (p : Process) : List Call :=
  p.running ++ if p.origin = .file then [⟨"main", true, p.name, 0, []⟩] else []

/-- whether functions and processes inside a process take over a trap of a name -/
def handsDown (p : Process) (name : String) : Bool :=
  p.isExtended && match name with
    | "DEBUG" => p.settings.contains "functrace"
    | "RETURN" => p.settings.contains "functrace"
    | "ERR" => p.settings.contains "errtrace"
    | _ => false

end Process

/-- what a process knows of a program -/
def Process.known? (p : Process) (name : String) : Option KnownProgram :=
  p.known.find? (·.name = name)

/-- a process that knows the path of a program, and has run it so many times more -/
def Process.knowing (p : Process) (name path : String) (runs : Nat) : Process :=
  if name.contains '/' then p
  else match p.known? name with
    | some _ => { p with known := p.known.map fun k =>
        if k.name = name then { k with path, hits := k.hits + runs } else k }
    | none => { p with known := ⟨name, path, runs⟩ :: p.known }

/-- a process that is to start: it runs a command -/
structure Launch where
  process : Process
  command : Command
  isTested : Bool

/-! ## machines -/

structure Machine where
  disk : Disk
  streams : Array Stream
  pipes : Array Pipe
  /-- what the script has printed, the latest first -/
  printed : List (List Char)
  /-- processes that have ended, with their exit codes -/
  ended : List (Nat × Nat)
  /-- processes that signals have ended, with the signals -/
  fallen : List (Nat × Nat)
  /-- processes that run -/
  alive : List Nat
  /-- signals on their way to processes, and to all processes of a group -/
  signals : List (Nat × Nat)
  groupSignals : List (Nat × Nat)
  /-- processes that are to start, the latest first -/
  launches : List Launch
  nextProcess : Nat

namespace Machine

/-- a new stream, by its number -/
def addStream (m : Machine) (s : Stream) : Machine × Nat :=
  ({ m with streams := m.streams.push s }, m.streams.size)

def setStream (m : Machine) (n : Nat) (s : Stream) : Machine :=
  { m with streams := m.streams.setIfInBounds n s }

/-- a new pipe, by its number -/
def addPipe (m : Machine) (isStore : Bool) : Machine × Nat :=
  ({ m with pipes := m.pipes.push (.empty isStore) }, m.pipes.size)

def pipe (m : Machine) (n : Nat) : Pipe := (m.pipes[n]?).getD (.empty true)

def setPipe (m : Machine) (n : Nat) (p : Pipe) : Machine :=
  { m with pipes := m.pipes.setIfInBounds n p }

/-- the pipes that a process may read and write, going by its descriptors -/
def ends (m : Machine) (descriptors : Table Nat Nat) : List Nat × List Nat :=
  let found : List Stream := descriptors.values.filterMap fun n => m.streams[n]?
  let reads : List Nat := found.filterMap fun
    | .reader p => some p
    | .both p => some p
    | _ => none
  let writes : List Nat := found.filterMap fun
    | .writer p => some p
    | .both p => some p
    | _ => none
  (reads.eraseDups, writes.eraseDups)

/-- note that a process may read a pipe -/
def addReader (m : Machine) (process n : Nat) : Machine :=
  let p := m.pipe n
  m.setPipe n { p with readers := process :: p.readers, wasRead := true }

/-- note that a process may write a pipe -/
def addWriter (m : Machine) (process n : Nat) : Machine :=
  let p := m.pipe n
  m.setPipe n { p with writers := process :: p.writers, wasWritten := true }

/-- note which pipes a process may read and write -/
def register (m : Machine) (process : Nat) (descriptors : Table Nat Nat) : Machine :=
  let (reads, writes) := m.ends descriptors
  let m := reads.foldl (fun m n => m.addReader process n) m
  writes.foldl (fun m n => m.addWriter process n) m

/-- forget the pipes that a process could use by some descriptors and cannot by others -/
def releaseLost (m : Machine) (process : Nat) (before after : Table Nat Nat) : Machine :=
  let (reads, writes) := m.ends before
  let (readsLeft, writesLeft) := m.ends after
  let m := (reads.filter (!readsLeft.contains ·)).foldl (fun m n =>
    let p := m.pipe n
    m.setPipe n { p with readers := p.readers.erase process }.settled) m
  (writes.filter (!writesLeft.contains ·)).foldl (fun m n =>
    let p := m.pipe n
    m.setPipe n { p with writers := p.writers.erase process }.settled) m

/-- put octets back in front of a pipe -/
def giveBack (m : Machine) (n : Nat) (cs : List Char) : Machine :=
  let p := m.pipe n
  m.setPipe n { p with front := if p.front.isEmpty then cs else cs ++ p.front, size := p.size + cs.length }

/-- forget that a process may read and write any pipes -/
def release (m : Machine) (process : Nat) : Machine :=
  { m with pipes := m.pipes.map fun p =>
      if p.readers.contains process || p.writers.contains process then
        { p with readers := p.readers.filter (· ≠ process),
                 writers := p.writers.filter (· ≠ process) }.settled
      else p }

/-- a machine some nanoseconds later -/
def afterTime (m : Machine) (nanoseconds : Nat) : Machine :=
  { m with disk := { m.disk with now := m.disk.now + nanoseconds } }

/-- note that a process has ended, by a signal or by itself -/
def finish (m : Machine) (process code : Nat) (signal : Option Nat) : Machine :=
  let m := m.release process
  { m with
    ended := (process, code) :: m.ended
    fallen := signal.toList.map (process, ·) ++ m.fallen
    alive := m.alive.filter (· ≠ process)
    signals := m.signals.filter (·.1 ≠ process) }

end Machine

/-! ## waiting -/

/-- what a process waits for -/
inductive Pause where
  /-- a pipe has something to be read, or will never have -/
  | readable (pipe : Nat)
  /-- the same, or it is late -/
  | readableBy (pipe now : Nat)
  /-- a pipe takes more, or nobody reads it -/
  | writable (pipe : Nat)
  /-- no process may write a pipe any more -/
  | closed (pipe : Nat)
  /-- a pipe has a process at its other end -/
  | opened (pipe : Nat) (isRead : Bool)
  | time (now : Nat)
  /-- processes have all ended, or one of them has, or there is a signal for the process itself -/
  | ended (processes : List Nat) (isOne : Bool) (itself : Nat)
  /-- a process has ended, or it is late -/
  | endedBy (process now : Nat)
  deriving DecidableEq, Repr

/-- whether a process need not wait any more -/
def Pause.isOver (m : Machine) : Pause → Bool
  | .readable n => let p := m.pipe n; 0 < p.size || p.isClosed
  | .readableBy n now => let p := m.pipe n; 0 < p.size || p.isClosed || now ≤ m.disk.now
  | .writable n => let p := m.pipe n; !p.isFull || p.readers.isEmpty
  | .closed n => (m.pipe n).isClosed
  | .opened n isRead => let p := m.pipe n; if isRead then p.wasWritten else p.wasRead
  | .time now => now ≤ m.disk.now
  | .ended processes isOne itself =>
    let hasEnded (n : Nat) : Bool := (m.ended.lookup n).isSome
    (if isOne then processes.any hasEnded else processes.all hasEnded) ||
      m.signals.any (·.1 = itself)
  | .endedBy process now => (m.ended.lookup process).isSome || now ≤ m.disk.now

/-- when a process need not wait any more, whatever the others do -/
def Pause.deadline? : Pause → Option Nat
  | .time now => some now
  | .endedBy _ now => some now
  | .readableBy _ now => some now
  | _ => none

end PatternBuild.Shell
