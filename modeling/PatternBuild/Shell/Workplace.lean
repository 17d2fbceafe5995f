import PatternBuild.Engine.Action
import PatternBuild.Settings.Basic
import PatternBuild.Shell.Scheduler

/-!
# Workplaces: the world in which steps run

A workplace is a disk with the variables that programs inherit and all that was printed so far.  A
step runs as the shell of the settings with the script as its last argument.
-/

namespace PatternBuild

open Shell

/-- where steps run -/
structure Workplace where
  disk : Disk
  /-- the variables that programs inherit -/
  environment : List (String × String)
  /-- what was printed so far -/
  printed : Text.Bytes

namespace Workplace

/-- a disk with the programs of the system, where nothing was printed yet -/
def start (disk : Disk) (environment : List (String × String)) : Workplace :=
  ⟨withSystem disk, environment, []⟩

/-! ## starting programs -/

/-- a fault of the system with its number -/
def systemFault (message : String) (number : Nat) : String := s!"{message} (os error {number})"

/-- why a path leads to no program -/
def startFault (f : DiskFault) : String :=
  match f with
  | .missing => systemFault f.message 2
  | .forbidden => systemFault f.message 13
  | .notDir => systemFault f.message 20
  | .nameTooLong => systemFault f.message 36
  | .tooManyLinks => systemFault f.message 40
  | f => f.message

/-- the variables of a step, which stand before those that it inherits -/
def variablesOf (w : Workplace) (i : Invocation) : List (String × String) :=
  let own := i.environment
  own ++ w.environment.filter fun (name, _) => (own.lookup name).isNone

/-- variables that a shell has from its start, if it does not inherit them -/
def usualVariables (cwd : Location) : List (String × String) :=
  [("HOME", "/root"), ("PATH", defaultPath), ("PWD", Disk.pathOf cwd)]

/-- the variables that a program sees, in their order -/
def inherited (cwd : Location) (environment : List (String × String)) : List (String × String) :=
  let given := environment.map fun (name, value) => (Text.octets name, Text.octets value)
  (Table.ofList (usualVariables cwd ++ given)).entries

/-- a machine on which nothing runs, and the number of its first process -/
def machine (disk : Disk) : Machine where
  disk := disk
  streams := #[.device "null", .printed, .told]
  pipes := #[]
  printed := []
  ended := []
  fallen := []
  alive := []
  signals := []
  groupSignals := []
  launches := []
  nextProcess := 3

/-- the number of the first process -/
def firstProcess : Nat := 2

/-- a process that sees some variables -/
def process (disk : Disk) (environment : List (String × String)) : Process :=
  { Process.blank firstProcess disk.cwd with
    descriptors := .ofList [(0, 0), (1, 1), (2, 2)]
    environment := inherited disk.cwd environment
    started := disk.now }

/-- why arguments and variables cannot be given to a program -/
def refusal? (words : List String) (environment : List (String × String)) : Option String :=
  let entries := environment.map fun (name, value) => name ++ "=" ++ value
  if (words ++ entries).any (·.contains '\x00') then some "nul byte found in provided data"
  else if (words ++ entries).any fun text => argumentLimit ≤ text.utf8ByteSize + 1 then
    some (systemFault "Argument list too long" 7)
  else none

/-- what a program leads to, or why it cannot be started -/
def startable (d : Disk) (searched program : String) : Except String Located :=
  let found := if program.contains '/' || program.length ≤ Disk.maxName then locate d searched program
    else .error .nameTooLong
  match found with
  | .error f => .error (startFault f)
  | .ok (_, .script _ []) => .error (systemFault "Exec format error" 8)
  | .ok (_, .script path (interpreter :: more)) =>
    match locatePath d interpreter with
    | .ok _ => .ok (.script path (interpreter :: more))
    | .error f => .error (startFault f)
  | .ok (_, found) => .ok found

/-- the time that passes until a program has started, in nanoseconds -/
def startingTime : Nat := 10000000

/-- run a step with a program and the flags before its script -/
def execute (program : String) (flags : List String) (i : Invocation) : Action Workplace Int := do
  let w ← get
  let environment := w.variablesOf i
  let args := flags ++ ["-c", i.script]
  match refusal? (program :: args) environment with
  | some reason => throw (.spawn program reason)
  | none =>
    let searched := (environment.lookup "PATH").getD defaultPath
    match startable w.disk (Text.octets searched) (Text.octets program) with
    | .error reason => throw (.spawn program reason)
    | .ok found =>
      let disk := { w.disk with now := w.disk.now + startingTime }
      let run := Interpreter.perform Interpreter.bound
      let first := run (.program found (Text.octets program) (args.map Text.octets))
      let (ending, m) := runFirst first (process disk environment) (machine disk)
      let printed := Text.toBytes m.printed.reverse.flatten
      set { w with disk := { m.disk with cwd := w.disk.cwd }, printed := w.printed ++ printed }
      match ending with
      | .error (.killed _ _) => throw (.noExitStatus program)
      | ending => return Schedule.exitCode ⟨process disk environment, m⟩ ending

/-- the world that runs steps as the settings say -/
def world (s : Settings) : World Workplace where
  execute := execute s.program s.flags
  files w := w.disk.fileSystem

/-- print a text of the tool itself -/
def print (text : String) : Action Workplace Unit :=
  modify fun w => { w with printed := w.printed ++ Text.encode text }

end Workplace

end PatternBuild
