import PatternBuild.Shell.Builtin.Control
import PatternBuild.Shell.Builtin.Jobs
import PatternBuild.Shell.Reading.Command
import PatternBuild.Shell.Reading.Source
import PatternBuild.Shell.Tool.Basic

/-!
# Tasks: what an interpreter carries out

The parts of the interpreter are functions that take one for all tasks, to which they leave the tasks
inside their own.  A task whose code another command asks for is tested: its failure does not end a
shell that ends at failures.
-/

namespace PatternBuild.Shell

/-- what an interpreter carries out; the outcome is an exit code -/
inductive Task where
  | command (isTested : Bool) (c : Command)
  /-- the commands of a text, whose first line has the given number -/
  | text (isTested : Bool) (origin : String) (script : List Char) (line : Nat)
  /-- a command by its words; functions may be skipped, and programs searched where they always are -/
  | words (isTested skipsFunctions isUsual : Bool) (words : List String)
  /-- a program with its arguments, in the current process; it is called by a name -/
  | program (found : Located) (called : String) (args : List String)

/-- carries out tasks -/
abbrev Run := Task → Activity Nat

namespace Interpreter

open Activity

/-- run a command whose failure ends a shell that ends at failures -/
def runPlain (run : Run) (c : Command) : Activity Nat := run (.command false c)

/-! ## codes -/

/-- run the commands for an occasion, if there are some; the code of the last command stays -/
def runTrap (run : Run) (name : String) : Activity Unit := do
  let p ← own
  match p.traps.lookup name with
  | none => return
  | some text =>
    if p.isTrapped || text = "" then return
    modifyOwn fun p => { p with isTrapped := true }
    let leave : Activity Unit := modifyOwn fun q => { q with isTrapped := false, status := p.status }
    -- in the language with extensions some traps know the line of the command before them
    let line := if p.isExtended && (signals.lookup name).isNone then p.line else 1
    try
      discard (run (.text true "trap" text.toList line))
      leave
    catch h =>
      leave
      throw h

/-- tell the shell which command it is about to run, and run the trap for that -/
def announce (run : Run) (shown : String) : Activity Unit := do
  let p ← own
  if p.isExtended then
    if !p.isTrapped && shown ≠ "" then modifyOwn fun p => { p with current := shown }
    if (p.traps.lookup "DEBUG").isSome then runTrap run "DEBUG"

/-- tell the shell that it is about to start a simple command as a process of its own -/
def announceSimple (run : Run) : Command → Activity Unit
  | .simple _ shown _ _ _ => announce run shown
  | .redirected _ (.simple _ shown _ _ _) _ => announce run shown
  | _ => pure ()

/-- keep the code of a command, and end a shell that ends at failures; the trap for failures counts
only if it was there before -/
def settleWith (run : Run) (hadTrap isTested : Bool) (code : Nat) : Activity Nat := do
  modifyOwn fun p => { p with status := code }
  if code ≠ 0 && !isTested then
    if hadTrap then runTrap run "ERR"
    let p ← own
    if p.options.exitOnError then stop (.exit code)
  return code

/-- keep the code of a command, and end a shell that ends at failures -/
def settle (run : Run) (isTested : Bool) (code : Nat) : Activity Nat := settleWith run true isTested code

/-- run the commands for signals that have come -/
def runPending (run : Run) : Nat → Activity Unit
  | 0 => return
  | n + 1 => do
    let s ← get
    if s.machine.signals.isEmpty then return
    let mine := s.machine.signals.find? fun (target, _) => target = s.own.number
    match mine with
    | none => return
    | some (target, signal) =>
      modifyMachine fun m => { m with signals := m.signals.erase (target, signal) }
      match signalName? signal with
      | some name => runTrap run name
      | none => pure ()
      runPending run n

/-- how a part of a loop ends -/
inductive Turn where
  | completed (code : Nat)
  | again
  | over (code : Nat)
  deriving DecidableEq, Repr

/-- run a part of a loop -/
def turn (a : Activity Nat) : Activity Turn := do
  modifyOwn fun p => { p with loops := p.loops + 1 }
  let leaveLoop : Activity Unit := modifyOwn fun p => { p with loops := p.loops - 1 }
  try
    let code ← a
    leaveLoop
    return .completed code
  catch h =>
    leaveLoop
    match h with
    | .leave n goOn code =>
      if n ≤ 1 then return if goOn then .again else .over code
      else throw (.leave (n - 1) goOn code)
    | h => throw h

/-! ## processes inside a shell -/

/-- run an activity, and the trap for the end after it -/
def withExitTrap (run : Run) (a : Activity Nat) : Activity Nat := do
  let code ← try a catch h =>
    match h with
    | .exit code => pure code
    | .return code => pure code
    | .abandon code => pure code
    | .leave _ _ _ => do pure (← own).status
    | h => throw h
  let p ← own
  match p.traps.lookup "EXIT" with
  | none => return code
  | some text =>
    modifyOwn fun p => { p with traps := p.traps.filter (·.1 ≠ "EXIT"), status := code, isTrapped := true }
    try
      discard (run (.text true "exit trap" text.toList 1))
      return code
    catch h =>
      match h with
      | .exit code => return code
      | .return code => return code
      | .abandon code => return code
      | .leave _ _ _ => return code
      | h => throw h

/-- notice which jobs have ended meanwhile, as the language with extensions does -/
def noticeJobs : Activity Unit := do
  let s ← get
  if s.own.isExtended && !s.own.jobs.isEmpty then
    for j in s.own.jobs do tellFall true j.process j.shown
    modifyOwn (·.noticing s.machine)

/-- run an activity as a subshell -/
def inSubshell (run : Run) (a : Activity Nat) : Activity Nat := do
  let child ← forked true
  let code ← asProcess child (withExitTrap run a)
  if !(← own).isExtended then tellFall false child.number ""
  return code

end Interpreter

end PatternBuild.Shell
