import PatternBuild.Shell.Interpreter

/-!
# The scheduler

Processes run one at a time, each until it has to wait.  New ones start when another one waits, those
that can go on do so by turns, and when none can the clock goes on to the next moment at which one
may.  The run is over when the first process has ended and the others cannot go on by themselves.
-/

namespace PatternBuild.Shell

open Activity

/-- a process that waits -/
structure Waiting where
  number : Nat
  why : Pause
  own : Process
  resume : Session → Thread Nat

/-- the processes of a machine -/
structure Schedule where
  machine : Machine
  /-- those that wait, in the order of their turns -/
  queue : List Waiting
  /-- the first process, and how it has ended -/
  first : Nat
  outcome : Option (Except Halt Nat)

namespace Schedule

/-- the exit code of a process, by the way it ended -/
def exitCode (s : Session) : Except Halt Nat → Nat
  | .ok code => code % 256
  | .error (.exit code) => code % 256
  | .error (.return code) => code % 256
  | .error (.abandon code) => code % 256
  | .error (.leave _ _ _) => s.own.status
  | .error (.killed signal _) => 128 + signal

/-- the signal that has ended a process -/
def signalOf? : Except Halt Nat → Option Nat
  | .error (.killed signal _) => some signal
  | _ => none

/-- take in what a process has done -/
def take (s : Schedule) (number : Nat) : Thread Nat → Schedule
  | .done outcome t =>
    { s with
      machine := t.machine.finish number (exitCode t outcome) (signalOf? outcome)
      outcome := if number = s.first then some outcome else s.outcome }
  | .waiting why t resume =>
    { s with machine := t.machine, queue := s.queue ++ [⟨number, why, t.own, resume⟩] }

/-- run the command of a process that starts -/
def threadOf (l : Launch) (m : Machine) : Thread Nat :=
  let run := Interpreter.perform Interpreter.bound
  (Interpreter.withExitTrap run (run (.command l.isTested l.command))).start
    ⟨{ l.process with isLeaving := true }, m⟩

/-- start the oldest of the processes that are to start -/
def startNext? (s : Schedule) : Option Schedule :=
  match s.machine.launches.getLast? with
  | none => none
  | some l =>
    let m := { s.machine with launches := s.machine.launches.dropLast }
    match Session.fatal? ⟨l.process, m⟩ with
    | some (_, signal) => some { s with machine := m.finish l.process.number (128 + signal) (some signal) }
    | none => some ({ s with machine := m }.take l.process.number (threadOf l m))

/-- hand the signals for groups out to their processes, the outer ones before those inside them -/
def withGroupSignals (s : Schedule) : Schedule :=
  if s.machine.groupSignals.isEmpty then s
  else
    let own := s.queue.map (·.own) ++ s.machine.launches.map (·.process)
    let found := s.machine.groupSignals.flatMap fun (group, signal) =>
      (own.filter (·.group = group)).flatMap fun p =>
        ((p.number :: p.outer.map (·.1)).reverse).map fun number => (number, signal)
    { s with machine := { s.machine with
      signals := s.machine.signals ++ found
      groupSignals := [] } }

/-- signals that a process does not notice -/
def isUnnoticed (p : Process) (target signal : Nat) : Bool :=
  target = p.number && !endsProcess p.traps signal &&
    !((signalName? signal).bind fun name => p.traps.lookup name).any (· ≠ "")

/-- forget the signals that waiting processes do not notice -/
def withoutUnnoticed (s : Schedule) : Schedule :=
  if s.machine.signals.isEmpty then s
  else { s with machine := { s.machine with
    signals := s.machine.signals.filter fun (target, signal) =>
      !s.queue.any fun w => isUnnoticed w.own target signal } }

/-- whether a process can go on -/
def canGoOn (m : Machine) (w : Waiting) : Bool :=
  w.why.isOver m || (Session.fatal? ⟨w.own, m⟩).isSome

/-- let the first process go on that can -/
def resumeNext? (s : Schedule) : Option Schedule :=
  match s.queue.find? (canGoOn s.machine) with
  | none => none
  | some w =>
    let rest := s.queue.filter (·.number ≠ w.number)
    some ({ s with queue := rest }.take w.number (w.resume ⟨w.own, s.machine⟩))

/-- let time pass until a process can go on -/
def passTime? (s : Schedule) : Option Schedule :=
  match (s.queue.filterMap fun w => w.why.deadline?).min? with
  | some now =>
    if s.machine.disk.now < now then
      some { s with machine := { s.machine with disk := { s.machine.disk with now := now } } }
    else none
  | none => none

/-- let something happen; after the end of the first process no time passes -/
def next? (s : Schedule) : Option Schedule :=
  let s := s.withGroupSignals.withoutUnnoticed
  match s.startNext? with
  | some s => some s
  | none =>
    match s.resumeNext? with
    | some s => some s
    | none => if s.outcome.isSome then none else s.passTime?

/-- run until nothing can happen any more; after the end of the first process only `left` things do -/
def run : Nat → Nat → Schedule → Schedule
  | 0, _, s => s
  | n + 1, left, s =>
    match s.outcome, left with
    | some _, 0 => s
    | some _, left + 1 =>
      match s.next? with
      | some s => run n left s
      | none => s
    | none, left =>
      match s.next? with
      | some s => run n left s
      | none => s

/-- how much happens after the end of the first process -/
def afterlife : Nat := 1000

end Schedule

/-- run an activity as the first process of a machine; the outcome is how it ended, and the machine
after that -/
def runFirst (a : Activity Nat) (p : Process) (m : Machine) : Except Halt Nat × Machine :=
  let m := { m.register p.number p.descriptors with alive := [p.number] }
  let start : Schedule := ⟨m, [], p.number, none⟩
  let s := Schedule.run endless Schedule.afterlife (start.take p.number (a.start ⟨p, m⟩))
  (s.outcome.getD (.error (.killed killSignal none)), s.machine)

end PatternBuild.Shell
