import PatternBuild.Shell.Builtin.Control

/-!
# Builtins for jobs

A shell numbers the commands that it starts in the background.  The builtins here send signals to
processes, list jobs and wait for them.
-/

namespace PatternBuild.Shell

namespace Process

/-- a process that has started a command in the background, in another one -/
def withJob (p : Process) (m : Machine) (process : Nat) (text : String) (c : Command) : Process :=
  let hasEnded (j : Job) : Bool := (m.ended.lookup j.process).isSome
  let jobs := p.jobs.filter fun j =>
    p.children.contains j.process && !(hasEnded j && (p.isExtended || j.isSettled))
  let used := jobs.map (·.number)
  let number := if p.isExtended then used.foldl max 0 + 1
    else ((List.range (used.length + 1)).map (· + 1)).find? (!used.contains ·) |>.getD 1
  let shown := match p.isExtended, c with
    | true, _ => text
    | false, .pipeline stages => String.join (List.replicate (stages.length - 1) " | ")
    | false, _ => ""
  { p with
    lastBackground := some process
    children := p.children ++ [process]
    jobs := jobs ++ [⟨number, process, shown, false⟩] }

/-- a process that has told of some jobs, or waited for them -/
def settling (p : Process) (isMeant : Job → Bool) : Process :=
  { p with jobs := p.jobs.map fun j => if isMeant j then { j with isSettled := true } else j }

/-- a process that has noticed which of its jobs have ended -/
def noticing (p : Process) (m : Machine) : Process :=
  { p with jobs := p.jobs.filter fun j => (m.ended.lookup j.process).isNone }

/-- the job that a text means; `%` stands in front of its number or of its first letters -/
def job? (p : Process) (text : String) : Option Job :=
  match text.toList with
  | '%' :: cs =>
    if cs.isEmpty || cs = ['%'] || cs = ['+'] then p.jobs.getLast?
    else if cs = ['-'] then (p.jobs.dropLast.getLast?).or p.jobs.getLast?
    else match numeral? 10 cs with
      | some n => p.jobs.find? (·.number = n)
      | none => if p.isExtended then p.jobs.find? (·.shown.startsWith (String.ofList cs)) else none
  | _ => none

end Process

namespace Builtin

open Activity

/-! ## sending signals -/

/-- send a signal to a process; false if there is none -/
def deliver (signal target : Nat) : Activity Bool := do
  let s ← get
  let traps? := if target = s.own.number then some s.own.traps else s.own.outer.lookup target
  match traps? with
  | some traps =>
    if endsProcess traps signal then stop (.killed signal (some target))
    if signal ≠ 0 then
      modifyMachine fun m => { m with signals := m.signals ++ [(target, signal)] }
    return true
  | none =>
    if s.machine.alive.contains target then
      modifyMachine fun m => { m with signals := m.signals ++ [(target, signal)] }
      return true
    return s.own.children.contains target && s.own.jobs.any fun j => j.process = target && !j.isSettled

/-- the signal of an exit code or number -/
def signalOfCode (n : Nat) : Nat := if 128 < n then n - 128 else n

/-- occasions for a trap that count as signals where signals are listed -/
def occasionNumbers : List (String × Nat) := [("EXIT", 0), ("DEBUG", 65), ("ERR", 66), ("RETURN", 67)]

/-- tell the names of signals by their numbers, and the numbers by the names -/
def tellSignals (texts : List String) : Activity Nat :=
  forEvery (fun text => do
    match Test.number text, signal? true text with
    | .ok n, _ =>
      let n := if 128 < n then n - 128 else n
      if n < 0 || 64 < n then refuse "kill" s!"{text}: invalid signal specification"
      else if n = 0 then sayFor "kill" "EXIT\n"
      else match signalName? n.toNat with
        | some name => sayFor "kill" (name ++ "\n")
        | none => return 0
    | _, some n => sayFor "kill" s!"{n}\n"
    | _, none =>
      match occasionNumbers.lookup (String.ofList (text.toList.map Char.toUpper)) with
      | some n => sayFor "kill" s!"{n}\n"
      | none => refuse "kill" s!"{text}: invalid signal specification") texts

/-- send a signal to processes and jobs of the language with extensions; true if one was reached -/
def signalAll (signal : Nat) : List String → Activity Bool
  | [] => return false
  | text :: rest => do
    let p ← own
    let send (target : Nat) : Activity Bool := deliver signal (if target = 0 then p.shown else target)
    let isReached ← match Test.number text with
      | .ok n =>
        let isReached ← if n < 0 then pure false else send n.toNat
        if !isReached then Builtin.complain "kill" s!"({n}) - No such process"
        pure isReached
      | .error _ =>
        if text.startsWith "%" then
          match p.job? text with
          | some job => send job.process
          | none =>
            Builtin.complain "kill" s!"{text}: no such job"
            pure false
        else
          if text = "" then Builtin.complain "kill" "\x60': not a pid or valid job spec"
          else Builtin.complain "kill" s!"{text}: arguments must be process or job IDs"
          pure false
    let others ← signalAll signal rest
    return isReached || others

/-- what the arguments of `kill` ask for -/
structure KillRequest where
  isListing : Bool
  /-- the signal as it is written -/
  signal : Option String
  targets : List String
  /-- an option that lacks its value -/
  lacking : Option String
  deriving DecidableEq, Repr

/-- read the arguments of `kill` in the language with extensions -/
def readKill : List String → KillRequest → KillRequest
  | [], r => r
  | a :: rest, r =>
    if a = "-l" || a = "-L" then readKill rest { r with isListing := true }
    else if a = "--" then { r with targets := rest }
    else if a = "-s" || a = "-n" then
      match rest with
      | name :: rest => readKill rest { r with signal := some name }
      | [] => { r with lacking := some a }
    else if a.startsWith "-" && r.signal.isNone then
      match a.toList with
      | '-' :: 's' :: c :: cs =>
        readKill rest { r with signal := some (if c.isAlpha then String.ofList (c :: cs) else (a.drop 1).toString) }
      | '-' :: 'n' :: c :: cs =>
        readKill rest { r with signal := some (if c.isDigit then String.ofList (c :: cs) else (a.drop 1).toString) }
      | _ => readKill rest { r with signal := some (a.drop 1).toString }
    else { r with targets := a :: rest }

def wideKill (args : List String) : Activity Nat := do
  if args.isEmpty then return ← misuseOf "kill"
  if args.head? = some "--help" then return ← tellManual "kill"
  let r := readKill args ⟨false, none, [], none⟩
  if let some option := r.lacking then
    Builtin.complain "kill" s!"{option}: option requires an argument"
    return 1
  if r.isListing then return ← if r.targets.isEmpty then listAllSignals else tellSignals r.targets
  if r.signal = some "?" then return ← misuseOf "kill"
  match r.signal.elim (some endSignal) (signal? true) with
  | none => refuse "kill" (r.signal.getD "" ++ ": invalid signal specification")
  | some signal =>
    if r.targets.isEmpty then return ← misuseOf "kill"
    return if ← signalAll signal r.targets then 0 else 1

/-- how `kill` is used in the plain language -/
def misuseKill : Activity Nat :=
  refuse "kill" "Usage: kill [-s sigspec | -signum | -sigspec] [pid | job]... or\nkill -l [exitstatus]"

/-- send a signal to processes of the plain language; the first that means nothing ends it -/
def signalPlainly (signal : Nat) : List String → Nat → Activity Nat
  | [], code => return code
  | text :: rest, code => do
    let p ← own
    if text.startsWith "%" && (p.job? text).isNone then return ← refuse "kill" s!"No such job: {text}"
    -- without job control neither a job nor a number with a sign is a group of processes
    let isGroup := text.startsWith "%" || text.startsWith "-"
    let digits := if text.startsWith "-" then (text.drop 1).toString else text
    if !text.startsWith "%" && (number? digits).isNone then
      return ← refuse "kill" s!"Illegal number: {digits}"
    let target := (number? digits).getD 0
    let isReached ← if isGroup then pure false else deliver signal (if target = 0 then p.shown else target)
    if !isReached then Builtin.complain "kill" "No such process\n"
    signalPlainly signal rest (if isReached then code else 1)

def plainKill (args : List String) : Activity Nat := do
  let first := (args.headD "").toList
  let direct := if first.head? == some '-' then signal? false (String.ofList (first.drop 1)) else none
  match direct, args with
  | some signal, _ :: targets => if targets.isEmpty then misuseKill else signalPlainly signal targets 0
  | _, _ =>
    if args.isEmpty then return ← misuseKill
    withLetters "kill" "l" "s" args fun l => do
      if l.has 'l' then
        match l.operands with
        | [] =>
          for n in List.range 65 do say (listedSignal n ++ "\n")
          return 0
        | text :: _ =>
          match number? text with
          | none => refuse "kill" s!"Illegal number: {text}"
          | some n =>
            let n := signalOfCode n
            match if n = 0 then none else signalName? n with
            | some _ => sayFor "kill" (listedSignal n ++ "\n")
            | none => refuse "kill" s!"invalid signal number or exit status: {text}"
      else match (l.value? 's').elim (some endSignal) (signal? false) with
        | none => refuse "kill" ("invalid signal number or name: " ++ (l.value? 's').getD "")
        | some signal => if l.operands.isEmpty then misuseKill else signalPlainly signal l.operands 0

def kill : Builtin := fun args => do
  if (← own).isExtended then wideKill args else plainKill args

/-! ## jobs -/

/-- a job as it is listed -/
def listedJob (p : Process) (m : Machine) (showsProcess : Bool) (j : Job) : String :=
  let mark := if p.jobs.getLast?.any (·.number = j.number) then "+"
    else if p.jobs.dropLast.getLast?.any (·.number = j.number) then "-" else " "
  let padded (width : Nat) (text : String) : String :=
    text ++ String.ofList (List.replicate (width - text.length) ' ')
  let process := if showsProcess then s!"{j.process} " else ""
  let code? := m.ended.lookup j.process
  if p.isExtended then
    let state := match code? with
      | none => "Running"
      | some 0 => "Done"
      | some code => s!"Exit {code}"
    let gap := if showsProcess then " " else "  "
    s!"[{j.number}]" ++ mark ++ gap ++ process ++ padded 24 state ++ j.shown ++
      (if code?.isNone then " &" else "") ++ "\n"
  else
    let state := match code? with
      | none => "Running"
      | some 0 => "Done"
      | some code => (m.fallen.lookup j.process).elim s!"Done({code})" signalMeaning
    padded 33 (s!"[{j.number}] " ++ mark ++ " " ++ process ++ state) ++ j.shown ++ "\n"

/-- tell that a text means no job -/
def noSuchJob (command text : String) : Activity Nat := do
  if (← own).isExtended then
    Builtin.complain command s!"{text}: no such job"
    return 1
  refuse command s!"No such job: {text}"

/-- list jobs: the plain language starts with the latest one, and forgets those that have ended -/
def jobs : Builtin := fun args => do
  withLetters "jobs" (if (← own).isExtended then "lpnrs" else "lp") "" args fun l => do
    let m ← machine
    if (← own).isExtended then modifyOwn (·.noticing m)
    let p ← own
    let list (j : Job) : Activity Unit := do
      let p ← own
      if l.has 'p' then say s!"{j.process}\n"
      else say (listedJob p m (l.has 'l') j)
      unless p.isExtended || (m.ended.lookup j.process).isNone do
        modifyOwn fun p => { p with jobs := p.jobs.filter (·.number ≠ j.number) }
    if l.has 's' || l.has 'n' then return 0
    if l.operands.isEmpty then
      for j in (if p.isExtended then p.jobs else p.jobs.reverse) do list j
      return 0
    forEvery (fun text => do
      match p.job? text with
      | some j =>
        list j
        return 0
      | none => noSuchJob "jobs" text) l.operands

/-- go on with a job in front or behind, which takes job control -/
def resumeJob (command : String) : Builtin := fun args => do
  let p ← own
  if p.isExtended then
    Builtin.complain command "no job control"
    return 1
  match p.job? (args.headD "%%"), args with
  | some _, _ => refuse command "job (null) not created under job control"
  | none, [] => refuse command "No current job"
  | none, text :: _ => noSuchJob command text

/-- forget jobs -/
def disown : Builtin := fun args =>
  withLetters "disown" "ahr" "" args fun l => do
    let p ← own
    let forget (isMeant : Job → Bool) : Activity Nat := do
      unless l.has 'h' do modifyOwn fun p => { p with jobs := p.jobs.filter (!isMeant ·) }
      return 0
    if l.operands.isEmpty then
      if l.has 'a' || l.has 'r' then return ← forget fun _ => true
      match p.jobs.getLast? with
      | some job => return ← forget fun (j : Job) => j.number = job.number
      | none => return ← noSuchJob "disown" "current"
    forEvery (fun text => do
      let job? := match numeral? 10 text.toList with
        | some n => p.jobs.find? fun (j : Job) => j.process = n
        | none => p.job? text
      match job? with
      | some job => forget fun (j : Job) => j.number = job.number
      | none => noSuchJob "disown" text) l.operands

/-! ## waiting -/

/-- the signal that is waited for by a trap -/
def trappedSignal? : Activity (Option Nat) := do
  let s ← get
  return (s.machine.signals.find? fun (target, signal) =>
    target = s.own.number && !endsProcess s.own.traps signal &&
      ((signalName? signal).bind fun name => s.own.traps.lookup name).any (· ≠ "")).map (·.2)

/-- note that a process has been waited for -/
def settled (target : Nat) : Activity Unit := do
  modifyOwn fun p =>
    if p.isExtended then { p with jobs := p.jobs.filter (·.process ≠ target) }
    else p.settling (·.process = target)

/-- wait for a process; the code is its own -/
def waitFor (target : Nat) : Activity Nat := do
  pause (.ended [target] false (← own).number)
  match (← machine).ended.lookup target with
  | some code =>
    tellFall true target (((← own).jobs.find? (·.process = target)).elim "" (·.shown))
    settled target
    return code
  | none => return 128 + (← trappedSignal?).getD 0

/-- wait for the first of some processes to end -/
def waitForAny (targets : List Nat) : Activity (Option (Nat × Nat)) := do
  if targets.isEmpty then return none
  pause (.ended targets true (← own).number)
  let m ← machine
  match targets.find? fun n => (m.ended.lookup n).isSome with
  | some target =>
    settled target
    return some (target, (m.ended.lookup target).getD 0)
  | none => return none

/-- wait for all processes -/
def waitForAll : Activity Nat := do
  let p ← own
  pause (.ended ((p.jobs.map (·.process)).filter p.children.contains ++ p.substitutions) false p.number)
  match ← trappedSignal? with
  | some signal => return 128 + signal
  | none =>
    modifyOwn fun p => if p.isExtended then { p with jobs := [], substitutions := [] } else p.settling fun _ => true
    return 0

/-- wait for a process or job that a text means -/
def waitForOne (text : String) : Activity Nat := do
  let p ← own
  if text.startsWith "%" then
    match p.job? text with
    | some job => return ← waitFor job.process
    | none =>
      let code ← noSuchJob "wait" text
      return if p.isExtended then 127 else code
  match numeral? 10 text.toList with
  | some target =>
    if p.children.contains target then return ← waitFor target
    if p.isExtended then Builtin.complain "wait" s!"pid {text} is not a child of this shell"
    return 127
  | none =>
    if p.isExtended then
      Builtin.complain "wait" s!"\x60{text}': not a pid or valid job spec"
      return 1
    refuse "wait" s!"Illegal number: {text}"

def wait : Builtin := fun args => do
  withLetters "wait" (if (← own).isExtended then "fn" else "") (if (← own).isExtended then "p" else "") args
    fun l => do
      let p ← own
      if l.has 'n' then
        let meant := (p.jobs.filter fun j => p.children.contains j.process).filter fun j =>
          l.operands.isEmpty || l.operands.contains (toString j.process) ||
            l.operands.any fun text => (p.job? text).any (·.number = j.number)
        match ← waitForAny (meant.map (·.process)) with
        | some (target, code) =>
          match l.value? 'p' with
          | some name => assign name (toString target)
          | none => pure ()
          return code
        | none => return (← trappedSignal?).elim 127 (128 + ·)
      if l.operands.isEmpty then return ← waitForAll
      let mut code := 0
      for text in l.operands do code ← waitForOne text
      return code

end Builtin

end PatternBuild.Shell
