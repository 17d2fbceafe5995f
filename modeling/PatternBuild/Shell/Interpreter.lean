import PatternBuild.Shell.Interpreter.Compound
import PatternBuild.Shell.Tool.Table

/-!
# The interpreter

`perform` carries out tasks in a session.  Tasks inside a task count down a bound on their nesting,
so that a script without an end is stopped.
-/

namespace PatternBuild.Shell

namespace Interpreter

open Activity

/-! ## scripts -/

/-- a source as the shell reads it now -/
def tuned (p : Process) (s : Source) : Source :=
  let replaces := !p.isExtended || p.settings.contains "expand_aliases"
  { s with
    aliases := if replaces then p.aliases else []
    hasGroups := p.isExtended && p.settings.contains "extglob" }

/-- tell of a text that is no script; a shell of the plain language ends -/
def refuseScript (origin : String) (f : ScriptFault) : Activity Nat := do
  let p ← own
  modifyOwn fun p => { p with line := f.line }
  if p.isExtended then
    let place := if origin ≠ "" then (if origin.contains '/' then origin else s!"{p.name}: {origin}")
      else if p.origin == .text then s!"{p.name}: -c" else p.name
    tell (f.wideMessage place)
    match f.problem with
    | .badLoopName _ => return 1
    | .unclosedElements => return 1
    | _ => return 2
  else
    giveUp s!"Syntax error: {f.problem.plainMessage}"

/-- run a source line by line -/
def runSource (run : Run) (isTested : Bool) (origin : String) : Nat → Source → Nat → Activity Nat
  | 0, _, last => pure last
  | n + 1, s, last => do
    let p ← own
    match nextLine (tuned p s) with
    | .error f => refuseScript origin f
    | .ok none => return last
    | .ok (some (c, rest)) =>
      if p.isExtended then
        for (lastLine, line, stop) in rest.endless do
          let text := s!"warning: here-document at line {line} delimited by end-of-file (wanted \x60{stop}')"
          modifyOwn fun p => { p with line := lastLine }
          complainPlainly text
      if p.isOn "history" && origin = "" then
        let text := (s.rest.take (s.rest.length - rest.rest.length)).reverse.dropWhile (· == '\n')
        let text := String.ofList (text.reverse.dropWhile (· == '\n'))
        if text ≠ "" then modifyOwn fun p => { p with history := p.history ++ ["; ".intercalate (text.splitOn "\n")] }
      if p.options.verbose then
        tell (String.ofList (s.rest.take (s.rest.length - rest.rest.length)))
      match c with
      | .nothing => runSource run isTested origin n rest last
      | c =>
        if p.options.readOnly then runSource run isTested origin n rest last
        else
          let isLast := origin = "" && p.origin == .text && p.isExtended && p.running.isEmpty &&
            c.endsSimply && match nextLine (tuned p rest) with
              | .ok none => true
              | _ => false
          if isLast then modifyOwn fun p => { p with isLeaving := true }
          let code ← try run (.command isTested c) catch h =>
            match h with
            | .abandon code => do
              modifyOwn fun p => { p with status := code }
              pure code
            | h => throw h
          runSource run isTested origin n rest code

/-- run a text in the shell itself -/
def runText (run : Run) (isTested : Bool) (origin : String) (script : List Char) (line : Nat) :
    Activity Nat := do
  let p ← own
  let isNamed := !(origin.contains ' ' || origin = "trap")
  let outer := p.place
  -- a file is named in either language, other texts in the plain one
  let place := if isNamed && (!p.isExtended || origin ≠ "eval") then origin
    else if p.isExtended then outer else ""
  let leave : Activity Unit := modifyOwn fun p => { p with place := outer }
  modifyOwn fun p => { p with place }
  try
    let code ← runSource run isTested (if isNamed then origin else "") endless
      (.ofText script line p.isExtended) 0
    leave
    return code
  catch h =>
    leave
    throw h

/-! ## programs -/

/-- the tools that call themselves by the last part of their path -/
def shortNamedTools : List String :=
  ["awk", "mawk", "nawk", "rev", "getopt", "gzip", "gunzip", "hostname", "kill", "setsid", "zcat"]

/-- be a program with some arguments, in the current process -/
def beProgram (run : Run) (found : Located) (called : String) (args : List String) :
    Activity Nat := do
  match found with
  | .program name =>
    match shellLanguage? name, tool? name with
    | some isExtended, _ => beShell run isExtended called args
    | none, some tool => do
      let isShort := shortNamedTools.contains name
      modifyOwn fun p => { p with tool := some (name, if isShort then (called.splitOn "/").getLastD called else called) }
      Tool.run name (tool (programs run) args)
    | none, none => Tool.refuse name "cannot run" 126
  | .script path [] => do
    let isExtended := (← own).isExtended
    beShell run isExtended (if isExtended then "bash" else "sh") (path :: args)
  | .script path (interpreter :: more) =>
    match locatePath (← disk) interpreter with
    | .ok inner => run (.program inner interpreter (more ++ path :: args))
    | .error _ =>
      if (← own).isExtended then
        complain s!"{path}: {interpreter}: bad interpreter: No such file or directory"
        return 126
      else
        complain s!"{path}: not found"
        return 127

/-! ## tasks -/

/-- carry out a task; those inside it are left to `run` -/
def step (run : Run) : Task → Activity Nat
  | .command isTested c => command run isTested c
  | .text isTested origin script line => runText run isTested origin script line
  | .words _ _ _ [] => pure 0
  | .words isTested skipsFunctions isUsual (name :: args) =>
    runNamed run isTested skipsFunctions isUsual false [] name args
  | .program found called args => beProgram run found called args

/-- carry out a task whose tasks are nested at most `n` deep -/
def perform : Nat → Run
  | 0, _ => stop (.killed faultSignal none)
  | n + 1, task => step (perform n) task

/-- a nesting of tasks that scripts with an end stay below -/
def bound : Nat := 20000

end Interpreter

end PatternBuild.Shell
