import PatternBuild.CommandLine.Usage
import PatternBuild.Rules.Load
import PatternBuild.Settings.Basic

/-!
# Arguments: the command line of the tool

A command line is a command with its own words and options; the options for the rule file, the
settings file and the log level may stand before or after the command, and what stands after it
wins.
-/

namespace PatternBuild.CommandLine

/-- what the tool is asked to do -/
inductive Command where
  /-- show the rules -/
  | dump
  /-- check the hooks -/
  | check
  | compile (sources : List String)
  | build (dests : List String)
  /-- run a template -/
  | run (template : String)
  | watch (dir : String) (exclude : List String) (useHash : Bool)
  deriving DecidableEq, Repr

/-- a command line, read -/
structure Arguments where
  file : String
  settings : String
  logLevel : Option String
  command : Command
  deriving DecidableEq, Repr

/-! ## grammars -/

def logLevels : List String := ["error", "warn", "info", "debug", "trace"]

/-- options that every command takes -/
def sharedOptions : List OptionSpec := [
  ⟨"file", some 'f', .value .path, some "POUL_FILE"⟩,
  ⟨"settings", none, .value .path, some "POUL_SETTINGS"⟩,
  ⟨"log-level", none, .value (.oneOf logLevels), none⟩,
  ⟨"help", some 'h', .help, none⟩]

/-- what may stand before the command -/
def outerGrammar : Grammar :=
  ⟨sharedOptions ++ [⟨"version", some 'V', .version, none⟩], .none⟩

/-- what a command takes, by its name -/
def grammar? : String → Option Grammar
  | "dump" => some ⟨sharedOptions, .none⟩
  | "check" => some ⟨sharedOptions, .none⟩
  | "compile" => some ⟨sharedOptions, .some⟩
  | "build" => some ⟨sharedOptions, .some⟩
  | "run" => some ⟨sharedOptions, .one .text true⟩
  | "watch" =>
    some ⟨sharedOptions ++ [⟨"exclude", none, .list .text, some "POUL_EXCLUDE"⟩,
      ⟨"use-hash", none, .switch, none⟩], .one .path false⟩
  | _ => none

def isCommand (w : String) : Bool := w == "help" || (grammar? w).isSome

/-- the command of a name, with what was read for it -/
def Command.ofReading (name : String) (r : Reading) : Command :=
  match name with
  | "check" => .check
  | "compile" => .compile r.words
  | "build" => .build r.words
  | "run" => .run (r.words.headD "")
  | "watch" =>
    .watch (r.words.headD ".") ((r.withEnvironment.get? "exclude").getD [])
      (r.given.get? "use-hash").isSome
  | _ => .dump

/-! ## reading -/

/-- the help that is asked for; it may name one command -/
def helpFault : List String → UsageFault
  | [] => .showHelp
  | [w] => if isCommand w then .showHelp else .unknownCommand
  | _ => .unknownCommand

/-- what stands before the command, the command if there is one, and the words after it -/
def splitCommand (p : Progress) : List String →
    Except UsageFault (Progress × Option (String × List String))
  | [] => .ok (p, none)
  | w :: ws =>
    if !p.plainOnly && !p.waits && isCommand w then .ok (p, some (w, ws))
    else
      let isOption := !p.plainOnly && w.startsWith "-" && w != "-"
      if isOption || p.waits && !p.plainOnly then do splitCommand (← p.step outerGrammar w) ws
      else if p.plainOnly && isCommand w then .error .unknownArgument
      else .error .unknownCommand

/-- the value of a shared option: the nearest to the command wins, then the environment -/
def shared (outer inner : Reading) (name : String) : Option String :=
  let first (g : Given) := (g.get? name).bind List.head?
  (first inner.given).or ((first outer.given).or (first inner.withEnvironment))

/-- read a command line in an environment -/
def Arguments.read (env : List (String × String)) (ws : List String) :
    Except UsageFault Arguments := do
  let (before, found) ← splitCommand .start ws
  match found with
  | none =>
    let outer ← before.finish outerGrammar env
    throw (if outer.withEnvironment.isEmpty then .nothingGiven else .missingCommand)
  | some (name, rest) =>
    match grammar? name with
    | none => throw (helpFault rest)
    | some g =>
      let inner ← g.read env rest
      let outer ← before.finish outerGrammar env
      return {
        file := (shared outer inner "file").getD Program.defaultFile
        settings := (shared outer inner "settings").getD Settings.defaultFile
        logLevel := shared outer inner "log-level"
        command := .ofReading name inner }

end PatternBuild.CommandLine
