import PatternBuild.Shell.Builtin.Completing
import PatternBuild.Shell.Builtin.Jobs
import PatternBuild.Shell.Builtin.Limits
import PatternBuild.Shell.Builtin.Lines
import PatternBuild.Shell.Builtin.Recall
import PatternBuild.Shell.Builtin.Variables

/-!
# The builtins by name

A shell of the plain language ends at the faults of its special builtins, and keeps what is assigned
in front of them.  Builtins that run further commands belong to the interpreter.
-/

namespace PatternBuild.Shell

/-- the builtins whose faults end a shell of the plain language -/
def specialBuiltin? : String → Option Builtin
  | ":" => some Builtin.idle
  | "break" => some (Builtin.leave "break" false)
  | "continue" => some (Builtin.leave "continue" true)
  | "exit" => some Builtin.exit
  | "export" => some Builtin.export
  | "readonly" => some Builtin.readonly
  | "return" => some Builtin.return
  | "set" => some Builtin.set
  | "shift" => some Builtin.shift
  | "times" => some Builtin.times
  | "trap" => some Builtin.trap
  | "unset" => some Builtin.unset
  | _ => none

/-- builtins that both languages know -/
def commonBuiltin? : String → Option Builtin
  | "true" => some Builtin.idle
  | "false" => some fun _ => pure 1
  | "echo" => some Builtin.echo
  | "printf" => some Builtin.printf
  | "test" => some Builtin.test
  | "[" => some Builtin.bracket
  | "pwd" => some Builtin.pwd
  | "cd" => some Builtin.cd
  | "local" => some Builtin.local
  | "read" => some Builtin.read
  | "kill" => some Builtin.kill
  | "umask" => some Builtin.umask
  | "getopts" => some Builtin.getopts
  | "ulimit" => some Builtin.ulimit
  | "wait" => some Builtin.wait
  | "jobs" => some Builtin.jobs
  | "hash" => some Builtin.hash
  | "alias" => some Builtin.alias
  | "unalias" => some Builtin.unalias
  | "fg" => some (Builtin.resumeJob "fg")
  | "bg" => some (Builtin.resumeJob "bg")
  | _ => none

/-- builtins of the language with extensions -/
def wideBuiltin? : String → Option Builtin
  | "declare" => some (Builtin.declare "declare")
  | "typeset" => some (Builtin.declare "typeset")
  | "let" => some Builtin.let
  | "shopt" => some Builtin.shopt
  | "pushd" => some Builtin.pushd
  | "popd" => some Builtin.popd
  | "dirs" => some Builtin.dirs
  | "disown" => some Builtin.disown
  | "enable" => some Builtin.enable
  | "history" => some Builtin.history
  | "help" => some Builtin.help
  | "bind" => some Builtin.bind
  | "complete" => some Builtin.complete
  | "compopt" => some Builtin.compopt
  | "suspend" => some Builtin.suspend
  | "logout" => some Builtin.logout
  | "caller" => some Builtin.caller
  | _ => none

/-- the builtins whose faults do not end the shell -/
def regularBuiltin? (isExtended : Bool) (name : String) : Option Builtin :=
  match commonBuiltin? name with
  | some b => some b
  | none =>
    if isExtended then wideBuiltin? name
    else if name = "chdir" then some (Builtin.cdAs "chdir") else none

/-- builtins that run commands, of which the first ones are special -/
def specialControls : List String := [".", "eval", "exec"]

def regularControls (isExtended : Bool) : List String :=
  ["command", "type"] ++ if isExtended then ["source", "builtin", "compgen", "fc", "mapfile", "readarray"] else []

/-- builtins whose arguments write assignments -/
def declaringBuiltins (isExtended : Bool) : List String :=
  ["export", "readonly", "local", "alias"] ++ if isExtended then ["declare", "typeset"] else []

end PatternBuild.Shell
