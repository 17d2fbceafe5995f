import PatternBuild.Shell.Expansion

/-!
# What all builtins have

A place in the manual, letters to be read, and ways to be refused.
-/

/-!
## The manual of builtins

Every builtin and every compound command has a line that tells how it is written, and one that tells what
it does.
-/

namespace PatternBuild.Shell.Manual

/-- what the manual tells about a command -/
structure Topic where
  name : String
  /-- how the command is written -/
  synopsis : String
  summary : String
  isBuiltin : Bool
  deriving DecidableEq, Repr

/-- all topics by name -/
def topics : List Topic :=
  [⟨"%", "job_spec [&]",
      "Resume job in foreground.", false⟩,
    ⟨"(( ... ))", "(( expression ))",
      "Evaluate arithmetic expression.", false⟩,
    ⟨".", ". filename [arguments]",
      "Execute commands from a file in the current shell.", true⟩,
    ⟨":", ":",
      "Null command.", true⟩,
    ⟨"[", "[ arg... ]",
      "Evaluate conditional expression.", true⟩,
    ⟨"[[ ... ]]", "[[ expression ]]",
      "Execute conditional command.", false⟩,
    ⟨"alias", "alias [-p] [name[=value] ... ]",
      "Define or display aliases.", true⟩,
    ⟨"bg", "bg [job_spec ...]",
      "Move jobs to the background.", true⟩,
    ⟨"bind",
      "bind [-lpsvPSVX] [-m keymap] [-f filename] [-q name] [-u name] [-r keyseq] [-x " ++
        "keyseq:shell-command] [keyseq:readline-function or readline-command]",
      "Set Readline key bindings and variables.", true⟩,
    ⟨"break", "break [n]",
      "Exit for, while, or until loops.", true⟩,
    ⟨"builtin", "builtin [shell-builtin [arg ...]]",
      "Execute shell builtins.", true⟩,
    ⟨"caller", "caller [expr]",
      "Return the context of the current subroutine call.", true⟩,
    ⟨"case", "case WORD in [PATTERN [| PATTERN]...) COMMANDS ;;]... esac",
      "Execute commands based on pattern matching.", false⟩,
    ⟨"cd", "cd [-L|[-P [-e]] [-@]] [dir]",
      "Change the shell working directory.", true⟩,
    ⟨"command", "command [-pVv] command [arg ...]",
      "Execute a simple command or display information about commands.", true⟩,
    ⟨"compgen",
      "compgen [-abcdefgjksuv] [-o option] [-A action] [-G globpat] [-W wordlist] [-F function] " ++
        "[-C command] [-X filterpat] [-P prefix] [-S suffix] [word]",
      "Display possible completions depending on the options.", true⟩,
    ⟨"complete",
      "complete [-abcdefgjksuv] [-pr] [-DEI] [-o option] [-A action] [-G globpat] [-W wordlist] " ++
        "[-F function] [-C command] [-X filterpat] [-P prefix] [-S suffix] [name ...]",
      "Specify how arguments are to be completed by Readline.", true⟩,
    ⟨"compopt", "compopt [-o|+o option] [-DEI] [name ...]",
      "Modify or display completion options.", true⟩,
    ⟨"continue", "continue [n]",
      "Resume for, while, or until loops.", true⟩,
    ⟨"coproc", "coproc [NAME] command [redirections]",
      "Create a coprocess named NAME.", false⟩,
    ⟨"declare",
      "declare [-aAfFgiIlnrtux] [name[=value] ...] or declare -p [-aAfFilnrtux] [name ...]",
      "Set variable values and attributes.", true⟩,
    ⟨"dirs", "dirs [-clpv] [+N] [-N]",
      "Display directory stack.", true⟩,
    ⟨"disown", "disown [-h] [-ar] [jobspec ... | pid ...]",
      "Remove jobs from current shell.", true⟩,
    ⟨"echo", "echo [-neE] [arg ...]",
      "Write arguments to the standard output.", true⟩,
    ⟨"enable", "enable [-a] [-dnps] [-f filename] [name ...]",
      "Enable and disable shell builtins.", true⟩,
    ⟨"eval", "eval [arg ...]",
      "Execute arguments as a shell command.", true⟩,
    ⟨"exec",
      "exec [-cl] [-a name] [command [argument ...]] [redirection ...]",
      "Replace the shell with the given command.", true⟩,
    ⟨"exit", "exit [n]",
      "Exit the shell.", true⟩,
    ⟨"export", "export [-fn] [name[=value] ...] or export -p",
      "Set export attribute for shell variables.", true⟩,
    ⟨"false", "false",
      "Return an unsuccessful result.", true⟩,
    ⟨"fc",
      "fc [-e ename] [-lnr] [first] [last] or fc -s [pat=rep] [command]",
      "Display or execute commands from the history list.", true⟩,
    ⟨"fg", "fg [job_spec]",
      "Move job to the foreground.", true⟩,
    ⟨"for", "for NAME [in WORDS ... ] ; do COMMANDS; done",
      "Execute commands for each member in a list.", false⟩,
    ⟨"for ((", "for (( exp1; exp2; exp3 )); do COMMANDS; done",
      "Arithmetic for loop.", false⟩,
    ⟨"function", "function name \x7b COMMANDS ; \x7d or name () \x7b COMMANDS ; \x7d",
      "Define shell function.", false⟩,
    ⟨"getopts", "getopts optstring name [arg ...]",
      "Parse option arguments.", true⟩,
    ⟨"hash", "hash [-lr] [-p pathname] [-dt] [name ...]",
      "Remember or display program locations.", true⟩,
    ⟨"help", "help [-dms] [pattern ...]",
      "Display information about builtin commands.", true⟩,
    ⟨"history",
      "history [-c] [-d offset] [n] or history -anrw [filename] or history -ps arg [arg...]",
      "Display or manipulate the history list.", true⟩,
    ⟨"if",
      "if COMMANDS; then COMMANDS; [ elif COMMANDS; then COMMANDS; ]... [ else COMMANDS; ] fi",
      "Execute commands based on conditional.", false⟩,
    ⟨"jobs", "jobs [-lnprs] [jobspec ...] or jobs -x command [args]",
      "Display status of jobs.", true⟩,
    ⟨"kill",
      "kill [-s sigspec | -n signum | -sigspec] pid | jobspec ... or kill -l [sigspec]",
      "Send a signal to a job.", true⟩,
    ⟨"let", "let arg [arg ...]",
      "Evaluate arithmetic expressions.", true⟩,
    ⟨"local", "local [option] name[=value] ...",
      "Define local variables.", true⟩,
    ⟨"logout", "logout [n]",
      "Exit a login shell.", true⟩,
    ⟨"mapfile",
      "mapfile [-d delim] [-n count] [-O origin] [-s count] [-t] [-u fd] [-C callback] [-c " ++
        "quantum] [array]",
      "Read lines from the standard input into an indexed array variable.", true⟩,
    ⟨"popd", "popd [-n] [+N | -N]",
      "Remove directories from stack.", true⟩,
    ⟨"printf", "printf [-v var] format [arguments]",
      "Formats and prints ARGUMENTS under control of the FORMAT.", true⟩,
    ⟨"pushd", "pushd [-n] [+N | -N | dir]",
      "Add directories to stack.", true⟩,
    ⟨"pwd", "pwd [-LP]",
      "Print the name of the current working directory.", true⟩,
    ⟨"read",
      "read [-ers] [-a array] [-d delim] [-i text] [-n nchars] [-N nchars] [-p prompt] [-t " ++
        "timeout] [-u fd] [name ...]",
      "Read a line from the standard input and split it into fields.", true⟩,
    ⟨"readarray",
      "readarray [-d delim] [-n count] [-O origin] [-s count] [-t] [-u fd] [-C callback] [-c " ++
        "quantum] [array]",
      "Read lines from a file into an array variable.", true⟩,
    ⟨"readonly", "readonly [-aAf] [name[=value] ...] or readonly -p",
      "Mark shell variables as unchangeable.", true⟩,
    ⟨"return", "return [n]",
      "Return from a shell function.", true⟩,
    ⟨"select", "select NAME [in WORDS ... ;] do COMMANDS; done",
      "Select words from a list and execute commands.", false⟩,
    ⟨"set",
      "set [-abefhkmnptuvxBCEHPT] [-o option-name] [--] [-] [arg ...]",
      "Set or unset values of shell options and positional parameters.", true⟩,
    ⟨"shift", "shift [n]",
      "Shift positional parameters.", true⟩,
    ⟨"shopt", "shopt [-pqsu] [-o] [optname ...]",
      "Set and unset shell options.", true⟩,
    ⟨"source", "source filename [arguments]",
      "Execute commands from a file in the current shell.", true⟩,
    ⟨"suspend", "suspend [-f]",
      "Suspend shell execution.", true⟩,
    ⟨"test", "test [expr]",
      "Evaluate conditional expression.", true⟩,
    ⟨"time", "time [-p] pipeline",
      "Report time consumed by pipeline's execution.", false⟩,
    ⟨"times", "times",
      "Display process times.", true⟩,
    ⟨"trap", "trap [-lp] [[arg] signal_spec ...]",
      "Trap signals and other events.", true⟩,
    ⟨"true", "true",
      "Return a successful result.", true⟩,
    ⟨"type", "type [-afptP] name [name ...]",
      "Display information about command type.", true⟩,
    ⟨"typeset",
      "typeset [-aAfFgiIlnrtux] name[=value] ... or typeset -p [-aAfFilnrtux] [name ...]",
      "Set variable values and attributes.", true⟩,
    ⟨"ulimit", "ulimit [-SHabcdefiklmnpqrstuvxPRT] [limit]",
      "Modify shell resource limits.", true⟩,
    ⟨"umask", "umask [-p] [-S] [mode]",
      "Display or set file mode mask.", true⟩,
    ⟨"unalias", "unalias [-a] name [name ...]",
      "Remove each NAME from the list of defined aliases.", true⟩,
    ⟨"unset", "unset [-f] [-v] [-n] [name ...]",
      "Unset values and attributes of shell variables and functions.", true⟩,
    ⟨"until", "until COMMANDS; do COMMANDS-2; done",
      "Execute commands as long as a test does not succeed.", false⟩,
    ⟨"variables", "variables - Names and meanings of some shell variables",
      "Common shell variable names and usage.", false⟩,
    ⟨"wait", "wait [-fn] [-p var] [id ...]",
      "Wait for job completion and return exit status.", true⟩,
    ⟨"while", "while COMMANDS; do COMMANDS-2; done",
      "Execute commands as long as a test succeeds.", false⟩,
    ⟨"\x7b ... \x7d", "\x7b COMMANDS ; \x7d",
      "Group commands as a unit.", false⟩]

/-- the names of all builtins of the language with extensions, in order -/
def builtinNames : List String := (topics.filter (·.isBuiltin)).map (·.name)

/-- the names of the builtins of the plain language -/
def plainNames : List String :=
  [".", ":", "[", "alias", "bg", "break", "cd", "chdir", "command", "continue", "echo", "eval", "exec",
    "exit", "export", "false", "fg", "getopts", "hash", "jobs", "kill", "local", "printf", "pwd", "read",
    "readonly", "return", "set", "shift", "test", "times", "trap", "true", "type", "ulimit", "umask",
    "unalias", "unset", "wait"]

/-- the names of the builtins that scripts can rely on most -/
def specialNames : List String :=
  [".", ":", "break", "continue", "eval", "exec", "exit", "export", "readonly", "return", "set",
    "shift", "source", "times", "trap", "unset"]

/-- how a builtin is written -/
def synopsis? (name : String) : Option String :=
  (topics.find? fun t => t.isBuiltin && t.name = name).map (·.synopsis)

end PatternBuild.Shell.Manual

/-!
## Builtins: commands that belong to a shell

A builtin works on the session of the shell itself.  Here is how builtins are refused, and how their
letters are read.
-/

namespace PatternBuild.Shell

/-- a builtin by its arguments; the outcome is its exit code -/
abbrev Builtin := List String → Activity Nat

/-! ### faults -/

namespace Builtin

open Activity

/-- tell what went wrong with a builtin -/
def complain (name message : String) : Activity Unit := complainPlainly s!"{name}: {message}"

/-- refuse the arguments of a builtin -/
def refuse (name message : String) : Activity Nat := do
  Builtin.complain name message
  return if (← own).isExtended then 1 else 2

/-- refuse the arguments of a builtin whose faults end a shell of the plain language -/
def refuseSpecial (name message : String) : Activity Nat := do
  Builtin.complain name message
  if (← own).isExtended then return 1 else stop (.exit 2)

/-- tell how a builtin is used -/
def misuse (text : String) : Activity Nat := do
  tell (text ++ "\n")
  return 2

/-- tell how a builtin is used, from the manual -/
def misuseOf (name : String) : Activity Nat :=
  match Manual.synopsis? name with
  | some text => misuse s!"{name}: usage: {text}"
  | none => return 2

/-- print a text; the builtin fails if it cannot be written -/
def sayFor (name text : String) : Activity Nat := do
  if ← print 1 text then return 0
  let p ← own
  let reason := match ← streamOf 1 with
    | some (_, .device _) => "No space left on device"
    | _ => "Bad file descriptor"
  Builtin.complain name (if p.isExtended then s!"write error: {reason}" else s!"{name}: I/O error")
  return 1

/-- the number that a builtin takes -/
def number? (text : String) : Option Nat :=
  let cs := text.toList.dropWhile fun c => c == ' ' || c == '\t' || c == '\n'
  let cs := match cs with
    | '+' :: cs => cs
    | cs => cs
  (numeral? 10 cs).bind fun n => if n < 2147483648 then some n else none

/-- the complaint about a text that is no number -/
def invalidCount (text : String) : String :=
  match text.toList with
  | '0' :: c :: _ =>
    if c.isDigit then s!"{text}: invalid octal number" else if c == 'x' then s!"{text}: invalid hex number"
    else s!"{text}: invalid number"
  | _ => s!"{text}: invalid number"

/-- a builtin that only succeeds -/
def idle : Builtin := fun _ => pure 0

/-- options that are letters: each with its value, if it takes one, and the operands -/
structure Letters where
  found : List (Char × Option String)
  operands : List String

namespace Letters

def has (l : Letters) (c : Char) : Bool := l.found.any (·.1 == c)

def value? (l : Letters) (c : Char) : Option String := (l.found.reverse.lookup c).join

end Letters

/-- read letters in front of at most `n` arguments; `valued` lists those that take a value -/
def lettersUpTo (known valued : String) : Nat → List String → Except Char Letters
  | 0, args => .ok ⟨[], args⟩
  | n + 1, args =>
    match args with
    | "--" :: rest => .ok ⟨[], rest⟩
    | a :: rest =>
      match a.toList with
      | '-' :: c :: cs => do
        let (found, rest) ← word (c :: cs) rest
        let l ← lettersUpTo known valued n rest
        return ⟨found ++ l.found, l.operands⟩
      | _ => .ok ⟨[], args⟩
    | [] => .ok ⟨[], []⟩
where
  /-- read a word of letters -/
  word : List Char → List String → Except Char (List (Char × Option String) × List String)
    | [], rest => .ok ([], rest)
    | c :: cs, rest =>
      if valued.toList.contains c then
        match cs, rest with
        | [], value :: rest => .ok ([(c, some value)], rest)
        | [], [] => .ok ([(c, none)], [])
        | cs, rest => .ok ([(c, some (String.ofList cs))], rest)
      else if known.toList.contains c then do
        let (found, rest) ← word cs rest
        return ((c, none) :: found, rest)
      else .error c

/-- what the manual tells about a builtin -/
def tellManual (name : String) : Activity Nat := do
  match Manual.topics.find? (·.name = name) with
  | some t => say s!"{t.name}: {t.synopsis}\n    {t.summary}\n"
  | none => pure ()
  return 2

/-- read the letters of a builtin; one that is not known is refused, and one that lacks its value -/
def withLetters (name known valued : String) (args : List String)
    (go : Letters → Activity Nat) : Activity Nat := do
  let isExtended := (← own).isExtended
  if isExtended && args.head? = some "--help" then return ← tellManual name
  match lettersUpTo known valued (args.length + 1) args with
  | .error c =>
    if !isExtended then return ← refuseNamed s!"Illegal option -{c}"
    Builtin.complain name s!"-{c}: invalid option"
    misuseOf name
  | .ok l =>
    match l.found.find? fun (c, value) => valued.toList.contains c && value.isNone with
    | none => go l
    | some (c, _) =>
      if !isExtended then return ← refuseNamed s!"No arg for -{c} option"
      Builtin.complain name s!"-{c}: option requires an argument"
      misuseOf name
where
  refuseNamed (message : String) : Activity Nat :=
    if Manual.specialNames.contains name then refuseSpecial name message else refuse name message

end Builtin

end PatternBuild.Shell
