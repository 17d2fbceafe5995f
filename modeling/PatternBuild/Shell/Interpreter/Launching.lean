import PatternBuild.Shell.Builtin.Table
import PatternBuild.Shell.Interpreter.Task

/-!
# Commands by name

What a name of a command means, how programs and shells are started, and the builtins that run
commands themselves.
-/

/-!
## Starting shells and programs

A shell that is started sees the variables that it inherits and nothing else of the process that
starts it.
-/

namespace PatternBuild.Shell.Interpreter

open Activity

/-- where a shell reads its commands -/
inductive ScriptSource where
  | text (script : String)
  | file (path : String)
  | input
  deriving DecidableEq, Repr

/-- what a shell is started with -/
structure ShellStart where
  process : Process
  source : ScriptSource
  name : String
  args : List String

/-- where further builtins are looked for -/
def loadablesPath : String :=
  "/usr/local/lib/bash:/usr/lib/bash:/opt/local/lib/bash:/usr/pkg/lib/bash:/opt/pkg/lib/bash:."

/-- variables that a shell has from its start -/
def firstVariables (isExtended : Bool) (parent : Nat) : List (String × Variable) :=
  let text (s : String) : Variable := { Variable.none with value := some (.text s) }
  let fixed (s : String) : Variable := { text s with isReadOnly := true, isWhole := true }
  let common := [("IFS", text " \t\n"), ("OPTIND", text "1"), ("PATH", text defaultPath), ("PS4", text "+ ")]
  if isExtended then
    let live : Variable := { Variable.none with isLive := true }
    let items (value : Value) : Variable := { live with value := some value }
    let version := (numbered 0 ["5", "2", "15", "1", "release", "x86_64-pc-linux-gnu"])
    let whole (name : String) : String × Variable := (name, { live with isWhole := true })
    common ++ [("BASH", text "/usr/bin/bash"), ("BASH_VERSION", text "5.2.15(1)-release"),
      ("BASH_VERSINFO", { Variable.none with value := some (.indexed version), isReadOnly := true }),
      ("BASH_LOADABLES_PATH", text loadablesPath),
      ("BASHOPTS", { text "" with isReadOnly := true }),
      ("SHELLOPTS", { text "" with isReadOnly := true }),
      ("EUID", fixed "0"), ("UID", fixed "0"), ("PPID", fixed (toString parent)),
      ("HOSTNAME", text "localhost"), ("HOSTTYPE", text "x86_64"), ("OPTERR", text "1"),
      ("MACHTYPE", text "x86_64-pc-linux-gnu"), ("OSTYPE", text "linux-gnu"),
      ("OPTIND", { text "1" with isWhole := true }),
      ("SHELL", text "/bin/bash"), ("TERM", text "dumb")] ++
      ["BASHPID", "HISTCMD", "RANDOM", "SRANDOM"].map whole ++
      (["BASH_ARGV0", "BASH_COMMAND", "BASH_SUBSHELL", "COMP_WORDBREAKS", "EPOCHREALTIME",
        "EPOCHSECONDS", "LINENO", "SECONDS", "_"].map fun name => (name, live)) ++
      (["BASH_ALIASES", "BASH_CMDS"].map fun name => (name, items (.keyed []))) ++
      (["BASH_ARGC", "BASH_ARGV", "BASH_LINENO", "BASH_SOURCE", "DIRSTACK", "GROUPS", "PIPESTATUS"].map
        fun name => (name, items (.indexed []))) ++
      [("FUNCNAME", { items (.indexed []) with isBare := true })]
  else common ++ [("PPID", text (toString parent)), ("PS1", text "# "), ("PS2", text "> ")]

/-- the function that a variable hands down, if it does -/
def inheritedFunction? (name text : String) : Option Function :=
  let cs := name.toList
  let start := Process.functionStart.toList
  let ending := Process.functionEnd.toList
  if start.isPrefixOf cs && ending.isSuffixOf cs && text.startsWith "() \x7b" then
    let called := String.ofList ((cs.drop start.length).take (cs.length - start.length - ending.length))
    match nextLine (.ofText (called ++ " " ++ text).toList 0 true) with
    | .ok (some (.function called shown body, _)) =>
      some ⟨called, shown, body, "environment", 0, true, false⟩
    | _ => none
  else none

/-- a shell in a process, with the variables that it inherits -/
def freshShell (isExtended : Bool) (p : Process) (environment : List (String × String)) : Process :=
  let blank := { Process.blank p.number p.cwd with
    isExtended
    outer := p.outer
    host := p.host
    group := p.group
    descriptors := p.descriptors
    name := if isExtended then "bash" else "sh"
    traps := p.traps
    mask := p.mask
    limits := p.limits
    settings := if isExtended then usualSettings else []
    started := p.started }
  let first := (firstVariables isExtended (p.outer.head?.map (·.1) |>.getD 1)).foldl
    (fun p (name, v) => p.bind name v) blank
  let inherited := (environment.filter fun (name, _) =>
      isName name.toList && !(name = "OPTIND" || (first.bindings.get? name).any fun v =>
        v.isReadOnly || v.isLive)).foldl
    (fun p (name, text) => p.bindExported name text) first
  -- the inherited working directory is kept if it leads to the real one
  let pwd := ((environment.lookup "PWD").filter fun path => path.startsWith "/").getD blank.pwd
  let p := { inherited.bindExported "PWD" pwd with pwd }
  if isExtended then
    let switched := ((environment.lookup "SHELLOPTS").getD "").splitOn ":" |>.foldl (fun p name =>
      (p.switchNamed? name true).getD p) p
    let set := ((environment.lookup "BASHOPTS").getD "").splitOn ":" |>.foldl (fun p name =>
      if settingNames.contains name then p.withSwitch name true else p) switched
    let p := set.tellingSwitches
    let p := { p with functions := environment.filterMap fun (name, text) => inheritedFunction? name text }
    let level := (((environment.lookup "SHLVL").bind String.toNat?).getD 0) + 1
    let p := p.bindExported "SHLVL" (toString level)
    if (p.bindings.get? "OLDPWD").isNone then
      p.bind "OLDPWD" { Variable.none with isExported := true }
    else p
  else p

/-- long options of shells, each with the option that it switches on -/
def longOptions : List (String × Option String) :=
  [("--norc", none), ("--noprofile", none), ("--login", none), ("--posix", "posix"),
    ("--noediting", none), ("--verbose", "verbose"), ("--restricted", none), ("--debugger", none)]

/-- read the long options in front of some arguments -/
def readLong (p : Process) : List String → Process × List String
  | a :: rest =>
    match longOptions.lookup a, rest with
    | some (some name), rest => readLong (p.withSwitch name true) rest
    | some none, rest => readLong p rest
    | none, file :: rest =>
      if a = "--rcfile" || a = "--init-file" then readLong p rest else (p, a :: file :: rest)
    | none, [] => (p, [a])
  | [] => (p, [])

/-- what the arguments of a shell mean -/
def ShellStart.ofArgs (p : Process) (called : String) (args : List String) :
    Except String ShellStart := do
  let (p, args) := if p.isExtended then readLong p args else (p, args)
  let r := readOptions (.start p true args)
  if let some fault := r.fault then throw fault
  match r.isCommand, r.isInput, r.rest with
  | true, _, script :: rest =>
    return ⟨{ r.process with origin := .text }, .text script, rest.headD called, rest.drop 1⟩
  | true, _, [] =>
    throw (if p.isExtended then "-c: option requires an argument" else "-c requires an argument")
  | false, false, path :: rest => return ⟨{ r.process with origin := .file }, .file path, path, rest⟩
  | false, _, rest => return ⟨{ r.process with origin := .input }, .input, called, rest⟩

/-- the text of a file with a script: it is searched like a program if it is not in the directory -/
def scriptFile (path : String) : Activity (Except DiskFault (List Char)) := do
  let cs ← Tool.contentOf path
  match cs with
  | .ok cs => return .ok cs
  | .error f =>
    let searched := ((← own).environment.lookup "PATH").getD defaultPath
    if path.contains '/' then return .error f
    let d ← disk
    match (searched.splitOn ":").map (inDir · path) |>.find? d.isFile with
    | some found => Tool.contentOf found
    | none => return .error f

/-- a path from the root -/
def fromRoot (p : Process) (path : String) : String :=
  if path.startsWith "/" then path else p.pwd ++ "/" ++ path

/-- be a shell with some arguments, in the current process; it inherits the variables that the process
sees as a program -/
def beShell (run : Run) (isExtended : Bool) (called : String) (args : List String) :
    Activity Nat := do
  let p ← own
  let shell := freshShell isExtended p p.environment
  if isExtended && args.head? = some "--version" then
    say "GNU bash, version 5.2.15(1)-release (x86_64-pc-linux-gnu)\n"
    return 0
  match ShellStart.ofArgs shell called args with
  | .error message => Tool.refuse called (if isExtended then message else s!"0: {message}") 2
  | .ok start =>
    let process := match start.source with
      | .text script =>
        if isExtended then start.process.bind "BASH_EXECUTION_STRING"
          { Variable.none with value := some (.text script) }
        else start.process
      | _ => start.process
    let process := if isExtended && called.contains '/' then
        process.bind "BASH" { Variable.none with value := some (.text (fromRoot process called)) }
      else process
    let go (script : List Char) : Activity Nat := do
      modifyOwn fun q => { process with name := start.name, args := start.args,
                                        descriptors := q.descriptors }
      withExitTrap run (run (.text false "" script 1))
    match start.source with
    | .text script => go script.toList
    | .input =>
      match ← readAll 0 with
      | .ok cs => go cs
      | .error _ => go []
    | .file path =>
      match ← scriptFile path with
      | .ok cs => go cs
      | .error f =>
        if isExtended then
          Tool.refuse called s!"{path}: {f.message}" (if f = .missing then 127 else 126)
        else
          let reason := match f with
            | .missing => "No such file"
            | f => f.message
          Tool.refuse called s!"0: cannot open {path}: {reason}" 2

/-- become a program, which sees some variables: of the traps those remain that ignore something -/
def becomeProgram (run : Run) (environment : List (String × String)) (found : Located)
    (called : String) (args : List String) : Activity Nat := do
  modifyOwn fun p => { p with environment, traps := p.traps.filter (·.2 = ""), kept := .none }
  let code ← run (.program found called args)
  modifyOwn fun p => { p with traps := [] }
  return code

/-- run a program as a process of its own, which sees some variables -/
def asProgram (run : Run) (environment : List (String × String)) (found : Located) (called : String)
    (args : List String) : Activity Nat := do
  let p ← forked true
  asProcess { p with environment } (run (.program found called args))

/-- how programs run others -/
def programs (run : Run) : Programs where
  run words := do
    let p ← own
    match words with
    | [] => return .ok 0
    | name :: args =>
      match locate (← disk) ((p.environment.lookup "PATH").getD defaultPath) name with
      | .error f => return .error f
      | .ok (_, found) =>
        if !fitsArguments words p.environment then return .error .tooManyArguments
        return .ok (← asProgram run p.environment found name args)
  start words := do
    let p ← own
    match words with
    | [] => return .ok 0
    | name :: args =>
      match locate (← disk) ((p.environment.lookup "PATH").getD defaultPath) name with
      | .error f => return .error f
      | .ok (path, _) =>
        let child ← forked false
        let path := if path.contains '/' then path else "./" ++ path
        let child := { child with outer := [], group := child.number }
        launch (freshShell false child p.environment)
          (Command.ofArgs (path :: args)) true
        return .ok child.number

end PatternBuild.Shell.Interpreter

/-!
## What names of commands mean

A name may be that of an alias, a keyword, a function, a builtin or a program.  Here is which of them
is run, and how a shell tells about all of them.
-/

namespace PatternBuild.Shell.Interpreter

open Activity

/-! ### which command is run -/

/-- what a command name means -/
inductive Meaning where
  | special (run : Builtin)
  | function (f : Function)
  | regular (run : Builtin)
  /-- a builtin that runs commands -/
  | control (isSpecial : Bool)
  | program

/-- the builtin that a name means, if it is on -/
def builtinMeaning? (p : Process) (name : String) : Option Meaning :=
  if p.disabled.contains name then none
  else if specialControls.contains name then some (.control true)
  else if (regularControls p.isExtended).contains name then some (.control false)
  else match specialBuiltin? name with
    | some run => some (.special run)
    | none => (regularBuiltin? p.isExtended name).map .regular

/-- what is run under a name -/
def meaningOf (p : Process) (skipsFunctions : Bool) (name : String) : Meaning :=
  let builtin? := builtinMeaning? p name
  let comesFirst := !p.isExtended && match builtin? with
    | some (.special _) => true
    | some (.control isSpecial) => isSpecial
    | _ => false
  match (if skipsFunctions || comesFirst then none else p.function? name), builtin? with
  | some f, _ => .function f
  | none, some builtin => builtin
  | none, none => .program

/-- words that mean something by themselves -/
def keywords (isExtended : Bool) : List String :=
  if isExtended then
    ["if", "then", "else", "elif", "fi", "case", "esac", "for", "select", "while", "until", "do",
      "done", "in", "function", "time", "\x7b", "\x7d", "!", "[[", "]]", "coproc"]
  else Reading.reserved

/-- the directories searched for programs -/
def searchedDirs : Activity String := do return (← textOf? "PATH").getD ""

/-- a path relative to the working directory, as the language with extensions tells it -/
def fromHere (path : String) : String :=
  if path.startsWith "/" || path.startsWith "./" then path else "./" ++ path

/-- the path of a program found among directories, of which an empty one is the working directory -/
def toldPath (p : Process) (searched path : String) : String :=
  if !p.isExtended || path.contains '/' then path
  else if searched = "" then p.pwd ++ "/" ++ path else "./" ++ path

/-! ### what the plain language tells -/

/-- what the plain language tells about a name -/
def describe? (isLong : Bool) (name : String) : Activity (Option String) := do
  let p ← own
  let tells (what : String) : Option String := some (if isLong then s!"{name} is {what}" else name)
  if (keywords false).contains name then return tells "a shell keyword"
  if let some text := p.aliases.lookup name then
    return some (if isLong then s!"{name} is an alias for {text}" else s!"alias {name}={inQuotes text}")
  match meaningOf p false name with
  | .special _ => return tells "a special shell builtin"
  | .control true => return tells "a special shell builtin"
  | .control false => return tells "a shell builtin"
  | .regular _ => return tells "a shell builtin"
  | .function _ => return tells "a shell function"
  | .program =>
    match p.known? name, pathsOf (← disk) (← searchedDirs) name with
    | some k, _ =>
      modifyOwn (·.knowing name k.path 1)
      return some (if isLong then s!"{name} is a tracked alias for {k.path}" else k.path)
    | none, path :: _ =>
      modifyOwn (·.knowing name path 0)
      return some (if isLong then s!"{name} is {path}" else path)
    | none, [] => return none

/-- tell what names mean in the plain language -/
def describeAll (isLong : Bool) (names : List String) : Activity Nat :=
  Builtin.forEvery (fun name => do
    match ← describe? isLong name with
    | some text =>
      say (text ++ "\n")
      return 0
    | none =>
      if isLong then say s!"{name}: not found\n"
      return 127) names

/-! ### what the language with extensions tells -/

/-- what is told about a name -/
inductive Telling where
  /-- what kind of command it is -/
  | kind
  /-- a sentence -/
  | sentence
  /-- what can be written in its place -/
  | reusable
  /-- the path of the program -/
  | path
  deriving DecidableEq, Repr

/-- how the language with extensions tells about names -/
structure TellingRules where
  telling : Telling
  /-- whether everything is told that the name could mean -/
  isAll : Bool
  skipsFunctions : Bool
  /-- whether only programs are told -/
  isPath : Bool
  /-- whether programs are searched where they always are -/
  isUsual : Bool
  /-- whether paths start at the root -/
  isFromRoot : Bool

/-- where programs are found even without a list of directories -/
def usualDirs : String := "/bin:/usr/bin"

/-- a line that tells about a name that is no program -/
def tellMeaning (r : TellingRules) (kind sentence reusable : String) : Activity Unit :=
  match r.telling with
  | .kind => say (kind ++ "\n")
  | .sentence => say (sentence ++ "\n")
  | .reusable => say (reusable ++ "\n")
  | .path => pure ()

/-- tell about the path of a program -/
def tellPath (r : TellingRules) (name path : String) : Activity Unit :=
  say <| match r.telling with
    | .kind => "file\n"
    | .sentence => s!"{name} is {path}\n"
    | _ => path ++ "\n"

/-- tell which program a name means; false if it means none -/
def tellProgram (r : TellingRules) (name : String) : Activity Bool := do
  let p ← own
  let d ← disk
  if name.contains '/' then
    if (locatePath d name).isOk then
      tellPath r name name
      return true
    return false
  if !r.isAll || r.isPath then
    if let some k := p.known? name then
      modifyOwn (·.knowing name k.path 1)
      let path := fromHere k.path
      if r.telling = .sentence then say s!"{name} is hashed ({path})\n" else tellPath r name path
      return true
  let searched ← if r.isUsual then pure usualDirs else searchedDirs
  let rooted (path : String) : String :=
    let path := toldPath p searched path
    if r.isFromRoot && !path.startsWith "/" then
      p.pwd ++ "/" ++ (if path.startsWith "./" then (path.drop 2).toString else path)
    else path
  let paths := (pathsOf d searched name).map rooted
  let told := if r.isAll then paths else paths.take 1
  for path in told do tellPath r name path
  return !told.isEmpty

/-- tell what a name means; false if it means nothing -/
def tellWidely (r : TellingRules) (name : String) : Activity Bool := do
  let p ← own
  let alias? := if p.isOn "expand_aliases" then p.aliases.lookup name else none
  let function? := if r.skipsFunctions then none else p.function? name
  let meanings : List (Activity Unit) :=
    if r.isPath then []
    else
      (alias?.map fun text => tellMeaning r "alias" (s!"{name} is aliased to " ++ "\x60" ++ text ++ "'")
        s!"alias {name}={inWideQuotes text}").toList ++
      (if (keywords true).contains name then
        [tellMeaning r "keyword" s!"{name} is a shell keyword" name] else []) ++
      (function?.map fun f => tellMeaning r "function" s!"{name} is a function\n{f.shown}" name).toList ++
      if (builtinMeaning? p name).isSome then
        let isSpecial := p.isOn "posix" && Manual.specialNames.contains name
        let what := if isSpecial then "a special shell builtin" else "a shell builtin"
        [tellMeaning r "builtin" s!"{name} is {what}" name]
      else []
  if r.isAll then
    for tellOne in meanings do tellOne
    let isProgram ← tellProgram r name
    return isProgram || !meanings.isEmpty
  match meanings with
  | tellOne :: _ =>
    tellOne
    return true
  | [] => tellProgram r name

/-- the letters of `type` that words stand for -/
def typeWord (a : String) : String :=
  if a = "-type" || a = "--type" then "-t" else if a = "-path" || a = "--path" then "-p"
  else if a = "-all" || a = "--all" then "-a" else a

def typeWidely (args : List String) : Activity Nat :=
  let options := args.takeWhile fun a => a.startsWith "-"
  Builtin.withLetters "type" "aftpP" "" (options.map typeWord ++ args.drop options.length) fun l => do
    let telling := l.found.foldl (fun t (c, _) =>
      if c == 'p' || c == 'P' then Telling.path else if c == 't' then Telling.kind else t) Telling.sentence
    let rules : TellingRules := ⟨telling, l.has 'a', l.has 'f', l.has 'P', false, false⟩
    Builtin.forEvery (fun name => do
      if ← tellWidely rules name then return 0
      if telling = .sentence then Builtin.complain "type" s!"{name}: not found"
      return 1) l.operands

/-- tell what names mean on behalf of `command`; one that means something is enough -/
def tellForCommand (isLong isUsual : Bool) (names : List String) : Activity Nat := do
  let rules : TellingRules :=
    ⟨if isLong then .sentence else .reusable, false, false, false, isUsual, isLong⟩
  let mut isAny := false
  for name in names do
    if ← tellWidely rules name then isAny := true
    else if isLong then Builtin.complain "command" s!"{name}: not found"
  return if isAny then 0 else 1

end PatternBuild.Shell.Interpreter

/-!
## Running programs by name

A shell looks a program up and waits for it, or becomes it.
-/

namespace PatternBuild.Shell.Interpreter

open Activity

/-- how a shell runs a program -/
inductive Manner where
  /-- it waits for the program and goes on -/
  | waiting
  /-- it becomes the program, since it has nothing else to do -/
  | leaving
  /-- it becomes the program as it is asked to -/
  | replaced
  deriving DecidableEq, Repr

/-- a process as deep in shells as the one around it, so that a shell in its place is as deep as it -/
def withLevelBelow (p : Process) : Process :=
  match ((p.bindings.get? "SHLVL").bind (·.value) |>.bind (·.text?)).bind String.toNat? with
  | some (n + 1) => p.bindExported "SHLVL" (toString n)
  | _ => p

/-- run a program by its words -/
def startProgram (run : Run) (manner : Manner) (isUsual : Bool) (words : List String) : Activity Nat := do
  let p ← own
  let inPlace := manner = .replaced
  let start := if inPlace then "exec: " else ""
  match words with
  | [] => return 0
  | name :: args =>
    let d ← disk
    let searched ← if !isUsual then searchedDirs
      else pure (if p.isExtended then usualDirs else defaultPath)
    let known? := if p.isExtended && !isUsual && !name.contains '/' then p.known? name else none
    let found := match known? with
      | some k => (locatePath d k.path).map fun found => (k.path, found)
      | none => locate d searched name
    match found with
    | .error f =>
      let hasSlash := name.contains '/' || known?.isSome
      let name := (known?.map (·.path)).getD name
      let isSearchedNowhere := p.isExtended && searched = "" && name ≠ ""
      if f = .forbidden then
        let f := if p.isExtended && d.isDir name then DiskFault.isDir else f
        complain s!"{start}{name}: {f.message}"
        return if name = "" then 127 else 126
      if !p.isExtended then
        complain (if name = "" && !inPlace then ": Permission denied" else s!"{start}{name}: not found")
        return 127
      if hasSlash || isSearchedNowhere then
        complain s!"{name}: {f.message}"
        return if f = .missing then 127 else 126
      complain ((if name.toList.any isHidden then behindDollar name else name) ++ ": command not found")
      return 127
    | .ok (path, found) =>
      modifyOwn fun p => { (if isUsual then p else p.knowing name (if searched = "" then name else path) 1) with
        lastArg := words.getLastD "" }
      let raised := if manner = .leaving && !p.isPiped then withLevelBelow p else p
      let environment := if p.isExtended then raised.exported ++ [("_", path)] else p.exported
      let called := match found with
        | .script _ _ => path
        | .program _ => name
      if !fitsArguments words environment then
        let shown := if p.isExtended then path else name
        complain s!"{start}{shown}: {DiskFault.tooManyArguments.message}"
        return 126
      if manner ≠ .waiting then return ← becomeProgram run environment found called args
      let child ← forked true
      let code ← asProcess { child with environment } (run (.program found called args))
      tellFall false child.number p.current
      noticeJobs
      return code

/-! ### in place of the shell -/

/-- refuse to become a program that is not there or cannot be run -/
def refuseReplacement (name searched : String) : Activity Nat := do
  let p ← own
  let d ← disk
  let isFile (path : String) : Bool := d.isPresent path && !d.isDir path
  let path? := if name.contains '/' || (searched = "" && name ≠ "") then some name
    else (searched.splitOn ":").map (inDir · name) |>.find? isFile
  match path? with
  | none =>
    if name ≠ "" && d.isDir name then
      complain s!"exec: {name}: cannot execute: {DiskFault.isDir.message}"
      return 126
    complain s!"exec: {name}: not found"
    return 127
  | some path =>
    let full := fromRoot p (if path.startsWith "./" then (path.drop 2).toString else path)
    let fault : DiskFault := match d.stat path with
      | .ok (_, .dir _ _) => .isDir
      | .ok _ => .forbidden
      | .error f => f
    complain s!"{full}: {fault.message}"
    if fault = .missing then return 127
    complain s!"exec: {full}: cannot execute: {fault.message}"
    return 126

/-- become a program of the language with extensions; the outcome is the code of one that cannot be run -/
def replaceWidely (run : Run) (l : Builtin.Letters) : Activity Nat := do
  match l.operands with
  | [] => return 0
  | name :: args =>
    let p ← own
    let searched ← searchedDirs
    match locate (← disk) searched name with
    | .error _ =>
      let code ← refuseReplacement name searched
      if p.isOn "execfail" && p.depth = 0 then return code
      modifyOwn fun p => { p with traps := [] }
      stop (.exit code)
    | .ok (path, found) =>
      let raised := if p.depth = 0 then withLevelBelow p else p
      let environment := if l.has 'c' then [] else raised.exported ++ [("_", path)]
      let full := fromRoot p (if path.startsWith "./" then (path.drop 2).toString else path)
      let usual := match found with
        | .script _ _ => full
        | .program _ => name
      let called := (if l.has 'l' then "-" else "") ++ (l.value? 'a').getD usual
      let found : Located := match found with
        | .script _ [] => .script full []
        | .script _ words => .script full words
        | found => found
      let code ← becomeProgram run environment found called args
      stop (.exit code)

/-- run a program in place of the shell -/
def replaceShell (run : Run) (args : List String) : Activity Nat := do
  if (← own).isExtended then
    Builtin.withLetters "exec" "cl" "a" args (replaceWidely run)
  else if args.isEmpty then return 0
  else
    let code ← startProgram run .replaced false args
    modifyOwn fun p => { p with traps := [] }
    stop (.exit code)

end PatternBuild.Shell.Interpreter

/-!
## Builtins that run commands

These builtins need the interpreter: they read commands from texts and files, or run commands by their
words.
-/

namespace PatternBuild.Shell.Interpreter

open Activity

/-- read commands from a file into the shell itself -/
def source (run : Run) (isTested : Bool) (path : String) (rest : List String) (cs : List Char) (found : String) :
    Activity Nat := do
  let p ← own
  let args := if p.isExtended && !rest.isEmpty then rest else p.args
  modifyOwn fun p => { p with
    args
    sources := p.sources + 1
    running := ⟨"source", true, found, p.line, p.args⟩ :: p.running }
  let leave : Activity Unit := modifyOwn fun q => { q with
    sources := p.sources
    running := p.running
    line := p.line
    args := if p.isExtended && !rest.isEmpty then p.args else q.args }
  try
    let code ← run (.text isTested path cs 1)
    leave
    return code
  catch h =>
    leave
    match h with
    | .return code => return code
    | h => throw h

/-- find a file and read commands from it -/
def sourceFile (run : Run) (isTested : Bool) (command path : String) (rest : List String) : Activity Nat := do
  let p ← own
  let d ← disk
  let isSearched := !p.isExtended || p.isOn "sourcepath"
  let searched ← searchedDirs
  let dirs := if isSearched then searched.splitOn ":" else []
  let isFile (c : String) : Bool := d.isFile c || (d.isPresent c && !d.isDir c) ||
    (Tool.descriptorPath? c).isSome
  let found? := if path.contains '/' then some path
    else ((dirs.map (inDir · path)).find? isFile).or (if p.isExtended then some path else none)
  match found? with
  | none => Builtin.refuseSpecial command s!"{path}: not found"
  | some found =>
    if d.isDir found then
      -- the plain language reads nothing there
      return ← if p.isExtended then Builtin.refuse command s!"{path}: is a directory"
        else source run isTested path rest [] found
    match ← Tool.contentOf found with
    | .ok cs => source run isTested path rest cs found
    | .error f =>
      if p.isExtended then
        complain s!"{path}: {f.message}"
        return 1
      let reason := if f = .missing then "No such file" else f.message
      Builtin.refuseSpecial command s!"cannot open {path}: {reason}"

/-- read commands from the file that arguments name -/
def sourceArgs (run : Run) (isTested : Bool) (command : String) (args : List String) : Activity Nat :=
  Builtin.withLetters command "" "" args fun l => do
    match l.operands with
    | path :: rest => sourceFile run isTested command path rest
    | [] =>
      if !(← own).isExtended then return 0
      Builtin.complain command "filename argument required"
      Builtin.misuseOf command

/-- run a builtin by its words -/
def runBuiltin (run : Run) (isTested : Bool) : List String → Activity Nat
  | [] => return 0
  | name :: args => do
    match builtinMeaning? (← own) name with
    | some (.special f) => f args
    | some (.regular f) => f args
    | some (.control _) => run (.words isTested true false (name :: args))
    | _ => Builtin.refuse "builtin" s!"{name}: not a shell builtin"

/-- the words that a list of words expands to -/
def expandList (run : Run) (text : String) : Activity (List String) := do
  let ifs := (← Expansion.separators).toList
  let cs := Completion.asArguments ifs (text.length + 1) text.toList
  match nextLine (.ofText (':' :: ' ' :: cs) 1 true) with
  | .ok (some (.simple _ _ _ words _, _)) =>
    let outer ← own
    modifyOwn fun p => p.withSwitch "noglob" true
    let found ← words.mapM (Expansion.fieldsOf (runPlain run))
    modifyOwn fun p => p.withSwitch "noglob" outer.options.noFileNames
    return found.flatten.drop 1
  | _ => return (Text.splitOn ifs.contains text.toList).filter (!·.isEmpty) |>.map String.ofList

/-- how the interpreter makes words of completions -/
def completionSource (run : Run) : CompletionSource where
  keywords := keywords true
  expand := expandList run
  call f word := do
    if ((← own).function? f).isNone then
      complain ("completion: function \x60" ++ f ++ "' not found")
      return []
    forget "COMPREPLY"
    discard (run (.words true false false [f, "compgen", word, ""]))
    return ((← valueOf? "COMPREPLY").map fun v => v.items.map (·.2)).getD []
  ask command word := do
    let script := command ++ " 'compgen' " ++ inWideQuotes word ++ " ''"
    let line := (← own).line
    let (_, cs) ← collect (inSubshell run (run (.text true "eval" script.toList line)))
    return ((Text.splitOn (· == '\n') cs).filter (!·.isEmpty)).map String.ofList

/-- run a builtin that runs commands -/
def runControl (run : Run) (isTested : Bool) (name : String) (args : List String) : Activity Nat := do
  let p ← own
  let evaluate (text : String) : Activity Nat := run (.text isTested "eval" text.toList p.line)
  match name with
  | "eval" =>
    let args := if args.head? = some "--" then args.drop 1 else args
    run (.text isTested "eval" (" ".intercalate args).toList (if p.isExtended then p.line else 1))
  | "exec" => replaceShell run args
  | "." => sourceArgs run isTested name args
  | "source" => sourceArgs run isTested name args
  | "type" => if p.isExtended then typeWidely args else describeAll true args
  | "compgen" => Builtin.compgen (completionSource run) args
  | "fc" => Builtin.fc evaluate args
  | "mapfile" => Builtin.mapfile name evaluate args
  | "readarray" => Builtin.mapfile name evaluate args
  | "builtin" => Builtin.withLetters "builtin" "" "" args fun l => runBuiltin run isTested l.operands
  | _ =>
    Builtin.withLetters "command" "pvV" "" args fun l => do
      let isLong := l.has 'V'
      if l.operands.isEmpty then return 0
      if l.has 'v' || isLong then
        -- the plain language looks at the first name only
        if p.isExtended then tellForCommand isLong (l.has 'p') l.operands
        else describeAll isLong (l.operands.take 1)
      else run (.words isTested true (l.has 'p') l.operands)

end PatternBuild.Shell.Interpreter
