import PatternBuild.Shell.Builtin.Output
import PatternBuild.Shell.Builtin.Variables
import PatternBuild.Shell.Program

/-!
# Builtins for settings and completions

They list and switch what a shell is told to do.
-/

/-!
## Builtins for options, settings and builtins

Here are the builtins that list what is on and switch it: options by letters and names, settings by
names, and builtins themselves, which a shell can do without.
-/

namespace PatternBuild.Shell

namespace Builtin

open Activity

/-! ### options -/

/-- an option or a setting as it is listed; the plain language leaves more room -/
def listedSwitch (isExtended : Bool) (name : String) (on : Bool) : String :=
  let state := if on then "on" else "off"
  let width := if isExtended then 15 else 16
  let gap := String.ofList (List.replicate (width - name.length) ' ')
  name ++ gap ++ (if isExtended then "\t" else "") ++ state ++ "\n"

/-- an option as a command that switches it -/
def switchCommand (name : String) (on : Bool) : String :=
  "set " ++ (if on then "-o " else "+o ") ++ name ++ "\n"

/-- the list of the options with their states, or as commands -/
def optionList (p : Process) (asCommands : Bool) : String :=
  let lines := p.optionTable.map fun (name, on) =>
    if asCommands then switchCommand name on else listedSwitch p.isExtended name on
  (if p.isExtended || asCommands then "" else "Current option settings\n") ++ String.join lines

/-- list the variables with their values, and the functions -/
def listVariables : Activity Nat := do
  let p ← own
  let lines := (← listedVariables).filterMap fun (name, v) =>
    match v.value with
    | some (.text text) =>
      some (name ++ "=" ++ (if p.isExtended then asNeeded text else inQuotes text) ++ "\n")
    | some value => if v.isBare then none else some (name ++ "=" ++ Expansion.itemsText value ++ "\n")
    | none => none
  let shown := if p.isExtended && !p.isOn "posix" then
      (p.functions.mergeSort fun f g => f.name ≤ g.name).map (·.shown ++ "\n")
    else []
  sayFor "set" (String.join (lines ++ shown))

def «set» : Builtin := fun args => do
  let p ← own
  if args.isEmpty then return ← listVariables
  if p.isExtended then
    if let some option := unknownOption? p args then
      Builtin.complain "set" s!"{option}: invalid option"
      return ← misuseOf "set"
  let r := readOptions (.start p false args)
  let fault? := r.fault
  let hasTerminal := !p.isExtended && r.process.isOn "monitor"
  if hasTerminal then Builtin.complain "set" "can't access tty; job control turned off"
  let process := if hasTerminal then r.process.withSwitch "monitor" false else r.process
  for asCommands in r.lists do discard (sayFor "set" (optionList process asCommands))
  match fault? with
  | some message =>
    if !p.isExtended then return ← refuseSpecial "set" message
    modifyOwn fun _ => process
    Builtin.complain "set" message
    return 2
  | none =>
    let process := if r.isDash then (process.withSwitch "xtrace" false).withSwitch "verbose" false
      else process
    modifyOwn fun _ =>
      if !r.rest.isEmpty || (r.isEnded && !r.isDash) then { process with args := r.rest } else process
    return 0

/-! ### settings -/

/-- a setting as it is shown -/
def shownSetting (asCommand : Bool) (name : String) (on : Bool) : String :=
  if asCommand then "shopt " ++ (if on then "-s " else "-u ") ++ name ++ "\n"
  else listedSwitch true name on

/-- list options or settings; with `isOn` only those that are on, or off -/
def listSwitches (l : Letters) (p : Process) (isOn : Option Bool) : Activity Nat := do
  if l.has 'q' then return 0
  let isMeant (name : String) : Bool := isOn.all (p.isOn name == ·)
  let shown := if l.has 'o' then
      p.switches.map (·.1) |>.filter isMeant |>.map fun name =>
        if l.has 'p' then switchCommand name (p.isOn name) else listedSwitch true name (p.isOn name)
    else (settingNames.filter isMeant).map fun name => shownSetting (l.has 'p') name (p.isOn name)
  sayFor "shopt" (String.join shown)

/-- tell whether an option or a setting is on -/
def tellSwitch (l : Letters) (name : String) : Activity Nat := do
  let p ← own
  let isKnown := if l.has 'o' then p.switches.any (·.1 = name) else settingNames.contains name
  if !isKnown then
    return ← refuse "shopt" (name ++ if l.has 'o' then ": invalid option name"
      else ": invalid shell option name")
  let on := p.isOn name
  if l.has 'o' then
    if !l.has 'q' then say (if l.has 'p' then switchCommand name on else listedSwitch true name on)
  else if l.has 'p' || !l.has 'q' then say (shownSetting (l.has 'p') name on)
  return if on then 0 else 1

/-- switch an option or a setting -/
def switchOne (l : Letters) (name : String) : Activity Nat := do
  let p ← own
  let on := l.has 's'
  if l.has 'o' then
    match p.switchNamed? name on with
    | some p =>
      modifyOwn fun _ => p
      return 0
    | none => return ← refuse "shopt" s!"{name}: invalid option name"
  if !settingNames.contains name then return ← refuse "shopt" s!"{name}: invalid shell option name"
  modifyOwn (·.switchSetting name on)
  return 0

def shopt : Builtin := fun args =>
  withLetters "shopt" "suqpo" "" args fun l => do
    if l.has 's' && l.has 'u' then
      return ← refuse "shopt" "cannot set and unset shell options simultaneously"
    let switches := l.has 's' || l.has 'u'
    if l.operands.isEmpty then listSwitches l (← own) (if switches then some (l.has 's') else none)
    else if switches then forEvery (switchOne l) l.operands
    else forEvery (tellSwitch l) l.operands

/-! ### builtins -/

/-- switch a builtin on or off -/
def enableOne (isOff : Bool) (name : String) : Activity Nat := do
  if !Manual.builtinNames.contains name then return ← refuse "enable" s!"{name}: not a shell builtin"
  modifyOwn fun p =>
    let others := p.disabled.filter (· ≠ name)
    { p with disabled := if isOff then name :: others else others }
  return 0

/-- refuse to take a builtin away -/
def refuseRemoval (name : String) : Activity Nat :=
  refuse "enable" (name ++ if Manual.builtinNames.contains name then ": not dynamically loaded"
    else ": not a shell builtin")

def enable : Builtin := fun args =>
  withLetters "enable" "adnps" "f" args fun l => do
    if l.operands.isEmpty || l.has 'p' then
      let p ← own
      let names := Manual.builtinNames.filter fun name =>
        let isOff := p.disabled.contains name
        (!l.has 's' || Manual.specialNames.contains name) && (l.has 'a' || isOff == l.has 'n')
      return ← sayFor "enable" (String.join (names.map fun name =>
        (if p.disabled.contains name then "enable -n " else "enable ") ++ name ++ "\n"))
    match l.value? 'f' with
    | some path =>
      refuse "enable" (s!"cannot open shared object {path}: {path}: cannot open shared object file: " ++
        "No such file or directory")
    | none =>
      if l.has 'd' then forEvery refuseRemoval l.operands else forEvery (enableOne (l.has 'n')) l.operands

end Builtin

end PatternBuild.Shell

/-!
## Builtins for completions

A completion says which words an argument of a command may become: words of certain kinds, names of
files, and what functions and commands give.  Completions are kept by the names of commands, and the
words of one can be listed.
-/

namespace PatternBuild.Shell

/-! ### kinds of words -/

namespace Completion

def blank : Completion := ⟨[], [], none, none, none, none, none, none, none⟩

/-- the kinds of words that have letters, in the order in which they are shown -/
def letterKinds : List (Char × String) :=
  [('a', "alias"), ('b', "builtin"), ('c', "command"), ('d', "directory"), ('e', "export"),
    ('f', "file"), ('g', "group"), ('j', "job"), ('k', "keyword"), ('s', "service"), ('u', "user"),
    ('v', "variable")]

/-- the other kinds of words -/
def otherKinds : List String :=
  ["arrayvar", "binding", "disabled", "enabled", "function", "helptopic", "hostname", "running",
    "setopt", "shopt", "signal", "stopped"]

/-- the kinds of words in the order in which their words are listed -/
def kindOrder : List String :=
  ["alias", "arrayvar", "binding", "builtin", "disabled", "enabled", "export", "function",
    "helptopic", "hostname", "job", "keyword", "running", "setopt", "shopt", "signal", "stopped",
    "variable", "command", "file", "user", "group", "service", "directory"]

/-- what can be said about completed words, in the order in which it is shown -/
def optionNames : List String :=
  ["bashdefault", "default", "dirnames", "filenames", "noquote", "nosort", "nospace", "plusdirs"]

/-- names for which a completion is kept that are no commands, with their letters -/
def specialTargets : List (Char × String) :=
  [('D', "_DefaultCmD_"), ('E', "_EmptycmD_"), ('I', "_InitialWorD_")]

/-- the name of a command as it is written behind its completion -/
def shownTarget (name : String) : String :=
  match specialTargets.find? (·.2 = name) with
  | some (c, _) => s!"-{c}"
  | none => if name = "" then "''" else name

/-- a completion as the command that makes it -/
def shown (c : Completion) (name : String) : String :=
  let quoted (letter : String) (value : Option String) : List String :=
    match value with
    | some text => [letter, inSingleQuotes text]
    | none => []
  let words := "complete" :: (optionNames.filter c.options.contains).flatMap (fun o => ["-o", o]) ++
    (letterKinds.filter fun (_, kind) => c.actions.contains kind).map (fun (x, _) => s!"-{x}") ++
    (otherKinds.filter c.actions.contains).flatMap (fun kind => ["-A", kind]) ++
    quoted "-G" c.pattern ++ quoted "-W" c.words ++ quoted "-P" c.front ++ quoted "-S" c.back ++
    quoted "-X" c.filter ++ quoted "-C" c.command ++
    (c.function.map fun f => ["-F", f]).getD [] ++ [shownTarget name]
  " ".intercalate words ++ "\n"

/-- the options of a completion as the command that sets them all -/
def shownOptions (c : Completion) (name : String) : String :=
  let words := optionNames.map fun o => (if c.options.contains o then "-o " else "+o ") ++ o
  "compopt " ++ " ".intercalate (words ++ [shownTarget name]) ++ "\n"

/-- a word list as arguments of a command: what separates words becomes a blank, and operators mean
nothing -/
def asArguments (ifs : List Char) : Nat → List Char → List Char
  | 0, _ => []
  | _ + 1, [] => []
  | n + 1, '\\' :: c :: cs => '\\' :: c :: asArguments ifs n cs
  | n + 1, c :: cs =>
    if c == '\'' || c == '"' || c == '\x60' then
      let inside := cs.takeWhile (· ≠ c)
      c :: inside ++ (cs.drop inside.length).take 1 ++ asArguments ifs n (cs.drop (inside.length + 1))
    else if c == '$' && (cs.head? == some '(' || cs.head? == some '\x7b') then
      let length := closing 0 cs
      c :: cs.take length ++ asArguments ifs n (cs.drop length)
    else if ifs.contains c then ' ' :: asArguments ifs n cs
    else if ";|&<>()#! \t\n".toList.contains c then '\\' :: c :: asArguments ifs n cs
    else c :: asArguments ifs n cs
where
  /-- how many characters there are up to the bracket that closes the first one -/
  closing (depth : Nat) : List Char → Nat
    | [] => 0
    | c :: cs =>
      let depth := if c == '(' || c == '\x7b' then depth + 1
        else if c == ')' || c == '\x7d' then depth - 1 else depth
      if depth = 0 then 1 else closing depth cs + 1

/-- whether a pattern leaves a word out; an ampersand stands for the word that is completed -/
def leavesOut (pattern word candidate : String) : Bool :=
  let cs := pattern.toList
  let isNegated := cs.head? == some '!'
  let cs := (if isNegated then cs.drop 1 else cs).flatMap fun c => if c == '&' then word.toList else [c]
  Wildcard.fits (Wildcard.read true (cs.map fun c => (c, false))) candidate.toList != isNegated

/-- the entries of the directory that a word names whose names continue it -/
def entries (d : Disk) (onlyDirs : Bool) (word : String) : List String :=
  let cs := word.toList
  let base := String.ofList (cs.reverse.takeWhile (· ≠ '/')).reverse
  let dir := String.ofList (cs.take (cs.length - base.length))
  let found : List String := match d.list (if dir = "" then "." else dir) with
    | .ok names => names.filter fun name => name.startsWith base
    | .error _ => []
  (found.map (dir ++ ·)).filter fun path => !onlyDirs || d.isDir path

/-- users and groups that are always there -/
def userNames : List String :=
  ["root", "daemon", "bin", "sys", "sync", "games", "man", "lp", "mail", "news", "uucp", "proxy",
    "www-data", "backup", "list", "irc", "_apt", "nobody"]

def groupNames : List String :=
  ["root", "daemon", "bin", "sys", "adm", "tty", "disk", "lp", "mail", "news", "uucp", "man", "proxy",
    "kmem", "dialout", "fax", "voice", "cdrom", "floppy", "tape", "sudo", "audio", "dip", "www-data",
    "backup", "operator", "list", "irc", "src", "shadow", "utmp", "video", "sasl", "plugdev", "staff",
    "games", "users", "nogroup"]

/-- the names of signals and of the other occasions for traps -/
def signalNames : List String :=
  "EXIT" :: signals.map (fun s => "SIG" ++ s.1) ++ ["DEBUG", "ERR", "RETURN"]

end Completion

/-- how the words of a completion are made that only the interpreter can make -/
structure CompletionSource where
  keywords : List String
  /-- the words that a list of words expands to -/
  expand : String → Activity (List String)
  /-- what a function gives for a word, and a command -/
  call : String → String → Activity (List String)
  ask : String → String → Activity (List String)

namespace Builtin

open Activity

/-! ### words -/

/-- the names of executable files in the directories that are searched -/
def commandFiles (word : String) : Activity (List String) := do
  let d ← disk
  if word.contains '/' then
    return (Completion.entries d false word).filter fun path => d.isDir path || (locatePath d path).isOk
  let dirs := ((← textOf? "PATH").getD "").splitOn ":"
  return dirs.flatMap fun dir =>
    match d.list (if dir = "" then "." else dir) with
    | .ok names => names.filter fun name => name.startsWith word && (locatePath d (inDir dir name)).isOk
    | .error _ => []

/-- the words of a kind that continue a word -/
def wordsOfKind (source : CompletionSource) (word kind : String) : Activity (List String) := do
  let p ← own
  let continuing (names : List String) : List String := names.filter (·.startsWith word)
  let sorted (names : List String) : List String := names.mergeSort (· ≤ ·)
  let bound (which : Variable → Bool) : List String :=
    (p.bindings.entries.filter fun (_, v) => which v).map (·.1)
  let aliases := sorted (p.aliases.map (·.1))
  let functions := sorted (p.functions.map (·.name))
  let isOff (name : String) : Bool := p.disabled.contains name
  match kind with
  | "alias" => return continuing aliases
  | "arrayvar" => return continuing (bound fun v => v.value.any (·.isArray) && !v.isBare)
  | "builtin" => return continuing Manual.builtinNames
  | "disabled" => return continuing (Manual.builtinNames.filter isOff)
  | "enabled" => return continuing (Manual.builtinNames.filter (!isOff ·))
  | "export" => return continuing (bound (·.isExported))
  | "function" => return continuing functions
  | "helptopic" => return continuing (Manual.topics.map (·.name))
  | "hostname" => return continuing ["localhost"]
  | "job" => return continuing (p.jobs.map (·.shown))
  | "running" => return continuing (p.jobs.map (·.shown))
  | "keyword" => return continuing source.keywords
  | "setopt" => return continuing (wideSwitches.map (·.1))
  | "shopt" => return continuing settingNames
  | "signal" => return continuing Completion.signalNames
  | "variable" =>
    return continuing (bound fun v => (v.value.isSome || v.isLive) && !v.isBare)
  | "command" =>
    return continuing (aliases ++ source.keywords ++ functions ++ Manual.builtinNames.filter (!isOff ·)) ++
      (← commandFiles word)
  | "file" => return Completion.entries (← disk) false word
  | "directory" => return Completion.entries (← disk) true word
  | "user" => return continuing Completion.userNames
  | "group" => return continuing Completion.groupNames
  | _ => return []

/-- the words of a completion that continue a word -/
def completedWords (source : CompletionSource) (c : Completion) (word : String) :
    Activity (List String) := do
  let kinds ← (Completion.kindOrder.filter c.actions.contains).mapM (wordsOfKind source word)
  let files ← match c.pattern with
    | some pattern => do
      let rules := Expansion.nameRules (← own)
      let gs : List Glyph := pattern.toList.map fun x => (x, false)
      let names := fileNames rules (← disk) gs
      pure (if names.isEmpty && (← disk).isThere pattern then [pattern] else names)
    | none => pure []
  let listed ← match c.words with
    | some text => do pure ((← source.expand text).filter (·.startsWith word))
    | none => pure []
  let given ← match c.function with
    | some f => source.call f word
    | none => pure []
  let told ← match c.command with
    | some command => source.ask command word
    | none => pure []
  let all := kinds.flatten ++ files ++ listed ++ given ++ told
  let kept := match c.filter with
    | some pattern => all.filter (!Completion.leavesOut pattern word ·)
    | none => all
  let framed := kept.map fun w => c.front.getD "" ++ w ++ c.back.getD ""
  let d ← disk
  let has (option : String) : Bool := c.options.contains option
  let more := if has "plusdirs" || (framed.isEmpty && has "dirnames") then Completion.entries d true word
    else []
  let found := framed ++ more
  return if found.isEmpty && (has "default" || has "bashdefault") then Completion.entries d false word
    else found

/-! ### reading completions -/

/-- letters of completions that take values -/
def completionValues : String := "oAGWFCXPS"

/-- the first name among letters that means nothing, as a complaint about it -/
def wrongCompletion? (l : Letters) : Option String :=
  l.found.findSome? fun (c, value) =>
    let name := value.getD ""
    let isKind := Completion.kindOrder.contains name
    if c == 'o' && !Completion.optionNames.contains name then some s!"{name}: invalid option name"
    else if c == 'A' && !isKind then some s!"{name}: invalid action name"
    else if c == 'F' && name.toList.any (" \t\n;|&()<>'\"\\\x60$".toList.contains ·) then
      some ("\x60" ++ name ++ "': not a valid identifier")
    else none

/-- the completion that letters say -/
def completionOf (l : Letters) : Completion :=
  l.found.foldl (fun c (letter, value) =>
    match letter with
    | 'o' => { c with options := c.options ++ value.toList }
    | 'A' => { c with actions := c.actions ++ value.toList }
    | 'G' => { c with pattern := value }
    | 'W' => { c with words := value }
    | 'F' => { c with function := value }
    | 'C' => { c with command := value }
    | 'X' => { c with filter := value }
    | 'P' => { c with front := value }
    | 'S' => { c with back := value }
    | letter => { c with actions := c.actions ++ (Completion.letterKinds.lookup letter).toList })
    Completion.blank

/-- list the words that a completion gives for a word -/
def compgen (source : CompletionSource) : Builtin := fun args =>
  withLetters "compgen" "abcdefgjksuv" completionValues args fun l => do
    if let some message := wrongCompletion? l then
      Builtin.complain "compgen" message
      return 2
    if args.isEmpty then return 0
    for letter in ['F', 'C'] do
      if l.has letter then
        Builtin.complain "compgen" s!"warning: -{letter} option may not work as you expect"
    let words ← completedWords source (completionOf l) (l.operands.headD "")
    if words.isEmpty then return 1
    sayFor "compgen" (String.join (words.map (· ++ "\n")))

/-! ### keeping completions -/

/-- the completions in the order in which they are listed -/
def listedCompletions (p : Process) : List (String × Completion) :=
  p.completions.reverse.mergeSort fun a b => nameNumber a.1 % 512 ≤ nameNumber b.1 % 512

/-- the completion of a command, or a complaint -/
def withCompletion (builtin name : String) (go : Completion → Activity Nat) : Activity Nat := do
  match (← own).completions.lookup name with
  | some c => go c
  | none => refuse builtin s!"{name}: no completion specification"

/-- keep a completion for a command -/
def keepCompletion (c : Completion) (name : String) : Activity Nat := do
  modifyOwn fun p => { p with completions := p.completions.filter (·.1 ≠ name) ++ [(name, c)] }
  return 0

/-- the names for which a completion is meant -/
def completionTargets (l : Letters) : List String :=
  match Completion.specialTargets.find? fun (letter, _) => l.has letter with
  | some (_, name) => [name]
  | none => l.operands

def complete : Builtin := fun args =>
  withLetters "complete" "abcdefgjksuvprDEI" completionValues args fun l => do
    if let some message := wrongCompletion? l then
      Builtin.complain "complete" message
      return 2
    let targets := completionTargets l
    let isGiven := l.found.any fun (letter, _) => !"prDEI".toList.contains letter
    if l.has 'p' || (l.operands.isEmpty && l.found.isEmpty) then
      if targets.isEmpty then
        return ← sayFor "complete" (String.join ((listedCompletions (← own)).map fun (name, c) => c.shown name))
      return ← forEvery (fun name => withCompletion "complete" name fun c => sayFor "complete" (c.shown name)) targets
    if l.has 'r' then
      if targets.isEmpty then
        modifyOwn fun p => { p with completions := [] }
        return 0
      return ← forEvery (fun name => withCompletion "complete" name fun _ => do
        modifyOwn fun p => { p with completions := p.completions.filter (·.1 ≠ name) }
        return 0) targets
    if targets.isEmpty && isGiven then return ← misuseOf "complete"
    forEvery (keepCompletion (completionOf l)) targets

/-- options of completions that are switched, each with whether it is on -/
def switchedOptions : List String → List (String × Bool) × List String
  | "-o" :: name :: rest =>
    let (found, rest) := switchedOptions rest
    ((name, true) :: found, rest)
  | "+o" :: name :: rest =>
    let (found, rest) := switchedOptions rest
    ((name, false) :: found, rest)
  | rest => ([], rest)

def compopt : Builtin := fun args => do
  let (switched, rest) := switchedOptions args
  if let some (name, _) := switched.find? fun (name, _) => !Completion.optionNames.contains name then
    Builtin.complain "compopt" s!"{name}: invalid option name"
    return 2
  if rest.head? = some "+o" then
    Builtin.complain "compopt" "+o: option requires an argument"
    return ← misuseOf "compopt"
  withLetters "compopt" "DEI" "o" rest fun l => do
    let targets := completionTargets l
    if targets.isEmpty then return ← refuse "compopt" "not currently executing completion function"
    forEvery (fun name => withCompletion "compopt" name fun c => do
      if switched.isEmpty then return ← sayFor "compopt" (c.shownOptions name)
      let options := switched.foldl (fun found (option, on) =>
        found.filter (· ≠ option) ++ if on then [option] else []) c.options
      modifyOwn fun p => { p with completions := p.completions.map fun (other, old) =>
        if other = name then (name, { c with options }) else (other, old) }
      return 0) targets

end Builtin

end PatternBuild.Shell
