import PatternBuild.Shell.Builtin.Output
import PatternBuild.Shell.Builtin.Variables
import PatternBuild.Shell.Program

/-!
# Builtins that change the shell itself

Here are the builtins that leave loops, functions or the shell, and those for arguments, traps, known
programs and aliases.
-/

namespace PatternBuild.Shell

namespace Builtin

open Activity

/-! ## leaving -/

/-- the number that an argument means in the language with extensions, where no other may follow; `refuse`
goes on if it is none -/
def withCount (command : String) (args : List String) (refuse : Activity Nat) (go : Int → Activity Nat) :
    Activity Nat := do
  match if args.head? = some "--" then args.drop 1 else args with
  | [] => go 1
  | a :: rest =>
    match Test.number a with
    | .error _ =>
      Builtin.complain command s!"{a}: numeric argument required"
      refuse
    | .ok n =>
      if !rest.isEmpty then
        Builtin.complain command "too many arguments"
        stop (.abandon 1)
      go n

/-- the exit code that an argument asks for; without one it is that of the last command -/
def codeFor (command : String) (args : List String) : Activity Nat := do
  let p ← own
  match if args.head? = some "--" then args.drop 1 else args with
  | [] => return p.status
  | a :: rest =>
    if p.isExtended then withCount command (a :: rest) (pure 2) fun n => pure (n % 256).toNat
    else
      match number? a with
      | some n => return n % 256
      | none => refuseSpecial command s!"Illegal number: {a}"

def exit : Builtin := fun args => do stop (.exit (← codeFor "exit" args))

def «return» : Builtin := fun args => do
  let p ← own
  if p.isExtended && p.running.isEmpty then
    Builtin.complain "return" "can only \x60return' from a function or sourced script"
    return 2
  stop (.return (← codeFor "return" args))

/-- leave loops of the plain language, or go on with their next turn -/
def leavePlainly (command : String) (goOn : Bool) : Builtin := fun args => do
  let p ← own
  let n? := match if args.head? = some "--" then args.drop 1 else args with
    | [] => some 1
    | a :: _ => number? a
  match n? with
  | none => refuseSpecial command ("Illegal number: " ++ args.headD "")
  | some 0 => refuseSpecial command ("Illegal number: " ++ args.headD "")
  | some n => if p.loops = 0 then return 0 else stop (.leave (min n p.loops) goOn 0)

/-- leave loops, or go on with their next turn -/
def leave (command : String) (goOn : Bool) : Builtin := fun args => do
  let p ← own
  if !p.isExtended then return ← leavePlainly command goOn args
  if p.loops = 0 then
    if !p.isOn "posix" then
      Builtin.complain command "only meaningful in a \x60for', \x60while', or \x60until' loop"
    return 0
  withCount command args (stop (.exit 128)) fun n => do
    if n ≤ 0 then
      Builtin.complain command s!"{args.headD command}: loop count out of range"
      stop (.leave p.loops false 1)
    stop (.leave (min n.toNat p.loops) goOn 0)

/-! ## arguments -/

/-- forget some of the first arguments of the script -/
def shift : Builtin := fun args => do
  let p ← own
  if p.isExtended then
    withCount "shift" args (pure 1) fun n => do
      let isAbove := p.args.length < n.toNat
      if n < 0 || (isAbove && p.settings.contains "shift_verbose") then
        let shown := match args with
          | [] => ""
          | a :: _ => a ++ ": "
        return ← refuse "shift" (shown ++ "shift count out of range")
      if isAbove then return 1
      modifyOwn fun p => { p with args := p.args.drop n.toNat }
      return 0
  else
    match args with
    | [] => if p.args.isEmpty then refuseSpecial "shift" "can't shift that many" else drop 1
    | a :: _ =>
      match number? a with
      | some n => if p.args.length < n then refuseSpecial "shift" "can't shift that many" else drop n
      | none => refuseSpecial "shift" s!"Illegal number: {a}"
where
  drop (n : Nat) : Activity Nat := do
    modifyOwn fun p => { p with args := p.args.drop n }
    return 0

/-! ## callers -/

/-- tell from where the running function or file was called; a number goes further out -/
def caller : Builtin := fun args => do
  let stack := (← own).callStack
  if stack.isEmpty then return 1
  withLetters "caller" "" "" args fun l => do
    match l.operands, stack with
    | _, [] => return 1
    | [], call :: outer =>
      let source := (outer.head?.map (·.source)).getD "NULL"
      sayFor "caller" s!"{call.line} {source}\n"
    | a :: _, stack =>
      match number? a with
      | none =>
        Builtin.complain "caller" s!"{a}: invalid number"
        misuseOf "caller"
      | some n =>
        match stack[n]?, stack[n + 1]? with
        | some call, some outer => sayFor "caller" s!"{call.line} {outer.name} {outer.source}\n"
        | _, _ => return 1

/-! ## signals -/

/-- the number by which traps are listed -/
def trapRank (name : String) : Nat :=
  match name with
  | "EXIT" => 0
  | "DEBUG" => 100
  | "ERR" => 101
  | "RETURN" => 102
  | name => (signals.lookup name).getD 200

/-- list traps, as commands that set them -/
def listTraps (names : List String) : Activity Nat := do
  let p ← own
  let found := (p.traps ++ p.oldTraps.filter fun (name, _) => (p.traps.lookup name).isNone).filter fun (name, _) => names.isEmpty || names.contains name
  for (name, text) in found.mergeSort fun a b => trapRank a.1 ≤ trapRank b.1 do
    let shown := if p.isExtended && (signals.lookup name).isSome then "SIG" ++ name else name
    let quoted := if p.isExtended then inWideQuotes text else inQuotes text
    say s!"trap -- {quoted} {shown}\n"
  return 0

/-- set traps, or take them away, up to the first name that is none -/
def setTraps (command : String) (action : Option String) : List String → Activity Nat
  | [] => return 0
  | text :: rest => do
    let p ← own
    match trapName? p.isExtended text with
    | some name =>
      modifyOwn fun p =>
        let others := p.traps.filter (·.1 ≠ name)
        { p with
          oldTraps := []
          traps := match action with
            | none => others
            | some action => others ++ [(name, action)] }
      setTraps command action rest
    | none =>
      if p.isExtended then
        Builtin.complain command s!"{text}: invalid signal specification"
        discard (setTraps command action rest)
      else tell s!"{command}: {text}: bad trap\n"
      return 1

def plainTrap : Builtin := fun args =>
  withLetters "trap" "" "" args fun l => do
    match l.operands with
    | [] => listTraps []
    | action :: names =>
      let isNumber := (numeral? 10 action.toList).any (· ≤ 64)
      if names.isEmpty || isNumber then setTraps "trap" none (action :: names)
      else setTraps "trap" (if action = "-" then none else some action) names

/-- list all signals with their numbers, five in a line -/
def listAllSignals : Activity Nat := do
  let rows := signals.zipIdx.map fun ((name, n), i) =>
    let number := if n < 10 then s!" {n}" else toString n
    s!"{number}) SIG{name}" ++ if i % 5 = 4 then "\n" else "\t"
  sayFor "kill" (String.join rows ++ "\n")

def wideTrap : Builtin := fun args =>
  withLetters "trap" "lp" "" args fun l => do
    if l.has 'l' then return ← listAllSignals
    match l.operands with
    | [] => listTraps []
    | action :: names =>
      if l.has 'p' then
        forEvery (fun text => do
          match trapName? true text with
          | some name => listTraps [name]
          | none => refuse "trap" s!"{text}: invalid signal specification") l.operands
      else if names.isEmpty then
        if (trapName? true action).isSome then setTraps "trap" none [action] else misuseOf "trap"
      else setTraps "trap" (if action = "-" then none else some action) names

def trap : Builtin := fun args => do
  if (← own).isExtended then wideTrap args else plainTrap args

/-! ## known programs -/

/-- show a program whose path is known -/
def showKnown (p : Process) (asCommand : Bool) (k : KnownProgram) : Activity Unit :=
  if !p.isExtended then say s!"{k.path}\n"
  else if asCommand then say s!"builtin hash -p {k.path} {k.name}\n"
  else
    let count := toString k.hits
    let gap := String.ofList (List.replicate (4 - count.length) ' ')
    say s!"{gap}{count}\t{k.path}\n"

/-- list the programs whose paths are known -/
def listKnown (asCommands : Bool) : Activity Nat := do
  let p ← own
  if p.isExtended && p.known.isEmpty then
    if !asCommands then say "hash: hash table empty\n"
    return 0
  if p.isExtended && !asCommands then say "hits\tcommand\n"
  let inOrder := if p.isExtended then p.known.mergeSort fun a b =>
      nameNumber a.name % 256 ≤ nameNumber b.name % 256
    else p.known.reverse.mergeSort fun a b => programBucket a.name ≤ programBucket b.name
  for k in inOrder do showKnown p asCommands k
  return 0
where
  /-- the bucket of a program in the plain language -/
  programBucket (name : String) : Nat :=
    let octets := name.toList.map Char.toNat
    octets.foldl (· + ·) (octets.headD 0 * 16) % 31

/-- tell the known paths of programs -/
def tellKnown (asCommand isOne : Bool) (name : String) : Activity Nat := do
  let p ← own
  match p.known? name with
  | none =>
    Builtin.complain "hash" s!"{name}: not found"
    return 1
  | some k =>
    modifyOwn (·.knowing name k.path 1)
    if asCommand then showKnown p true k
    else say (if isOne then s!"{k.path}\n" else s!"{name}\t{k.path}\n")
    return 0

/-- look a program up -/
def lookUpProgram (name : String) : Activity Nat := do
  let p ← own
  if name.contains '/' || (p.function? name).isSome then return 0
  if !p.isExtended && Manual.plainNames.contains name then return 0
  match pathsOf (← disk) ((← textOf? "PATH").getD "") name with
  | [] =>
    Builtin.complain "hash" s!"{name}: not found"
    return 1
  | path :: _ =>
    modifyOwn fun p => { p with known := ⟨name, path, 0⟩ :: p.known.filter (·.name ≠ name) }
    return 0

/-- list the programs whose paths are known, or look some up, or forget them all -/
def hash : Builtin := fun args => do
  let isExtended := (← own).isExtended
  withLetters "hash" (if isExtended then "rldt" else "r") (if isExtended then "p" else "") args fun l => do
    if isExtended && !(← own).isOn "hashall" then return ← refuse "hash" "hashing disabled"
    if l.has 'r' then
      modifyOwn fun p => { p with known := [] }
      if !isExtended then return 0
    if l.operands.isEmpty then
      if l.has 't' || l.has 'd' then
        let letter := if l.has 't' then "-t" else "-d"
        return ← refuse "hash" s!"{letter}: option requires an argument"
      return ← if l.has 'r' then return 0 else listKnown (l.has 'l')
    if l.has 't' then return ← forEvery (tellKnown (l.has 'l') (l.operands.length = 1)) l.operands
    if l.has 'd' then
      return ← forEvery (fun name => do
        if ((← own).known? name).isNone then return ← refuse "hash" s!"{name}: not found"
        modifyOwn fun p => { p with known := p.known.filter (·.name ≠ name) }
        return 0) l.operands
    match l.value? 'p' with
    | some path =>
      if (← disk).isDir path then return ← refuse "hash" s!"{path}: Is a directory"
      for name in l.operands do
        modifyOwn fun p => { p with known := ⟨name, path, 0⟩ :: p.known.filter (·.name ≠ name) }
      return 0
    | none => forEvery lookUpProgram l.operands

/-! ## aliases -/

/-- show an alias -/
def showAlias (name text : String) : Activity Unit := do
  if (← own).isExtended then say s!"alias {name}={inWideQuotes text}\n" else say s!"{name}={inQuotes text}\n"

/-- list all aliases -/
def listAliases : Activity Unit := do
  let p ← own
  let rank (name : String) : Nat := if p.isExtended then 0 else Process.plainBucket name
  let byName := if p.isExtended then p.aliases.mergeSort fun a b => !decide (b.1 < a.1)
    else p.aliases.reverse
  for (name, text) in byName.mergeSort fun a b => rank a.1 ≤ rank b.1 do showAlias name text

/-- whether a text can be the name of an alias -/
def isAliasName (name : String) : Bool :=
  name ≠ "" && name.toList.all fun c => !"/$\x60=\\\"' \t\n|&;()<>".toList.contains c

/-- make an alias, or show one -/
def treatAlias (a : String) : Activity Nat := do
  let isExtended := (← own).isExtended
  let d := plainlyDeclared a
  match d.value.filter fun _ => d.name ≠ "" with
  | some text =>
    if isExtended && !isAliasName d.name then
      return ← refuse "alias" ("\x60" ++ d.name ++ "': invalid alias name")
    modifyOwn fun p => { p with aliases := (d.name, text) :: p.aliases.filter (·.1 ≠ d.name) }
    return 0
  | none =>
    match (← own).aliases.lookup a with
    | some text =>
      showAlias a text
      return 0
    | none =>
      if isExtended then Builtin.complain "alias" s!"{a}: not found"
      else tell s!"alias: {a} not found\n"
      return 1

def «alias» : Builtin := fun args => do
  if !(← own).isExtended then
    if args.isEmpty then listAliases
    return ← forEvery treatAlias args
  withLetters "alias" "p" "" args fun l => do
    if l.has 'p' || l.operands.isEmpty then listAliases
    forEvery treatAlias l.operands

def unalias : Builtin := fun args =>
  withLetters "unalias" "a" "" args fun l => do
    let p ← own
    if l.has 'a' then
      modifyOwn fun p => { p with aliases := [] }
      return 0
    if p.isExtended && l.operands.isEmpty then return ← misuseOf "unalias"
    forEvery (fun name => do
      if ((← own).aliases.lookup name).isSome then
        modifyOwn fun p => { p with aliases := p.aliases.filter (·.1 ≠ name) }
        return 0
      if p.isExtended then Builtin.complain "unalias" s!"{name}: not found"
      else tell s!"unalias: {name} not found\n"
      return 1) l.operands

/-! ## reports -/

def times : Builtin := fun args =>
  withLetters "times" "" "" args fun _ => do
    let zero := if (← own).isExtended then "0m0.000s" else "0m0.000000s"
    sayFor "times" s!"{zero} {zero}\n{zero} {zero}\n"

end Builtin

end PatternBuild.Shell
