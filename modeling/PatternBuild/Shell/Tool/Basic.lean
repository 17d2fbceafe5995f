import PatternBuild.Shell.Program
import PatternBuild.Shell.Rendering

/-!
# Tools: programs that scripts use

A tool takes its arguments and does its work in the process that runs it.  Tools that run other
programs are given the means to do so.  `readOptions` splits arguments into options and operands.
-/

namespace PatternBuild.Shell

open Text

/-- how programs run others, by their words; a fault tells why there is no such program -/
structure Programs where
  /-- run one as a process of its own, up to its end; the outcome is its exit code -/
  run : List String → Activity (Except DiskFault Nat)
  /-- start one that goes on beside the running process; the outcome is its number -/
  start : List String → Activity (Except DiskFault Nat)

/-- what a program does with its arguments; the outcome is its exit code -/
abbrev Tool := Programs → List String → Activity Nat

namespace Tool

open Activity

/-! ## printing -/

/-- the number of octets that are kept back before they are written -/
def keptSize : Nat := 4096

/-- write what is kept back; false if something could not be written -/
def flush : Activity Bool := do
  let kept := (← own).kept
  if kept.pieces.isEmpty then return !kept.isLost
  modifyOwn fun p => { p with kept := .none }
  let isWritten ← write 1 kept.pieces.reverse.flatten
  if !isWritten || kept.isLost then
    modifyOwn fun p => { p with kept := { p.kept with isLost := true } }
    return false
  return true

/-- print octets; they are kept back until there are enough of them -/
def out (cs : List Char) : Activity Unit := do
  if cs.isEmpty then return
  modifyOwn fun p =>
    { p with kept := { p.kept with pieces := cs :: p.kept.pieces, size := p.kept.size + cs.length } }
  if keptSize ≤ (← own).kept.size then discard flush

/-- print a text -/
def say (text : String) : Activity Unit := Tool.out text.toList

/-! ## complaints -/

/-- what a tool calls itself, by its name: the word that it was called by -/
def calledName (program : String) : Activity String := do
  match (← own).tool with
  | some (name, called) => return if name = program then called else program
  | none => return program

/-- tell what went wrong, after what was printed so far -/
def complain (program message : String) : Activity Unit := do
  discard flush
  let called ← calledName program
  tell s!"{called}: {message}\n"

/-- tell what went wrong and end with a code -/
def refuse (program message : String) (code : Nat) : Activity Nat := do
  Tool.complain program message
  return code

/-- a tool that runs no others -/
def alone (f : List String → Activity Nat) : Tool := fun _ args => f args

/-- run a tool and write what it has kept back; the code is at least the given one if that fails -/
def run (program : String) (tool : Activity Nat) : Activity Nat := do
  let code ← tool
  if ← flush then return code
  let reason := match ← streamOf 1 with
    | some (_, .device _) => "No space left on device"
    | _ => "Bad file descriptor"
  Tool.complain program s!"write error: {reason}"
  return if program = "grep" || program = "sort" || program = "diff" || program = "awk" then 2 else 1

/-! ## names -/

/-- runs of characters that can be shown and of those that cannot -/
def runsOf : List Char → List (Bool × List Char)
  | [] => []
  | c :: cs =>
    match runsOf cs with
    | (isHiddenRun, run) :: rest =>
      if isHiddenRun == isHidden c then (isHiddenRun, c :: run) :: rest
      else (isHidden c, [c]) :: (isHiddenRun, run) :: rest
    | [] => [(isHidden c, [c])]

/-- characters that cannot be shown, as they are spelled behind a dollar sign -/
def spelledAll (cs : List Char) : List Char :=
  cs.flatMap fun c => if c == '\x1b' then "\\033".toList else spelled c

/-- a text in quotes that a shell can read back -/
def inAnyQuotes (text : String) : String :=
  let cs := text.toList
  let inSingle (cs : List Char) : List Char :=
    cs.flatMap fun c => if c == '\'' then "'\\''".toList else [c]
  if cs.any isHidden then
    -- quotes are closed in front of what cannot be shown and opened again behind it
    let parts := (runsOf cs).map fun (isHiddenRun, run) =>
      if isHiddenRun then "'$'".toList ++ spelledAll run ++ "'".toList
      else inSingle run
    let rec joined : List (Bool × List Char) → List Char
      | (true, a) :: (false, b) :: rest => a ++ '\'' :: b ++ joined rest
      | (_, a) :: rest => a ++ joined rest
      | [] => []
    let pieces := joined (((runsOf cs).map (·.1)).zip parts)
    let closes := !(cs.getLast?.any isHidden)
    String.ofList ('\'' :: pieces ++ if closes then ['\''] else [])
  else if cs.contains '\'' && !cs.any fun c => "\"$\\\x60!".toList.contains c then
    "\"" ++ text ++ "\""
  else "'" ++ String.ofList (inSingle cs) ++ "'"

/-- a name in quotes, as tools show it -/
def quoted (text : String) : String := inAnyQuotes text

/-- an argument in single quotes, in which a backslash marks quotes and what cannot be seen -/
def cited (text : String) : String :=
  let letters : List (Char × Char) := [('\x07', 'a'), ('\x08', 'b'), ('\x0c', 'f'), ('\n', 'n'), ('\r', 'r'),
    ('\t', 't'), ('\x0b', 'v'), ('\'', '\''), ('\\', '\\')]
  let spelled (c : Char) : List Char := match letters.lookup c with
    | some l => ['\\', l]
    | none =>
      if isHidden c then
        let digits := Nat.toDigits 8 c.toNat
        '\\' :: List.replicate (3 - digits.length) '0' ++ digits
      else [c]
  "'" ++ String.ofList (text.toList.flatMap spelled) ++ "'"

/-- characters that make tools show a name in quotes -/
def isQuotedChar (c : Char) : Bool :=
  isHidden c || " \t\n'\"\\|&;()<>!*[?^$\x60=".toList.contains c

/-- a name as tools show it, in quotes if it needs them -/
def shown (text : String) : String :=
  let cs := text.toList
  if cs.isEmpty || cs.any isQuotedChar || cs.head? == some '~' || cs.head? == some '#' ||
    text = "\x7b" || text = "\x7d" then inAnyQuotes text else text

/-! ## options -/

/-- the options and operands of a program -/
structure Given where
  options : List (String × String)
  operands : List String

namespace Given

def has (g : Given) (name : String) : Bool := g.options.any (·.1 = name)

/-- the last value of an option -/
def value? (g : Given) (name : String) : Option String :=
  (g.options.reverse.find? (·.1 = name)).map (·.2)

/-- the last value of an option, or nothing -/
def valueOf (g : Given) (name : String) : String := (g.value? name).getD ""

/-- the values of an option -/
def values (g : Given) (name : String) : List String :=
  (g.options.filter (·.1 = name)).map (·.2)

/-- which of some options is given last -/
def last? (g : Given) (names : List String) : Option String :=
  (g.options.reverse.find? fun (name, _) => names.contains name).map (·.1)

end Given

/-- whether a long option takes a value -/
inductive ValueRule where
  | never
  | always
  | maybe
  deriving DecidableEq, Repr

/-- the options that a program knows -/
structure OptionRules where
  /-- letters without a value, and those with one -/
  plain : String
  valued : String
  /-- long options, each with the name that it stands for -/
  long : List (String × String × ValueRule)
  /-- options may follow operands -/
  mixes : Bool

/-- rules for letters only, and for long options that stand for letters -/
def OptionRules.of (plain valued : String) (long : List (String × String × ValueRule)) :
    OptionRules := ⟨plain, valued, long, true⟩

/-- why options cannot be read -/
inductive OptionProblem where
  | unknownLetter (c : Char)
  | unknownName (text : String)
  /-- a start of several names -/
  | ambiguous (text : String) (names : List String)
  | lettersNeedValue (c : Char)
  | nameNeedsValue (name : String)
  | nameTakesNoValue (name : String)
  deriving DecidableEq, Repr

def OptionProblem.message : OptionProblem → String
  | .unknownLetter c => s!"invalid option -- '{c}'"
  | .unknownName text => s!"unrecognized option '{text}'"
  | .ambiguous text names =>
    s!"option '{text}' is ambiguous; possibilities:" ++ String.join (names.map fun n => s!" '--{n}'")
  | .lettersNeedValue c => s!"option requires an argument -- '{c}'"
  | .nameNeedsValue name => s!"option '--{name}' requires an argument"
  | .nameTakesNoValue name => s!"option '--{name}' doesn't allow an argument"

/-- the letters of one word; those with a value take the rest of the word or the next word -/
def readLetters (r : OptionRules) :
    List Char → List String → Except OptionProblem (List (String × String) × List String)
  | [], args => .ok ([], args)
  | c :: cs, args =>
    if r.valued.toList.contains c then
      if cs.isEmpty then
        match args with
        | v :: args => .ok ([(c.toString, v)], args)
        | [] => .error (.lettersNeedValue c)
      else .ok ([(c.toString, String.ofList cs)], args)
    else if r.plain.toList.contains c then do
      let (more, args) ← readLetters r cs args
      return ((c.toString, "") :: more, args)
    else .error (.unknownLetter c)

/-- the long option that a name, or the start of one, means; `written` is the whole argument -/
def longOption? (r : OptionRules) (name written : String) :
    Except OptionProblem (String × String × ValueRule) :=
  match r.long.find? (·.1 = name) with
  | some found => .ok found
  | none =>
    match r.long.filter fun (full, _) => full.startsWith name with
    | [] => .error (.unknownName written)
    | found :: others =>
      if others.all (·.2 = found.2) then .ok found
      else .error (.ambiguous written (found.1 :: others.map (·.1)))

/-- an argument of a program, as it stands among the others -/
inductive Argument where
  | option (name value : String)
  | operand (text : String)
  deriving DecidableEq, Repr

/-- read at most `n` words one after the other -/
def readArgumentsUpTo (r : OptionRules) : Nat → List String → Except OptionProblem (List Argument)
  | 0, args => .ok (args.map .operand)
  | n + 1, args =>
    match args with
    | [] => .ok []
    | "--" :: rest => .ok (rest.map .operand)
    | a :: rest =>
      match a.toList with
      | '-' :: '-' :: cs => do
        let name := cs.takeWhile (· ≠ '=')
        let value? := (cs.drop name.length).head?.map fun _ =>
          String.ofList (cs.drop (name.length + 1))
        let (full, stands, rule) ← longOption? r (String.ofList name) a
        let (value, rest) ← match rule, value?, rest with
          | .never, some _, _ => throw (.nameTakesNoValue full)
          | .never, none, rest => pure ("", rest)
          | .always, some v, rest => pure (v, rest)
          | .always, none, v :: rest => pure (v, rest)
          | .always, none, [] => throw (.nameNeedsValue full)
          | .maybe, v, rest => pure (v.getD "", rest)
        return .option stands value :: (← readArgumentsUpTo r n rest)
      | '-' :: c :: cs => do
        let (found, rest) ← readLetters r (c :: cs) rest
        return found.map (fun (name, value) => .option name value) ++ (← readArgumentsUpTo r n rest)
      | _ =>
        if r.mixes then return .operand a :: (← readArgumentsUpTo r n rest)
        else .ok (args.map .operand)

/-- read words one after the other -/
def readArguments (r : OptionRules) (args : List String) : Except OptionProblem (List Argument) :=
  readArgumentsUpTo r (args.length + 1) args

/-- words in which operands before a `--`, with some words behind them, give way to others -/
def OptionRules.replace (r : OptionRules) (f : String → List String → Option (String × List String)) :
    Nat → List String → List String
  | 0, args => args
  | n + 1, args =>
    match args with
    | [] => []
    | "--" :: _ => args
    | a :: rest =>
      if (a.startsWith "-") && a ≠ "-" then
        let rest := match readArgumentsUpTo r 1 args with
          | .ok found => args.drop (args.length - found.countP fun
            | .operand _ => true
            | .option _ _ => false)
          | .error _ => rest
        args.take (args.length - rest.length) ++ r.replace f n rest
      else
        match f a rest with
        | some (word, rest) => word :: r.replace f n rest
        | none => a :: r.replace f n rest

/-- the options and the operands among arguments -/
def Given.ofArguments (args : List Argument) : Given :=
  ⟨args.filterMap fun
    | .option name value => some (name, value)
    | .operand _ => none,
  args.filterMap fun
    | .option _ _ => none
    | .operand text => some text⟩

/-- split words into options and operands -/
def readOptions (r : OptionRules) (args : List String) : Except OptionProblem Given :=
  (readArguments r args).map .ofArguments

/-- the hint after a complaint about options -/
def tryHelp (program : String) : Activity Unit := do
  let called ← calledName program
  tell s!"Try '{called} --help' for more information.\n"

/-- complain about operands -/
def misuse (program message : String) (code : Nat) : Activity Nat := do
  Tool.complain program message
  tryHelp program
  return code

/-- the first of some words, or nothing -/
def firstOf (words : List String) : String := words.headD ""

/-- the complaint about an operand too many -/
def extraOperand (program text : String) (code : Nat) : Activity Nat :=
  misuse program s!"extra operand {cited text}" code

/-- the one of some choices that a text means, by any of its spellings or by how only it starts -/
def choice? (choices : List (List String)) (text : String) : Option String :=
  match choices.find? (·.contains text) with
  | some spellings => spellings.head?
  | none =>
    match choices.filter fun spellings => spellings.any (·.startsWith text) with
    | [spellings] => spellings.head?
    | _ => none

/-- the value of an option, of which there are only some, must be one of them -/
def withChoice (program option : String) (choices : List (List String)) (code : Nat) (text : String)
    (body : String → Activity Nat) : Activity Nat := do
  match choice? choices text with
  | some found => body found
  | none =>
    let isAmbiguous := choices.any fun spellings => spellings.any (·.startsWith text)
    let kind := if isAmbiguous then "ambiguous" else "invalid"
    Tool.complain program s!"{kind} argument {cited text} for {quoted option}"
    tell "Valid arguments are:\n"
    for spellings in choices do
      tell ("  - " ++ ", ".intercalate (spellings.map quoted) ++ "\n")
    tryHelp program
    return code

/-- read the options of a program and go on with them -/
def withOptions (program : String) (r : OptionRules) (code : Nat) (args : List String)
    (body : Given → Activity Nat) : Activity Nat := do
  match readOptions r args with
  | .ok g => body g
  | .error p =>
    Tool.complain program p.message
    tryHelp program
    return code

/-! ## files -/

/-- the descriptor that a path of a device means -/
def descriptorPath? (path : String) : Option Nat :=
  match path with
  | "/dev/stdin" => some 0
  | "/dev/stdout" => some 1
  | "/dev/stderr" => some 2
  | path =>
    let start := "/dev/fd/".toList
    let cs := path.toList
    if start.isPrefixOf cs then (String.ofList (cs.drop start.length)).toNat? else none

/-- a free descriptor -/
def freeDescriptor : Activity Nat := do
  let p ← own
  return ((List.range 256).find? fun n => 2 < n && !p.descriptors.contains n).getD 256

/-- lead a free descriptor to a file that is read -/
def openToRead (path : String) : Activity (Except DiskFault Nat) := do
  match descriptorPath? path with
  | some fd => return if (← streamOf fd).isSome then .ok fd else .error .missing
  | none =>
    let d ← disk
    match d.stat path with
    | .error f => return .error f
    | .ok (l, node) =>
      if !d.allows l Disk.reading then return .error .forbidden
      let fd ← freeDescriptor
      match node with
      | .fifo pipe =>
        let host := (← own).host
        modifyMachine fun m => m.addReader host pipe
        pause (.opened pipe true)
        setDescriptor fd (← addStream (.reader pipe))
      | .file n => setDescriptor fd (← addStream (.file n 0 false))
      | .device name => setDescriptor fd (← addStream (.device name))
      | _ => setDescriptor fd (← addStream (.directory (Disk.pathOf l)))
      return .ok fd

/-- lead a free descriptor to a file that is written, from its start or at its end; a file that is
not there is made -/
def openToWrite (path : String) (isAppended : Bool) : Activity (Except DiskFault Nat) := do
  match descriptorPath? path with
  | some fd => return if (← streamOf fd).isSome then .ok fd else .error .missing
  | none =>
    let p ← own
    match (← disk).create (0o666 - (0o666 &&& p.mask)) path with
    | .error f => return .error f
    | .ok (d, node) =>
      setDisk d
      let fd ← freeDescriptor
      match node with
      | .fifo pipe =>
        modifyMachine fun m => m.addWriter p.host pipe
        pause (.opened pipe false)
        setDescriptor fd (← addStream (.writer pipe))
      | .file n =>
        if !isAppended then setDisk ((← machine).disk.setContent n [])
        setDescriptor fd (← addStream (.file n 0 isAppended))
      | .device name => setDescriptor fd (← addStream (.device name))
      | _ => pure ()
      return .ok fd

/-- close a descriptor, unless it is one of the usual ones -/
def close (fd : Nat) : Activity Unit := do
  if 2 < fd then
    let p ← own
    setDescriptors (p.descriptors.erase fd)

/-- the descriptor of an operand, which is the standard input for `-` -/
def openOperand (path : String) : Activity (Except DiskFault Nat) :=
  if path = "-" then return .ok 0 else openToRead path

/-- the octets of an operand, or of the standard input for `-` -/
def contentOf (path : String) : Activity (Except DiskFault (List Char)) := do
  match ← openOperand path with
  | .error f => return .error f
  | .ok fd =>
    let cs ← readAll fd
    close fd
    return cs

/-- what the operands hold, or the standard input if there are none; operands that cannot be read are
told, and make the code 1 -/
def contents (program : String) (operands : List String) :
    Activity (List (String × List Char) × Nat) := do
  let operands := if operands.isEmpty then ["-"] else operands
  let mut found := []
  let mut code := 0
  for path in operands do
    match ← contentOf path with
    | .ok cs => found := (path, cs) :: found
    | .error f =>
      Tool.complain program s!"{shown path}: {f.message}"
      code := 1
  return (found.reverse, code)

/-- do something with every operand that can be opened, or with the standard input; faults are told
by `report` and make the code 1 -/
def forOperands (operands : List String) (report : String → DiskFault → Activity Unit)
    (f : String → Nat → Activity (Except DiskFault Unit)) : Activity Nat := do
  let mut code := 0
  for path in if operands.isEmpty then ["-"] else operands do
    match ← openOperand path with
    | .error fault =>
      report path fault
      code := 1
    | .ok fd =>
      match ← f path fd with
      | .ok _ => pure ()
      | .error fault =>
        report path fault
        code := 1
      close fd
  return code

/-! ## lines -/

/-- the parts of a text that a character ends, without it, and whether it ends the last one -/
def partsOf (mark : Char) (cs : List Char) : List (List Char) × Bool :=
  if cs.isEmpty then ([], true)
  else
    let (parts, last) := cs.foldr (fun c (parts, current) =>
      if c == mark then (current :: parts, []) else (parts, c :: current)) ([], [])
    -- the first part is still open when everything has been seen
    let all := last :: parts
    if cs.getLast? == some mark then (all.dropLast, true) else (all, false)

/-- the lines of a text, without their line feeds -/
def linesOf (cs : List Char) : List (List Char) := (partsOf '\n' cs).1

/-- lines, each with a line feed -/
def unlines (lines : List (List Char)) : List Char := (lines.map (· ++ ['\n'])).flatten

/-- read what comes next, of a pipe at most `size` octets -/
def readBlock (fd size : Nat) : Activity (Except DiskFault (List Char)) := do
  match ← readSome fd with
  | .error fault => return .error fault
  | .ok cs =>
    match ← streamOf fd with
    | some (_, .reader _) =>
      let rest := cs.drop size
      if !rest.isEmpty then putBack fd rest
      return .ok (if rest.isEmpty then cs else cs.take size)
    | _ => return .ok cs

/-- the part in front of a character, and what follows that, if it is there -/
def splitAt? (mark : Char) (cs : List Char) : List Char × Option (List Char) :=
  let rec go : List Char → List Char → List Char × Option (List Char)
    | [], seen => (seen.reverse, none)
    | c :: cs, seen => if c == mark then (seen.reverse, some cs) else go cs (c :: seen)
  go cs []

/-- the size of the blocks in which programs read pipes -/
def blockSize : Nat := 4096

/-- go through what a descriptor gives, part by part, while `f` asks for more; every part comes
without the character that ends it, and with whether there was one.  What is left of a file can be
read by others then, what is left of a block of a pipe cannot. -/
def forPartsUpTo {σ : Type} (fd : Nat) (mark : Char) (size : Nat)
    (f : σ → List Char → Bool → Activity (σ × Bool)) :
    Nat → List Char → σ → Activity (Except DiskFault σ)
  | 0, _, state => return .ok state
  | n + 1, left, state => do
    match left with
    | [] =>
      match ← readBlock fd size with
      | .error fault => return .error fault
      | .ok [] => return .ok state
      | .ok cs => forPartsUpTo fd mark size f n cs state
    | left =>
      match splitAt? mark left with
      | (part, some rest) =>
        let (state, goesOn) ← f state part true
        if goesOn then forPartsUpTo fd mark size f n rest state
        else
          if !rest.isEmpty then seekBack fd rest.length
          return .ok state
      | (part, none) =>
        match ← readBlock fd size with
        | .error fault => return .error fault
        | .ok [] =>
          let (state, _) ← f state part false
          return .ok state
        | .ok cs => forPartsUpTo fd mark size f n (part ++ cs) state

/-- go through the lines of a descriptor while `f` asks for more -/
def forLines {σ : Type} (fd : Nat) (state : σ) (f : σ → List Char → Bool → Activity (σ × Bool)) :
    Activity (Except DiskFault σ) :=
  forPartsUpTo fd '\n' blockSize f endless [] state

end Tool

end PatternBuild.Shell
