import PatternBuild.Shell.Decimal
import PatternBuild.Shell.Tool.Quantity

/-!
# Running: tools that run other programs

The words of a program stand behind the options of the tool.  A program that cannot be run makes the
code 127 if it is not there, and 126 otherwise.
-/

namespace PatternBuild.Shell.Tool

open Activity

/-! ## running -/

/-- run a program for a tool, which tells if there is none -/
def runFor (programs : Programs) (words : List String) (report : String → DiskFault → Activity Unit) :
    Activity Nat := do
  discard flush
  match ← programs.run words with
  | .ok code => return code
  | .error f =>
    report (words.headD "") f
    return if f = .missing then 127 else 126

/-- tell that a program cannot be run -/
def failedToRun (tool : String) (name : String) (f : DiskFault) : Activity Unit :=
  Tool.complain tool s!"failed to run command {quoted name}: {f.message}"

/-! ## durations -/

/-- the nanoseconds of a duration, a letter being its unit -/
def nanoseconds? (text : String) : Option Nat := do
  let (x, rest) ← Floating.read? 64 text.toList
  let unit ← match rest with
    | [] => some 1
    | ['s'] => some 1
    | ['m'] => some 60
    | ['h'] => some 3600
    | ['d'] => some 86400
    | _ => none
  match x with
  | .finite false _ _ =>
    let f := x.fraction
    return f.num * unit * 1000000000 / f.den
  | .infinite false => return Nat.pow 10 20
  | _ => none

def sleep (args : List String) : Activity Nat :=
  withOptions "sleep" (.of "" "" []) 1 args fun g => do
  if g.operands.isEmpty then return ← misuse "sleep" "missing operand" 1
  match g.operands.find? fun a => (nanoseconds? a).isNone with
  | some bad => misuse "sleep" s!"invalid time interval {cited bad}" 1
  | none =>
    Activity.sleep ((g.operands.filterMap nanoseconds?).foldl (· + ·) 0)
    return 0

/-! ## timeout -/

/-- send a signal to a program that is late, and to the processes of its group; nobody survives the
one that cannot be refused -/
def sendLate (isForeground isVerbose : Bool) (name : String) (child signal : Nat) : Activity Unit := do
  if isVerbose then
    Tool.complain "timeout" ("sending signal " ++ (signalName? signal).getD (toString signal) ++
      " to command " ++ quoted name)
  if isForeground then modifyMachine fun m => { m with signals := m.signals ++ [(child, signal)] }
  else
    modifyMachine fun m => { m with groupSignals := m.groupSignals ++ [(child, signal)] }
    if signal = killSignal then stop (.killed killSignal none)

def timeout (programs : Programs) (args : List String) : Activity Nat :=
  withOptions "timeout" { OptionRules.of "v" "ks" [("kill-after", "k", .always),
    ("signal", "s", .always), ("preserve-status", "preserve", .never), ("foreground", "foreground", .never),
    ("verbose", "v", .never)] with mixes := false } 125 args fun g => do
  match g.operands.head?, g.operands.drop 1 with
  | none, _ => do
    tryHelp "timeout"
    return 125
  | _, [] => do
    tryHelp "timeout"
    return 125
  | some duration, words =>
    match nanoseconds? duration, signal? true ((g.value? "s").getD "TERM") with
    | none, _ => misuse "timeout" s!"invalid time interval {cited duration}" 125
    | _, none => misuse "timeout" (cited (g.valueOf "s") ++ ": invalid signal") 125
    | some limit, some signal =>
      discard flush
      match ← programs.start words with
      | .error f =>
        failedToRun "timeout" (words.headD "") f
        return if f = .missing then 127 else 126
      | .ok child =>
        let now := (← machine).disk.now
        let itself := (← own).number
        pause (if limit = 0 then .ended [child] false itself else .endedBy child (now + limit))
        match (← machine).ended.lookup child with
        | some code => return code
        | none =>
          let send := sendLate (g.has "foreground") (g.has "v") (words.headD "") child
          send signal
          match (g.value? "k").bind nanoseconds? with
          | some more =>
            pause (.endedBy child ((← machine).disk.now + more))
            if ((← machine).ended.lookup child).isNone then
              send killSignal
          | none => pure ()
          pause (.ended [child] false (← own).number)
          let code := ((← machine).ended.lookup child).getD 0
          return if g.has "preserve" || code = 128 + killSignal then code else 124

/-! ## env -/

/-- print variables -/
def printVariables (ending : String) : Activity Unit := do
  for (name, value) in (← own).environment do Tool.say s!"{name}={value}{ending}"

/-- a list of variables with one of them set -/
def withVariable (name value : String) (environment : List (String × String)) :
    List (String × String) :=
  if environment.any (·.1 = name) then
    environment.map fun (n, v) => if n = name then (n, value) else (n, v)
  else environment ++ [(name, value)]

/-- what a backslash and a letter stand for where `env` splits a text -/
def splitEscape? (isInside : Bool) (c : Char) : Option Char :=
  match c with
  | 'f' => some '\x0c'
  | 'n' => some '\n'
  | 'r' => some '\r'
  | 't' => some '\t'
  | 'v' => some '\x0b'
  | '_' => if isInside then some ' ' else none
  | c => if "#$\\\"'".toList.contains c then some c else none

/-- the words of a text that `env -S` splits, with the values of variables in braces; `quote` is the
quote that is open, and `word` what there is of a word, reversed -/
def splitWords (value : String → String) :
    Nat → Option Char → Option (List Char) → List Char → Except String (List String)
  | 0, _, _, _ => .ok []
  | n + 1, quote, word, cs => do
    let done : List String := (word.map fun w => String.ofList w.reverse).toList
    let add (more : List Char) : Option (List Char) := some (more.reverse ++ word.getD [])
    match quote, cs with
    | some _, [] => throw "no terminating quote in -S string"
    | none, [] => return done
    | some '\'', '\\' :: c :: rest =>
      if c == '\\' || c == '\'' then splitWords value n quote (add [c]) rest
      else splitWords value n quote (add ['\\', c]) rest
    | some '\'', c :: rest =>
      if c == '\'' then splitWords value n none (add []) rest else splitWords value n quote (add [c]) rest
    | _, ['\\'] =>
      throw "invalid backslash at end of string in -S"
    | none, '\\' :: '_' :: rest => do return done ++ (← splitWords value n none none rest)
    | none, '\\' :: 'c' :: _ => return done
    | some _, '\\' :: 'c' :: _ => throw "'\\c' must not appear in double-quoted -S string"
    | quote, '\\' :: c :: rest =>
      match splitEscape? quote.isSome c with
      | some d => splitWords value n quote (add [d]) rest
      | none => throw s!"invalid sequence '\\{c}' in -S"
    | quote, '$' :: '{' :: rest =>
      let name := rest.takeWhile (· ≠ '}')
      if name.length = rest.length then
        throw ("only $\x7bVARNAME\x7d expansion is supported, error at: $\x7b" ++ String.ofList rest)
      splitWords value n quote (add (value (String.ofList name)).toList) (rest.drop (name.length + 1))
    | _, '$' :: rest =>
      throw ("only $\x7bVARNAME\x7d expansion is supported, error at: $" ++ String.ofList rest)
    | some q, c :: rest =>
      if c == q then splitWords value n none (add []) rest else splitWords value n quote (add [c]) rest
    | none, c :: rest =>
      if c == '\'' || c == '"' then splitWords value n (some c) (add []) rest
      else if c == ' ' || ('\t' ≤ c && c ≤ '\r') then do
        return done ++ (← splitWords value n none none rest)
      else if c == '#' && word.isNone then return done
      else splitWords value n none (add [c]) rest

/-- arguments with the words of the texts that `-S` gives -/
def splitArgs (value : String → String) : Nat → List String → Except String (List String)
  | 0, args => .ok args
  | n + 1, args =>
    let split (text : String) (rest : List String) : Except String (List String) := do
      let words ← splitWords value (text.length + 1) none none text.toList
      splitArgs value n (words ++ rest)
    match args with
    | "-S" :: text :: rest => split text rest
    | "--split-string" :: text :: rest => split text rest
    | "-u" :: name :: rest => do return "-u" :: name :: (← splitArgs value n rest)
    | "-C" :: dir :: rest => do return "-C" :: dir :: (← splitArgs value n rest)
    | a :: rest =>
      let long := "--split-string=".toList
      if long.isPrefixOf a.toList then split (String.ofList (a.toList.drop long.length)) rest
      else
        match a.toList with
        | '-' :: c :: cs =>
          let plain := (c :: cs).takeWhile fun c => "i0v".toList.contains c
          match (c :: cs).drop plain.length with
          | 'S' :: text =>
            let flags := if plain.isEmpty then [] else [String.ofList ('-' :: plain)]
            if text.isEmpty then
              match rest with
              | t :: rest => do return flags ++ (← split t rest)
              | [] => .ok args
            else do return flags ++ (← split (String.ofList text) rest)
          | _ => if a = "--" then .ok args else do return a :: (← splitArgs value n rest)
        | _ => .ok args
    | [] => .ok []

def env (programs : Programs) (args : List String) : Activity Nat := do
  let environment := (← own).environment
  match splitArgs (fun name => (environment.lookup name).getD "") (args.length + 100) args with
  | .error message => refuse "env" message 125
  | .ok args =>
  withOptions "env" { OptionRules.of "i0v" "uCS" [("ignore-environment", "i", .never),
    ("null", "0", .never), ("unset", "u", .always), ("chdir", "C", .always), ("debug", "v", .never),
    ("split-string", "S", .always)] with mixes := false } 125 args fun g => do
  let (clears, operands) := match g.operands with
    | "-" :: rest => (true, rest)
    | operands => (g.has "i", operands)
  let assigns := operands.takeWhile (·.contains '=')
  let words := operands.drop assigns.length
  modifyOwn fun p =>
    let start := if clears then [] else p.environment.filter fun (name, _) =>
      !(g.values "u").contains name
    let environment := assigns.foldl (fun found a =>
      let name := String.ofList (a.toList.takeWhile (· ≠ '='))
      withVariable name (String.ofList (a.toList.drop (name.length + 1))) found) start
    { p with environment }
  match g.value? "C" with
  | some dir =>
    match (← disk).stat dir with
    | .ok (l, .dir _ _) => modifyOwn fun p => { p with cwd := l, pwd := Disk.pathOf l }
    | .ok _ => return ← refuse "env" s!"cannot change directory to {quoted dir}: Not a directory" 125
    | .error f => return ← refuse "env" s!"cannot change directory to {quoted dir}: {f.message}" 125
  | none => pure ()
  if words.isEmpty then
    printVariables (if g.has "0" then "\x00" else "\n")
    return 0
  if g.has "v" then
    discard flush
    tell s!"executing: {firstOf words}\n"
    for (word, k) in words.zipIdx do tell s!"   arg[{k}]= {quoted word}\n"
  runFor programs words fun name f => Tool.complain "env" s!"{quoted name}: {f.message}"

def printenv (args : List String) : Activity Nat :=
  withOptions "printenv" (.of "0" "" [("null", "0", .never)]) 2 args fun g => do
  let ending := if g.has "0" then "\x00" else "\n"
  if g.operands.isEmpty then
    printVariables ending
    return 0
  let mut code := 0
  for name in g.operands do
    match (← own).environment.lookup name with
    | some value => Tool.say (value ++ ending)
    | none => code := 1
  return code

/-! ## other ways of running -/

/-- a tool that runs a program under circumstances that make no difference here -/
def runPlainly (tool plain valued : String) (long : List (String × String × ValueRule))
    (programs : Programs) (args : List String) : Activity Nat :=
  withOptions tool { OptionRules.of plain valued long with mixes := false } 125 args fun g => do
  match g.operands with
  | [] =>
    if tool = "nice" then
      Tool.say "0\n"
      return 0
    misuse tool "missing operand" 125
  | words =>
    runFor programs words fun name f =>
      if tool = "nice" then Tool.complain tool s!"{quoted name}: {f.message}"
      else failedToRun tool name f

def nohup : Programs → List String → Activity Nat := runPlainly "nohup" "" "" []

def nice (programs : Programs) (args : List String) : Activity Nat :=
  -- a number may stand for the option
  let args := match args with
    | a :: rest => match a.toList with
      | '-' :: c :: cs => if c.isDigit || (c == '-' && cs.head?.any Char.isDigit) then
          "-n" :: String.ofList (c :: cs) :: rest else a :: rest
      | _ => a :: rest
    | [] => []
  runPlainly "nice" "" "n" [("adjustment", "n", .always)] programs args

def setsid : Programs → List String → Activity Nat := runPlainly "setsid" "cfw" "" []

def stdbuf : Programs → List String → Activity Nat :=
  runPlainly "stdbuf" "" "ioe" [("input", "i", .always), ("output", "o", .always),
    ("error", "e", .always)]

/-! ## which -/

def which (args : List String) : Activity Nat := do
  let all := args.head? = some "-a"
  let names := if all || args.head? = some "-s" then args.drop 1 else args
  let d ← disk
  let searched := ((← own).environment.lookup "PATH").getD ""
  let mut code := if names.isEmpty then 1 else 0
  for name in names do
    let found := pathsOf d searched name
    if found.isEmpty then code := 1
    for path in if all then found else found.take 1 do Tool.say (path ++ "\n")
  return code

/-! ## xargs -/

/-- why the input of `xargs` cannot be read -/
inductive SplitProblem where
  | openSingle
  | openDouble
  deriving DecidableEq, Repr

def SplitProblem.message (p : SplitProblem) : String :=
  let kind := match p with
    | .openSingle => "single"
    | .openDouble => "double"
  s!"unmatched {kind} quote; by default quotes are special to xargs unless you use the -0 option"

/-- the problem of a quote that is not closed -/
def SplitProblem.ofQuote (q : Char) : SplitProblem := if q == '"' then .openDouble else .openSingle

/-- an item of the input of `xargs`, and whether a line ends behind it -/
abbrev InputItem := String × Bool

/-- where the reader of items stands -/
structure SplitState where
  items : List InputItem
  current : List Char
  hasAny : Bool
  quote : Option Char
  isEscaped : Bool
  /-- whether the last character in front was a blank -/
  afterBlank : Bool
  /-- why the rest is not read -/
  problem : Option SplitProblem

/-- note the item that is open -/
def SplitState.close (s : SplitState) (endsLine : Bool) : SplitState :=
  if s.hasAny then
    { s with items := (String.ofList s.current.reverse, endsLine) :: s.items
             current := [], hasAny := false }
  else if endsLine && !s.afterBlank then
    match s.items with
    | (item, _) :: rest => { s with items := (item, true) :: rest }
    | [] => s
  else s

/-- split a text at blanks, except those between quotes or behind a backslash; with `byLines` only
line feeds divide, and blanks in front are left out -/
def splitItems (byLines : Bool) (cs : List Char) : List InputItem × Option SplitProblem :=
  let s := cs.foldl (fun (s : SplitState) c =>
    if s.problem.isSome then s
    else if s.isEscaped then
      { s with current := c :: s.current, hasAny := true, isEscaped := false, afterBlank := false }
    else match s.quote with
      | some q =>
        if c == q then { s with quote := none }
        else if c == '\n' then { s with problem := some (SplitProblem.ofQuote q) }
        else { s with current := c :: s.current }
      | none =>
        if c == '\\' then { s with isEscaped := true, hasAny := true, afterBlank := false }
        else if c == '"' || c == '\'' then
          { s with quote := some c, hasAny := true, afterBlank := false }
        else if c == '\n' then { s.close true with afterBlank := false }
        else if (c == ' ' || c == '\t') && (!byLines || !s.hasAny) then
          { s.close false with afterBlank := true }
        else { s with current := c :: s.current, hasAny := true, afterBlank := false })
    (⟨[], [], false, none, false, false, none⟩ : SplitState)
  match s.problem, s.quote with
  | some p, _ => (s.items.reverse, some p)
  | none, some q => (s.items.reverse, some (SplitProblem.ofQuote q))
  | none, none => ((s.close true).items.reverse, none)

/-- groups of items: at most so many lines, items and octets in each -/
def groupItems (lines count : Option Nat) (size : Nat) (items : List InputItem) :
    List (List String) :=
  let (groups, current, _, _) := items.foldl
    (fun (t : List (List String) × List String × Nat × Nat) (item, endsLine) =>
      let (groups, current, seenLines, octets) := t
      let octets' := octets + item.length + 1
      let (groups, current, seenLines, octets') := if size < octets' && !current.isEmpty then
          (current.reverse :: groups, [], 0, item.length + 1)
        else (groups, current, seenLines, octets')
      let current := item :: current
      let seenLines := if endsLine then seenLines + 1 else seenLines
      if count.any (current.length = ·) || lines.any (seenLines = ·) then
        (current.reverse :: groups, [], 0, 0)
      else (groups, current, seenLines, octets')) ([], [], 0, 0)
  (if current.isEmpty then groups else current.reverse :: groups).reverse

/-- arguments of `xargs` in which options with a value that may be missing have one -/
def withDefaultValues : Nat → List String → List String
  | 0, args => args
  | _, [] => []
  | n + 1, a :: rest =>
    let value (usual : String) : String := if a.length = 2 then usual else String.ofList (a.toList.drop 2)
    let takesNext : Bool := match a.toList with
      | ['-', c] => "adEILnPs".toList.contains c
      | _ => false
    if !a.startsWith "-" || a = "-" || a = "--" then a :: rest
    else if a.startsWith "-i" then "-I" :: value "\x7b\x7d" :: withDefaultValues n rest
    else if a.startsWith "-l" then "-L" :: value "1" :: withDefaultValues n rest
    else if a.startsWith "-e" then "-E" :: value "" :: withDefaultValues n rest
    else if takesNext then a :: rest.take 1 ++ withDefaultValues n (rest.drop 1)
    else a :: withDefaultValues n rest

/-- what is wrong with the numbers that `xargs` is given -/
def countFault? (g : Given) : Option String :=
  [("L", 1), ("n", 1), ("s", 1), ("P", 0)].findSome? fun (name, least) =>
    (g.value? name).bind fun text =>
      match natural? text with
      | none => some s!"invalid number \"{text}\" for -{name} option"
      | some n =>
        if n < least then some s!"value {text} for -{name} option should be >= {least}"
        else if name = "P" && 2147483647 < n then
          some s!"value {text} for -P option should be <= 2147483647"
        else none

def xargs (programs : Programs) (args : List String) : Activity Nat :=
  withOptions "xargs" { OptionRules.of "0optrx" "adEIiLlnPs" [("null", "0", .never),
    ("arg-file", "a", .always), ("delimiter", "d", .always), ("eof", "E", .maybe),
    ("replace", "I", .maybe), ("max-lines", "L", .maybe), ("max-args", "n", .always),
    ("max-procs", "P", .always), ("interactive", "p", .never), ("no-run-if-empty", "r", .never),
    ("max-chars", "s", .always), ("verbose", "t", .never), ("exit", "x", .never)] with
    mixes := false } 1 (withDefaultValues (args.length + 1) args) fun g => do
  match countFault? g with
  | some message => return ← misuse "xargs" message 1
  | none => pure ()
  let number (name : String) : Option Nat := (g.value? name).bind natural?
  let words := if g.operands.isEmpty then ["echo"] else g.operands
  let input ← match g.value? "a" with
    | some path => contentOf path
    | none => readAll 0
  match input with
  | .error f => refuse "xargs" ("Cannot open input file " ++ quoted (g.valueOf "a") ++ ": " ++ f.message) 1
  | .ok cs =>
    let mark : Option Char := if g.has "0" then some '\x00'
      else (g.value? "d").map fun text => match text.toList with
        | '\\' :: 'n' :: _ => '\n'
        | '\\' :: 't' :: _ => '\t'
        | '\\' :: '0' :: _ => '\x00'
        | '\\' :: c :: _ => c
        | c :: _ => c
        | [] => '\x00'
    let replaced := (g.value? "I").map fun text => if text = "" then "\x7b\x7d" else text
    let (items, problem) := match mark with
      | some c => ((partsOf c cs).1.map fun part => (String.ofList part, true), none)
      | none => splitItems replaced.isSome cs
    let items := match g.value? "E" with
      | some ending => if ending = "" then items else items.takeWhile (·.1 ≠ ending)
      | none => items
    if let some p := problem then
      if !(g.has "n" || g.has "L" || g.has "I") then Tool.complain "xargs" p.message
    let usualSize := 131072 - 2048
    let size := (number "s").getD usualSize - (words.foldl (fun n w => n + w.length + 1) 0)
    let calls : List (List String) := match replaced with
      | some mark => items.map fun (item, _) => words.map fun w => item.intercalate (w.splitOn mark)
      | none =>
        let groups := groupItems (number "L") (if (number "L").isSome then none else number "n") size items
        if groups.isEmpty then (if g.has "r" || problem.isSome then [] else [words])
        else groups.map (words ++ ·)
    -- the programs do not read what is left of the input
    let null ← addStream (.device "null")
    let outer := (← own).descriptors
    if (g.value? "a").isNone then setDescriptor 0 null
    let mut code := 0
    for call in calls do
      if code = 124 || code = 126 || code = 127 || code = 125 then continue
      if g.has "t" then
        discard flush
        tell (" ".intercalate (call.map shown) ++ "\n")
      match ← programs.run call with
      | .error f =>
        Tool.complain "xargs" s!"{firstOf call}: {f.message}"
        code := if f = .missing then 127 else 126
      | .ok 255 =>
        Tool.complain "xargs" s!"{firstOf call}: exited with status 255; aborting"
        code := 124
      | .ok 0 => pure ()
      | .ok n =>
        if 128 < n then
          Tool.complain "xargs" s!"{firstOf call}: terminated by signal {n - 128}"
          code := 125
        else code := 123
    setDescriptors outer
    if let some p := problem then
      if g.has "n" || g.has "L" || g.has "I" then Tool.complain "xargs" p.message
      return 1
    return code

end PatternBuild.Shell.Tool
