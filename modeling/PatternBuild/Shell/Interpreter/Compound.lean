import PatternBuild.Shell.Interpreter.Simple
import PatternBuild.Shell.Interpreter.Task
import PatternBuild.Shell.Regex

/-!
# Commands made of commands

Conditions, loops, choices and pipes.
-/

/-!
## Conditions between double brackets

Their words are not split.  What stands on the right of a comparison is a pattern or a regular
expression, in which quoted characters mean themselves.
-/

namespace PatternBuild.Shell.Interpreter

open Activity

/-- the text of a regular expression; a backslash stands in front of quoted characters that would have
a meaning -/
def regexText (gs : List Glyph) : List Char :=
  gs.flatMap fun (c, isQuoted) =>
    if isQuoted && !(c.isAlphanum || c == '_' || c == ' ') then ['\\', c] else [c]

/-- whether a text has a match of a regular expression; the texts of its groups are kept -/
def matchesRegex (text : String) (pattern : List Char) : Activity (Option Bool) := do
  let p ← own
  match Regex.read .conditions pattern with
  | .error _ => return none
  | .ok r =>
    let subject := Regex.subject (p.settings.contains "nocasematch") text.toList
    match r.find? subject true 0 with
    | none =>
      assignValue "BASH_REMATCH" (.indexed [])
      return some false
    | some spans =>
      let groups := (List.range (r.groupCount + 1)).map fun k =>
        String.ofList (Regex.groupText subject spans k)
      assignValue "BASH_REMATCH" (.indexed (numbered 0 groups))
      return some true

/-- decide a comparison of two words -/
def compareWords (run : Run) (op : String) (left right : Word) : Activity Bool := do
  let p ← own
  let text ← Expansion.wholeText (runPlain run) left
  let isFolded := p.settings.contains "nocasematch"
  let fold (c : Char) : Char := if isFolded then c.toLower else c
  let fits : Activity Bool := do
    let gs := Expansion.glyphs (← Expansion.marks (runPlain run) .whole right)
    let ws := Wildcard.read true (gs.map fun (c, q) => (fold c, q))
    return Wildcard.fits ws (text.toList.map fold)
  match op with
  | "=" | "==" => fits
  | "!=" => return !(← fits)
  | "=~" =>
    let gs := Expansion.glyphs (← Expansion.marks (runPlain run) .whole right)
    match ← matchesRegex text (regexText gs) with
    | some found => return found
    | none => stop (.abandon 2)
  | op =>
    let other ← Expansion.wholeText (runPlain run) right
    if ["-eq", "-ne", "-lt", "-le", "-gt", "-ge"].contains op then
      let a ← compute text
      let b ← compute other
      return match op with
        | "-eq" => a == b
        | "-ne" => a != b
        | "-lt" => a < b
        | "-le" => a ≤ b
        | "-gt" => b < a
        | _ => b ≤ a
    else return (Test.compare (← Builtin.facts) op text other).toOption.getD false

/-- decide a condition -/
def decide (run : Run) : Condition → Activity Bool
  | .unary op word => do
    let text ← Expansion.wholeText (runPlain run) word
    return Test.unary (← Builtin.facts) op text
  | .binary op left right => compareWords run op left right
  | .negated c => do return !(← decide run c)
  | .both a b => do if ← decide run a then decide run b else return false
  | .either a b => do if ← decide run a then return true else decide run b
  | .grouped c => decide run c

/-- run a condition; one that is none has a code of its own -/
def condition (run : Run) (line : Nat) (c : Condition) : Activity Nat := do
  modifyOwn fun p => { p with line }
  try
    return if ← onBehalf "[[" (decide run c) then 0 else 1
  catch h =>
    match h with
    | .abandon code => return if code = 2 then 2 else 1
    | h => throw h

/-- compute an expression, which may be part of a command; a fault makes the code 1 -/
def computed (run : Run) (isPart : Bool) (expression : Word) : Activity (Option Int) := do
  let text := Expansion.joined (← Expansion.marksIn (runPlain run) .inDouble expression)
  if isPart then announce run ("((" ++ text ++ "))")
  try
    return some (← onBehalf "((" (compute text))
  catch h =>
    match h with
    | .abandon _ => return none
    | h => throw h

end PatternBuild.Shell.Interpreter

/-!
## Compound commands

Commands joined by pipes run as processes beside each other.  Loops run their parts in turns, each of
which may end the loop.
-/

namespace PatternBuild.Shell.Interpreter

open Activity

/-! ### processes beside each other -/

/-- start commands that are joined by pipes; the outcome lists their processes -/
def launchStages (run : Run) (isTested : Bool) (input : Option Nat) : List Command → Activity (List Nat)
  | [] => return []
  | c :: rest => do
    announceSimple run c
    let child ← forked false
    let child := if c.isSimple then { child with depth := child.depth - 1, isPiped := true } else child
    let child := match input with
      | some n => { child with descriptors := child.descriptors.insert 0 n }
      | none => child
    if rest.isEmpty then
      launch child c isTested
      return [child.number]
    let (m, pipe) := (← machine).addPipe false
    let (m, reader) := m.addStream (.reader pipe)
    let (m, writer) := m.addStream (.writer pipe)
    modifyMachine fun _ => m
    launch { child with descriptors := child.descriptors.insert 1 writer } c isTested
    return child.number :: (← launchStages run isTested (some reader) rest)

/-- the exit codes of processes that have ended -/
def codesOf (processes : List Nat) : Activity (List Nat) := do
  let m ← machine
  return processes.map fun n => (m.ended.lookup n).getD 0

/-- run commands that are joined by pipes -/
def pipeline (run : Run) (isTested : Bool) (stages : List Command) : Activity Nat := do
  let p ← own
  let codes ← match p.settings.contains "lastpipe", stages.getLast? with
    | true, some last => do
      -- the last command runs in the shell itself
      let (m, pipe) := (← machine).addPipe false
      let (m, reader) := m.addStream (.reader pipe)
      let (m, writer) := m.addStream (.writer pipe)
      modifyMachine fun _ => m
      let child ← forked false
      launch { child with descriptors := child.descriptors.insert 1 writer }
        (.pipeline stages.dropLast) isTested
      let code ← withDescriptors do
        modifyMachine fun m => m.addReader p.host pipe
        setDescriptor 0 reader
        run (.command true last)
      pause (.ended [child.number] false 0)
      pure ((← codesOf [child.number]) ++ [code])
    | _, _ => do
      let processes ← launchStages run isTested none stages
      pause (.ended processes false 0)
      if !p.isExtended then
        -- those that ended first are told of first
        for (n, _) in (← machine).ended.reverse do
          if processes.contains n then tellFall false n ""
      codesOf processes
  modifyOwn fun p => { p with pipeCodes := codes }
  let failing := (codes.reverse.find? (· ≠ 0)).getD 0
  settle run isTested (if p.options.failingPipes then failing else codes.getLastD 0)

/-- start a command that runs beside the shell -/
def background (run : Run) (shown : String) (c : Command) : Activity Nat := do
  announceSimple run c
  let child ← forked false
  let input ← addStream (.device "null")
  -- a process in the background ignores the keys that interrupt
  let others := child.traps.filter fun (name, _) => name ≠ "INT" && name ≠ "QUIT"
  launch { child with
    descriptors := child.descriptors.insert 0 input
    traps := others ++ [("INT", ""), ("QUIT", "")] } c false
  let m ← machine
  modifyOwn (·.withJob m child.number shown c)
  settle run true 0

/-- the names of descriptors for pipes that the shell keeps, the highest first -/
def highDescriptors (p : Process) (count : Nat) : List Nat :=
  (((List.range (Expansion.processDescriptor + 1)).reverse.filter fun n => !p.descriptors.contains n)).take count

/-- start a command that runs beside the shell; the descriptors of pipes from and to it go into an
array of its name -/
def coprocess (run : Run) (shown name : String) (c : Command) : Activity Nat := do
  let p ← own
  let (m, toShell) := (← machine).addPipe false
  let (m, toChild) := m.addPipe false
  let (m, fromChildReader) := m.addStream (.reader toShell)
  let (m, fromChildWriter) := m.addStream (.writer toShell)
  let (m, toChildReader) := m.addStream (.reader toChild)
  let (m, toChildWriter) := m.addStream (.writer toChild)
  modifyMachine fun _ => m
  let child ← forked false
  launch { child with
    descriptors := (child.descriptors.insert 0 toChildReader).insert 1 fromChildWriter } c false
  modifyMachine fun m => (m.addReader p.host toShell).addWriter p.host toChild
  match highDescriptors p 4 with
  | reading :: _ :: _ :: writing :: _ =>
    setDescriptor reading fromChildReader
    setDescriptor writing toChildWriter
    assignValue name (.indexed [(0, toString reading), (1, toString writing)])
    assign (name ++ "_PID") (toString child.number)
  | _ => pure ()
  let m ← machine
  modifyOwn (·.withJob m child.number shown c)
  settle run true 0

/-! ### loops -/

/-- run turns of a loop until one ends it; the outcome is the code of the last body that ran -/
def loop (run : Run) (isTested ending : Bool) (condition body : Command) : Nat → Nat → Activity Nat
  | 0, last => pure last
  | n + 1, last => do
    giveWay
    runPending run endless
    match ← turn (run (.command true condition)) with
    | .over code => return if code = 0 then last else code
    | .again => loop run isTested ending condition body n last
    | .completed code =>
      if (code == 0) == ending then settle run true last
      else
        match ← turn (run (.command isTested body)) with
        | .over code => settle run true code
        | .again => loop run isTested ending condition body n 0
        | .completed code => loop run isTested ending condition body n code

/-- run a body for every value -/
def forEach (run : Run) (isTested : Bool) (shown name : String) (body : Command) (head : String) :
    List String → Nat → Activity Nat
  | [], last => settle run true last
  | value :: rest, _ => do
    if (← own).isExtended then trace head
    announce run shown
    assign name value
    match ← turn (run (.command isTested body)) with
    | .over code => settle run true code
    | .again => forEach run isTested shown name body head rest 0
    | .completed code => forEach run isTested shown name body head rest code

/-- run a loop for the values of words, or for the arguments -/
def forWords (run : Run) (isTested : Bool) (line : Nat) (shown name : String) (words : Option (List Word))
    (body : Command) : Activity Nat := do
  modifyOwn fun p => { p with line }
  let values ← match words with
    | some ws => do pure (← ws.mapM (Expansion.fieldsOf (runPlain run))).flatten
    | none => do pure (← own).args
  let head := s!"for {name} in " ++ tracedWords true values
  try
    forEach run isTested shown name body head values 0
  catch h =>
    -- a name that cannot be assigned ends the loop only
    match h, (← own).isExtended, ((← own).bindings.get? name).any (·.isReadOnly) with
    | .abandon code, true, true => settle run isTested code
    | h, _, _ => throw h

/-- run turns of a counting loop -/
def counting (run : Run) (isTested : Bool) (test step : Word) (body : Command) :
    Nat → Nat → Activity Nat
  | 0, last => pure last
  | n + 1, last => do
    let isEmpty := test.all fun
      | .quoted text => text.toList.all Reading.isBlankChar
      | _ => false
    let value ← if isEmpty then pure (some 1) else computed run true test
    match value with
    | none => settle run isTested 1
    | some 0 => settle run true last
    | some _ =>
      let goOn (code : Nat) : Activity Nat := do
        match ← computed run true step with
        | none => settle run isTested 1
        | some _ => counting run isTested test step body n code
      match ← turn (run (.command isTested body)) with
      | .over code => settle run true code
      | .again => goOn 0
      | .completed code => goOn code

/-- ask for one of some values, over and over -/
def menu (run : Run) (isTested : Bool) (name : String) (values : List String) (body : Command) :
    Nat → Nat → Activity Nat
  | 0, last => pure last
  | n + 1, _ => do
    for (i, value) in (List.range values.length).zip values do tell s!"{i + 1}) {value}\n"
    tell "#? "
    let (cs, isEnded) ← readLine 0
    if !isEnded && cs.isEmpty then
      tell "\n"
      return ← settle run true 1
    let answer := String.ofList cs
    assign "REPLY" answer
    let chosen := (answer.toNat?).bind fun k => if k = 0 then none else values[k - 1]?
    assign name (chosen.getD "")
    match ← turn (run (.command isTested body)) with
    | .over code => settle run true code
    | .again => menu run isTested name values body n 0
    | .completed code => menu run isTested name values body n code

/-! ### selections -/

/-- whether one of some patterns matches -/
def anyFits (run : Run) (text : List Char) : List Word → Activity Bool
  | [] => return false
  | w :: rest => do
    let isFolded := (← own).settings.contains "nocasematch"
    let fold (c : Char) : Char := if isFolded then c.toLower else c
    let gs := Expansion.glyphs (← Expansion.marks (runPlain run) .whole w)
    let ws := Wildcard.read (← own).isExtended (gs.map fun (c, q) => (fold c, q))
    if Wildcard.fits ws (text.map fold) then return true else anyFits run text rest

/-- run the first arm with a pattern that matches, and those that it leads to -/
def select (run : Run) (isTested : Bool) (text : List Char) (isChosen : Bool) :
    List (List Word × Command × ArmEnd) → Nat → Activity Nat
  | [], last => settle run true last
  | (patterns, body, ending) :: rest, last => do
    if isChosen || (← anyFits run text patterns) then
      let code ← run (.command isTested body)
      match ending with
      | .leave => return code
      | .fallThrough => select run isTested text true rest code
      | .goOn => select run isTested text false rest code
    else select run isTested text false rest last

/-! ### commands -/

/-- run a command; in the language with extensions it may be the last thing that the process does -/
def runLast (run : Run) (isTested isLast : Bool) (c : Command) : Activity Nat := do
  if isLast && c.endsSimply then modifyOwn fun p => { p with isLeaving := p.isExtended }
  run (.command isTested c)

/-- a time with so many decimal places, in seconds or with the minutes apart -/
def shownTime (places : Nat) (isLong : Bool) (nanoseconds : Nat) : List Char :=
  let millis := nanoseconds / 1000000
  let seconds := millis / 1000
  let digits := (toString (1000 + millis % 1000)).toList.drop 1
  let fraction := if places = 0 then [] else '.' :: digits.take places
  if isLong then s!"{seconds / 60}m{seconds % 60}".toList ++ fraction ++ ['s']
  else (toString seconds).toList ++ fraction

/-- the times that a command took, in a format: nothing but the whole time is worth telling; the fault is
a letter that means nothing -/
def timeReport (nanoseconds : Nat) : List Char → Except Char (List Char)
  | '%' :: '%' :: cs => do return '%' :: (← timeReport nanoseconds cs)
  | '%' :: 'P' :: cs => do return "0.00".toList ++ (← timeReport nanoseconds cs)
  | ['%'] => .ok ['%']
  | '%' :: 'R' :: cs => do return shownTime 3 false nanoseconds ++ (← timeReport nanoseconds cs)
  | '%' :: 'E' :: cs => do return shownTime 3 false nanoseconds ++ (← timeReport nanoseconds cs)
  | '%' :: 'U' :: cs => do return shownTime 3 false 0 ++ (← timeReport nanoseconds cs)
  | '%' :: 'S' :: cs => do return shownTime 3 false 0 ++ (← timeReport nanoseconds cs)
  | '%' :: 'l' :: c :: cs => letter 3 true c (timeReport nanoseconds cs)
  | '%' :: d :: 'l' :: c :: cs =>
    if d.isDigit then letter (min 3 (d.toNat - '0'.toNat)) true c (timeReport nanoseconds cs) else .error d
  | '%' :: d :: c :: cs =>
    if d.isDigit then letter (min 3 (d.toNat - '0'.toNat)) false c (timeReport nanoseconds cs) else .error d
  | ['%', d] => .error (if d.isDigit || d == 'l' then '\x00' else d)
  | c :: cs => do return c :: (← timeReport nanoseconds cs)
  | [] => .ok []
where
  /-- the time that a letter asks for -/
  letter (places : Nat) (isLong : Bool) (c : Char) (rest : Except Char (List Char)) : Except Char (List Char) := do
    let shown ← match c with
      | 'R' => pure (shownTime places isLong nanoseconds)
      | 'E' => pure (shownTime places isLong nanoseconds)
      | 'U' => pure (shownTime places isLong 0)
      | 'S' => pure (shownTime places isLong 0)
      | _ => throw c
    return shown ++ (← rest)

/-- run a command, in a shell that runs commands; the last one of a process needs no other process -/
def enact (run : Run) (isTested isLast : Bool) : Command → Activity Nat
  | .nothing => settle run true 0
  | .simple line shown assigns words rs => do
    let hadTrap := ((← own).traps.lookup "ERR").isSome
    let isLast := isLast && ((← own).traps.all fun (_, text) => text = "")
    let code ← simple run isTested isLast line shown assigns words rs
    runPending run endless
    modifyOwn fun p => { p with pipeCodes := [code] }
    settleWith run hadTrap isTested code
  | .pipeline stages => do
    let code ← pipeline run isTested stages
    runPending run endless
    return code
  | .negated c => do
    let code ← run (.command true c)
    settle run true (if code = 0 then 1 else 0)
  | .timed isPlain c => do
    let start := (← machine).disk.now
    let code ← run (.command isTested c)
    let spent := (← machine).disk.now - start
    let format ← if isPlain then pure "real %2R\nuser %2U\nsys %2S"
      else pure ((← textOf? "TIMEFORMAT").getD "\nreal\t%3lR\nuser\t%3lU\nsys\t%3lS")
    if format ≠ "" then
      match timeReport spent format.toList with
      | .ok text => tell (String.ofList text ++ "\n")
      | .error c => complainPlainly ("TIMEFORMAT: \x60" ++ c.toString ++ "': invalid format character")
    return code
  | .andThen a b => do
    let code ← run (.command true a)
    if code = 0 then runLast run isTested isLast b else return code
  | .orElse a b => do
    let code ← run (.command true a)
    if code ≠ 0 then runLast run isTested isLast b else return code
  | .sequence a b => do
    discard (run (.command isTested a))
    runLast run isTested isLast b
  | .background shown c => background run shown c
  | .choice test yes no => do
    let code ← run (.command true test)
    if code = 0 then run (.command isTested yes) else run (.command isTested no)
  | .loop ending test body => loop run isTested ending test body endless 0
  | .forEach line shown name words body => forWords run isTested line shown name words body
  | .counting line start test step body => do
    modifyOwn fun p => { p with line }
    if start.isEmpty then counting run isTested test step body endless 0
    else
      match ← computed run true start with
      | some _ => counting run isTested test step body endless 0
      | none => settle run isTested 1
  | .menu name words body => do
    let values ← match words with
      | some ws => do pure (← ws.mapM (Expansion.fieldsOf (runPlain run))).flatten
      | none => do pure (← own).args
    if values.isEmpty then settle run true 0 else menu run isTested name values body endless 0
  | .select line shown word arms => do
    modifyOwn fun p => { p with line }
    announce run shown
    let text ← Expansion.wholeText (runPlain run) word
    if (← own).isExtended then trace s!"case {tracedWords true [text]} in"
    select run isTested text.toList false arms 0
  | .subshell c => do
    let code ← if isLast then runLast run isTested true c
      else inSubshell run (runLast run isTested true c)
    noticeJobs
    runPending run endless
    modifyOwn fun p => { p with pipeCodes := [code] }
    settle run isTested code
  | .redirected line c rs => do
    modifyOwn fun p => { p with line }
    let p ← own
    let outer := p.descriptors
    if ← redirectAll run rs then
      modifyOwn fun p => { p with isLeaving := isLast }
      try
        let code ← run (.command isTested c)
        setDescriptors outer
        return code
      catch h =>
        setDescriptors outer
        throw h
    else
      setDescriptors outer
      settle run isTested (redirectCode p)
  | .group c => run (.command isTested c)
  | .coprocess shown name c => coprocess run shown name c
  | .function name shown body => do
    let p ← own
    if p.isExtended && p.isOn "posix" && Manual.specialNames.contains name then
      complain ("\x60" ++ name ++ "': is a special builtin")
      stop (.exit 2)
    if (p.function? name).any (·.isReadOnly) then
      complain s!"{name}: readonly function"
      return ← settle run isTested 1
    let source := (p.callStack.find? (·.isFile)).map (·.source)
    let source := source.getD (if p.origin = .input then "main" else "environment")
    modifyOwn fun p => { p with
      functions := ⟨name, shown, body, source, p.line, false, false⟩ :: p.functions.filter (·.name ≠ name) }
    settle run true 0
  | .condition line shown c => do
    modifyOwn fun p => { p with line }
    announce run shown
    let code ← condition run line c
    settle run isTested code
  | .compute line shown expression => do
    modifyOwn fun p => { p with line }
    announce run shown
    let code := match ← computed run false expression with
      | some 0 => 1
      | some _ => 0
      | none => 1
    settle run isTested code

/-- run a command; a shell that only reads commands does nothing -/
def command (run : Run) (isTested : Bool) (c : Command) : Activity Nat := do
  let p ← own
  if p.options.readOnly then return p.status
  if p.isLeaving then modifyOwn fun p => { p with isLeaving := false }
  enact run isTested p.isLeaving c

end PatternBuild.Shell.Interpreter
