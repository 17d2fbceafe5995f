import PatternBuild.Shell.Tool.Calendar
import PatternBuild.Shell.Tool.Records.Actions
import PatternBuild.Shell.Tool.Records.State

/-!
# Programs for records, from the command line to the output

The tool reads a program and offers it the records of its input.
-/

/-!
## Programs for records carried out

`value` computes terms and `perform` carries out actions, nested at most as deep as their bound says.
Every record of the input is offered to the rules in turn.
-/

namespace PatternBuild.Shell.Records

open Activity

/-! ### arrays -/

/-- the name under which an array is kept -/
def arrayName (a : ArrayRef) : Work String := do
  match a with
  | .shared name => return name
  | .slot i =>
    match (← get).slots[i]? with
    | some (.array name) => return name
    | _ => return ""

/-- change an array -/
def changeArray (name : String) (f : Collection → Collection) : Work Unit :=
  modify fun s =>
    let c := s.arrays.getD name .empty
    -- the array is taken out first, so that nothing else holds it while it changes
    { s with arrays := (s.arrays.erase name).insert name (f c) }

def arrayAt (name : String) : Work Collection := do
  return (← get).arrays.getD name .empty

/-- find a key in an array, where it is added if `isAdded` holds -/
def lookUp (name : String) (k : Collection.Key) (isAdded : Bool) : Work (Bool × Value) := do
  changeArray name (·.note isAdded k)
  let c ← arrayAt name
  return (c.contains k, c.value k)

/-- the name of the array that an argument is, if it is one -/
def passedArray? (x : Frame) (t : Term) : Work (Option String) := do
  match t with
  | .array a => return some (← arrayName a)
  | .variable name => return if x.program.arrays.contains name then some name else none
  | .slot i =>
    match (← get).slots[i]? with
    | some (.array name) => return some name
    | _ => return none
  | _ => return none

/-! ### faults -/

/-- stop because of a format -/
def failFormat {α : Type} (name : String) (format : List Char) (fault : FormatFault) : Work α :=
  let shown := name ++ "(\"" ++ String.ofList format ++ "\")"
  match fault with
  | .missing => failAtWork ("not enough arguments passed to " ++ shown)
  | .improper n => failAtWork (s!"improper conversion(number {n}) in " ++ shown)

/-- the number of a field -/
def fieldNumber (v : Value) : Work Nat := do
  let n := toWhole v.toNumber
  if n < 0 then failAtWork s!"negative field index ${n}"
  return n.toNat

/-- end because the nesting has no end -/
def tooDeep {α : Type} : Work α := outside (stop (.killed faultSignal none))

/-! ### functions of the language -/

/-- a random number and what is kept for the next one -/
def nextRandom (n : Nat) : Float × Nat :=
  let m := (n * 6364136223846793005 + 1442695040888963407) % 18446744073709551616
  (Float.ofNat (m / 2048) / 9007199254740992.0, m)

/-- the moment that six numbers write, in seconds -/
def momentOf (text : List Char) : Int :=
  match (wordsOf text).map fun w => toWhole (numberOf w) with
  | year :: month :: day :: hour :: minute :: second :: _ =>
    let months := year * 12 + (month - 1)
    let days := Calendar.daysTo (months.fdiv 12) ((months.fmod 12).toNat + 1) 1 + (day - 1)
    days * 86400 + hour * 3600 + minute * 60 + second
  | _ => -1

/-- the seconds that have passed since the start of 1970 -/
def secondsNow : Work Int := do
  return (Int.ofNat (← outside machine).disk.now).fdiv 1000000000

/-- the value of a function of the language, whose arguments have these values -/
def builtinValue (x : Frame) (f : Builtin) (args : List Value) : Work Value := do
  let s ← get
  let number (i : Nat) : Float := (args.getD i .unset).toNumber
  let text (i : Nat) : List Char := (args.getD i .unset).toText s.conversions
  let real (y : Float) : Work Value := return .number y
  match f with
  | .arcTangent => real (Float.atan2 (number 0) (number 1))
  | .cosine => real (Float.cos (number 0))
  | .sine => real (Float.sin (number 0))
  | .exponential => real (Float.exp (number 0))
  | .logarithm => real (Float.log (number 0))
  | .squareRoot => real (Float.sqrt (number 0))
  | .whole =>
    let y := number 0
    real (if y < 0 then -(-y).floor else y.floor)
  | .index => real (Float.ofNat (placeOf (text 0) (text 1)))
  | .length =>
    if args.isEmpty then real (Float.ofNat (← recordText).length)
    else real (Float.ofNat (text 0).length)
  | .lower => return .text ((text 0).map Char.toLower)
  | .upper => return .text ((text 0).map Char.toUpper)
  | .part => return .text (part (text 0) (number 1) (if args.length < 3 then none else some (number 2)))
  | .formatted =>
    let (printed, fault?) := formatted s.conversions (text 0) (args.drop 1)
    match fault? with
    | none => return .text printed
    | some fault => failFormat "sprintf" (text 0) fault
  | .random =>
    let (y, random) := nextRandom s.random
    modify fun s => { s with random }
    real y
  | .seed =>
    let seed ← match args.head? with
      | some v => pure v
      | none => pure (.number (Float.ofInt (← secondsNow)))
    let random := (toWhole seed.toNumber % 18446744073709551616).toNat
    modify fun s => { s with seed, random := (nextRandom random).2 }
    return s.seed
  | .system =>
    flushAll
    match ← outside (x.programs.run ["/bin/sh", "-c", String.ofList (text 0)]) with
    | .ok code => real (Float.ofNat code)
    | .error _ => real 127
  | .close => real (Float.ofInt (← closeNamed (text 0)))
  | .flush =>
    flushAll
    let isThere := args.isEmpty || (usualOutput? (String.ofList (text 0))).isSome ||
      s.outputs.any (·.name = text 0)
    real (if isThere then 0 else -1)
  | .time => real (Float.ofInt (← secondsNow))
  | .timeOf =>
    let t := momentOf (text 0)
    let zone ← outside Tool.currentZone
    let t := match zone.moment? none (t * 1000000000) with
      | some t => t.fdiv 1000000000
      | none => t - zone.usual.ahead
    real (Float.ofInt t)
  | .timeText =>
    let seconds ← if args.length < 2 then secondsNow else pure (toWhole (number 1))
    let format := if args.isEmpty then "%c" else String.ofList (text 0)
    let zone ← if args.length < 3 || !(args.getD 2 .unset).isTrue then outside Tool.currentZone else pure .utc
    return .text (Calendar.plainFormatIn zone (seconds * 1000000000) format.toList)
  | _ => return .unset
/-! ### terms -/

/-- the most values that are held -/
def mostHeld : Nat := 1006

/-- the most steps that a loop takes -/
def endless : Nat := 1000000000000

/-- do something as long as a condition holds -/
def whileHolds (condition : Work Bool) (body : Work Unit) : Nat → Work Unit
  | 0 => return
  | n + 1 => do
    if ← condition then
      body
      whileHolds condition body n

/-- carry out a loop, which `leave` ends -/
def asLoop (body : Work Unit) : Work Unit :=
  tryCatch body fun
    | .leave => return
    | other => throw other

/-- carry out a turn of a loop, which `goOn` ends -/
def asTurn (body : Work Unit) : Work Unit :=
  tryCatch body fun
    | .goOn => return
    | other => throw other

mutual

/-- the value of a term -/
def value (x : Frame) : Nat → Term → Work Value
  | 0, _ => tooDeep
  | n + 1, t => do
    match t with
    | .number y => return .number y
    | .text cs => return .text cs
    | .regex r => return .ofBool (r.occurs false (← recordText))
    | .variable name => globalValue name
    | .slot i =>
      match (← get).slots[i]? with
      | some (.value v) => return v
      | _ => return .unset
    | .fieldCount => return .number (Float.ofNat (← fieldCount))
    | .field index => fieldValue (← fieldNumber (← value x n index))
    | .element array index =>
      let key ← keyOf x n index
      return (← lookUp (← arrayName array) key true).2
    | .grouped a => value x n a
    | .assign place a =>
      let v ← value (x.hold 1) n a
      assign x n place v
      return v
    | .update op place a =>
      let y ← value (x.hold 1) n a
      let old ← value x n place
      let v := Value.number (op.apply old.toNumber y.toNumber)
      assign x n place v
      return v
    | .step amount isBefore place =>
      let old := (← value x n place).toNumber
      let new := old + amount
      assign x n place (.number new)
      return .number (if isBefore then new else old)
    | .compute op a b =>
      let y ← value x n a
      let z ← value (x.hold 1) n b
      return .number (op.apply y.toNumber z.toNumber)
    | .negative a => return .number (-(← value x n a).toNumber)
    | .positive a => return .number (← value x n a).toNumber
    | .not a => return .ofBool (!(← value x n a).isTrue)
    | .compare r a b =>
      let v ← value x n a
      let w ← value (x.hold 1) n b
      return .ofBool (r.holds (v.order (← get).conversions w))
    | .matches negated a b =>
      let v ← value x n a
      let r ← expression (x.hold 1) n b
      return .ofBool (r.occurs false (v.toText (← get).conversions) != negated)
    | .both a b =>
      if !(← value x n a).isTrue then return .ofBool false
      return .ofBool (← value x n b).isTrue
    | .either a b =>
      if (← value x n a).isTrue then return .ofBool true
      return .ofBool (← value x n b).isTrue
    | .choose condition a b => if (← value x n condition).isTrue then value x n a else value x n b
    | .join a b =>
      let v ← value x n a
      let w ← value (x.hold 1) n b
      let format := (← get).conversions
      return .text (v.toText format ++ w.toText format)
    | .member index array =>
      let key ← keyOf x n index
      return .ofBool (← lookUp (← arrayName array) key false).1
    | .array _ => return .unset
    | .call name args => call x n name args
    | .builtin .replaceFirst args => replace x n false args
    | .builtin .replaceAll args => replace x n true args
    | .builtin .split args => splitInto x n args
    | .builtin .match args => findIn x n args
    | .builtin .length [a] =>
      match ← passedArray? x a with
      | some name => return .number (Float.ofNat (← arrayAt name).size)
      | none => builtinValue x .length [← value x n a]
    | .builtin f args => builtinValue x f (← values x n args)
    | .readLine kind source target => readLine x n kind source target
termination_by structural n => n

/-- the values of terms, each held while the next one is computed -/
def values (x : Frame) : Nat → List Term → Work (List Value)
  | 0, _ => tooDeep
  | n + 1, terms => do
    match terms with
    | [] => return []
    | t :: rest =>
      let v ← value x n t
      return v :: (← values (x.hold 1) n rest)
termination_by structural n => n

/-- the regular expression of an operand -/
def expression (x : Frame) : Nat → Term → Work Regex
  | 0, _ => tooDeep
  | n + 1, t => do
    match t with
    | .regex r => return r
    | t => regexOf (← value x n t)
termination_by structural n => n

/-- the key of an index; several values are put together -/
def keyOf (x : Frame) : Nat → List Term → Work Collection.Key
  | 0, _ => tooDeep
  | n + 1, index => do
    match index with
    | [a] => return Collection.keyOf (← get).conversions (← value x n a)
    | index =>
      let keys ← values x n index
      let s ← get
      let separator := ((s.globals["SUBSEP"]?).getD .unset).toText s.conversions
      let texts := keys.map (·.toText s.conversions)
      return ⟨String.ofList (separator.intercalate texts), none⟩
termination_by structural n => n

/-- give a place a value -/
def assign (x : Frame) : Nat → Term → Value → Work Unit
  | 0, _, _ => tooDeep
  | n + 1, place, v => do
    match place with
    | .variable name => setGlobal name v
    | .slot i => modify fun s => { s with slots := s.slots.setIfInBounds i (.value v) }
    | .fieldCount => setFieldCount v
    | .field index => setField (← fieldNumber (← value x n index)) v
    | .element array index =>
      let key ← keyOf x n index
      changeArray (← arrayName array) (·.set key v)
    | _ => return
termination_by structural n => n

/-- call a function of the program -/
def call (x : Frame) : Nat → String → List Term → Work Value
  | 0, _, _ => tooDeep
  | n + 1, name, args => do
    match x.functions[name]? with
    | none => return .unset
    | some f =>
      let mut slots : Array Slot := #[]
      let mut own : List String := []
      for ((_, kind), i) in f.parameters.zipIdx do
        match kind, args[i]? with
        | .array, some a =>
          slots := slots.push (.array ((← passedArray? x a).getD ""))
        | .array, none =>
          let number := (← get).made
          let fresh := s!"array {number}"
          modify fun s => { s with made := s.made + 1 }
          own := fresh :: own
          slots := slots.push (.array fresh)
        | _, some a => slots := slots.push (.value (← value (x.hold i) n a))
        | _, none => slots := slots.push (.value .unset)
      let inner := x.hold f.parameters.length
      if mostHeld < inner.held then giveUp "program limit exceeded: eval stack size=1024"
      let outer := (← get).slots
      modify fun s => { s with slots }
      let leave : Work Unit := modify fun s =>
        { s with slots := outer, arrays := own.foldl (fun m a => m.erase a) s.arrays }
      try
        performAll inner n f.body
        leave
        return .unset
      catch
        | .return v =>
          leave
          return v
        | other =>
          leave
          throw other
termination_by structural n => n

/-- replace matches in a place -/
def replace (x : Frame) : Nat → Bool → List Term → Work Value
  | 0, _, _ => tooDeep
  | n + 1, isAll, args => do
    match args with
    | pattern :: replacement :: rest =>
      let r ← expression x n pattern
      let v ← value x n replacement
      let place := rest.headD (.field (.number 0))
      let old ← value x n place
      let format := (← get).conversions
      let (new, count) := substitute r isAll (v.toText format) (old.toText format)
      if count ≠ 0 then assign x n place (.text new)
      return .number (Float.ofNat count)
    | _ => return .unset
termination_by structural n => n

/-- split a text into an array -/
def splitInto (x : Frame) : Nat → List Term → Work Value
  | 0, _ => tooDeep
  | n + 1, args => do
    match args with
    | text :: .array array :: rest =>
      let v ← value x n text
      let separator ← match rest with
        | [.regex r] => pure (Separator.regex r)
        | [t] => do
          let text := (← value x n t).toText (← get).conversions
          match text with
          | [] => pure .nothing
          | [' '] => pure .blanks
          | [c] => pure (.char c)
          | text => Separator.regex <$> regexOf (.text text)
        | _ => do pure (← get).separator
      let parts := separator.split (v.toText (← get).conversions)
      changeArray (← arrayName array) fun _ => .ofParts (parts.map .input)
      return .number (Float.ofNat parts.length)
    | _ => return .unset
termination_by structural n => n

/-- find the first match in a text -/
def findIn (x : Frame) : Nat → List Term → Work Value
  | 0, _ => tooDeep
  | n + 1, args => do
    match args with
    | [text, pattern] =>
      let v ← value x n text
      let r ← expression x n pattern
      let s := Regex.subject false (v.toText (← get).conversions)
      let (start, length) : Float × Float := match (r.find? s false 0).bind (·.lookup 0) with
        | some (a, b) => (Float.ofNat (a + 1), Float.ofNat (b - a))
        | none => (0, -1)
      setGlobal "RSTART" (.number start)
      setGlobal "RLENGTH" (.number length)
      return .number start
    | _ => return .unset
termination_by structural n => n

/-- read a record on demand -/
def readLine (x : Frame) : Nat → LineSource → Option Term → Option Term → Work Value
  | 0, _, _, _ => tooDeep
  | n + 1, kind, source, target => do
    let take (record : List Char) : Work Unit :=
      match target with
      | some place => assign x n place (.input record)
      | none => setRecord record
    match kind, source with
    | .records, _ =>
      match ← nextRecord? plainText endless with
      | none => return .number 0
      | some record =>
        take record
        countUp "NR"
        countUp "FNR"
        return .number 1
    | kind, some source =>
      let name := (← value x n source).toText (← get).conversions
      let (found, record) ← nextLine x kind name
      if found = 1 then take record
      return .number (Float.ofInt found)
    | _, none => return .number (-1)
termination_by structural n => n

/-- carry out an action -/
def perform (x : Frame) : Nat → Act → Work Unit
  | 0, _ => tooDeep
  | n + 1, a => do
    match a with
    | .term t => discard (value x n t)
    | .print args target =>
      let text ← printedText x n args
      send x n target text
    | .printFormatted args target =>
      let given ← values x n args
      let s ← get
      let format := (given.headD .unset).toText s.conversions
      let (printed, fault?) := formatted s.conversions format (given.drop 1)
      send x n target printed
      match fault? with
      | none => return
      | some fault => failFormat "printf" format fault
    | .choose condition first second =>
      if (← value x n condition).isTrue then performAll x n first else performAll x n second
    | .while condition body =>
      let holds : Work Bool := do return (← value x n condition).isTrue
      asLoop (whileHolds holds (asTurn (performAll x n body)) endless)
    | .doWhile body condition =>
      let holds : Work Bool := do return (← value x n condition).isTrue
      let turn := asTurn (performAll x n body)
      asLoop do
        turn
        whileHolds holds turn endless
    | .for first condition next body =>
      performAll x n first
      let holds : Work Bool := match condition with
        | some t => do return (← value x n t).isTrue
        | none => return true
      asLoop (whileHolds holds (do asTurn (performAll x n body); performAll x n next) endless)
    | .forKeys place array body =>
      let name ← arrayName array
      let c ← arrayAt name
      let (keys, c) := c.keys
      changeArray name fun _ => c
      asLoop do
        for key in keys do
          assign x n place (.text key.toList)
          asTurn (performAll x n body)
    | .block body => performAll x n body
    | .next => throw .next
    | .nextFile => throw .nextFile
    | .exit none => throw .exit
    | .exit (some t) =>
      let code := toWhole (← value x n t).toNumber
      modify fun s => { s with code }
      throw .exit
    | .return none => throw (.return .unset)
    | .return (some t) => throw (.return (← value x n t))
    | .leave => throw .leave
    | .goOn => throw .goOn
    | .delete array index =>
      let key ← keyOf x n index
      changeArray (← arrayName array) (·.remove key)
    | .clear array => changeArray (← arrayName array) fun _ => .empty
termination_by structural n => n

/-- carry out actions one after the other -/
def performAll (x : Frame) : Nat → List Act → Work Unit
  | 0, _ => tooDeep
  | n + 1, acts => acts.forM (perform x n)
termination_by structural n => n

/-- what `print` prints -/
def printedText (x : Frame) : Nat → List Term → Work (List Char)
  | 0, _ => tooDeep
  | n + 1, args => do
    let text ← if args.isEmpty then recordText
      else do
        let given ← values x n args
        let format := (← get).outputFormat
        match given with
        | [v] => pure (v.toText format)
        | given => pure ((← globalText "OFS").intercalate (given.map (·.toText format)))
    return text ++ (← globalText "ORS")
termination_by structural n => n

/-- send what is printed where it goes -/
def send (x : Frame) : Nat → Option (OutputKind × Term) → List Char → Work Unit
  | 0, _, _ => tooDeep
  | n + 1, target, text => do
    match target with
    | none => outside (Tool.out text)
    | some (kind, t) =>
      let name := (← value x n t).toText (← get).conversions
      writeTo x kind name text
termination_by structural n => n

end

/-! ### rules -/

/-- whether a rule is to be carried out for the record -/
def isDue (x : Frame) (depth : Nat) (number : Nat) : Condition → Work Bool
  | .always => return true
  | .holds t => do return (← value x depth t).isTrue
  | .between first last => do
    let hasStarted := (← get).ranges.contains number
    if !hasStarted then
      if !(← value x depth first).isTrue then return false
    let ends := (← value x depth last).isTrue
    modify fun s =>
      let others := s.ranges.filter (· ≠ number)
      { s with ranges := if ends then others else number :: others }
    return true

/-- offer the record to the rules -/
def performRules (x : Frame) (depth : Nat) : Work Unit := do
  for ((condition, body), number) in x.program.rules.zipIdx do
    if ← isDue x depth number condition then performAll x depth body

/-- go through at most `n` records -/
def performRecords (x : Frame) (depth : Nat) : Nat → Work Unit
  | 0 => return
  | n + 1 => do
    match ← nextRecord? plainText endless with
    | none => return
    | some record =>
      setRecord record
      countUp "NR"
      countUp "FNR"
      tryCatch (performRules x depth) fun
        | .next => return
        | .nextFile => do
          match (← get).main with
          | some l => outside (Tool.close l.fd)
          | none => pure ()
          modify fun s => { s with main := none }
        | other => throw other
      performRecords x depth n

/-- carry out a program from its beginning to its end -/
def performProgram (x : Frame) (depth : Nat) : Work Unit := do
  let p := x.program
  try
    for body in p.begins do performAll x depth body
    if p.readsRecords then performRecords x depth endless
  catch
    | .exit => pure ()
    | other => throw other
  try
    for body in p.ends do performAll x depth body
  catch
    | .exit => pure ()
    | other => throw other

end PatternBuild.Shell.Records

/-!
## The tool for records

The options of the tool give it the text of a program, the separator of fields and values for names;
the operands are files and assignments.
-/

namespace PatternBuild.Shell.Records

open Activity

/-! ### options -/

/-- what the options ask for -/
structure Options where
  /-- files with parts of the program -/
  files : List String
  separator : Option String
  assignments : List String
  showsVersion : Bool
  showsUsage : Bool

def Options.none : Options := ⟨[], Option.none, [], false, false⟩

/-- read at most `n` options; the rest are the program and the operands -/
def readOptions : Nat → List String → Options → Except String (Options × List String)
  | 0, args, o => .ok (o, args)
  | n + 1, args, o =>
    match args with
    | [] => .ok (o, [])
    | arg :: rest =>
      match arg.toList with
      | ['-'] => .ok (o, args)
      | ['-', '-'] => .ok (o, rest)
      | '-' :: '-' :: cs =>
        let name := String.ofList cs
        if name = "version" then .ok ({ o with showsVersion := true }, [])
        else if name = "help" || name = "usage" then .ok ({ o with showsUsage := true }, [])
        else .error s!"not an option: {arg}"
      | '-' :: c :: cs =>
        let valued (f : String → Options) : Except String (Options × List String) :=
          if cs.isEmpty then
            match rest with
            | v :: rest => readOptions n rest (f v)
            | [] => .error s!"option -{c} lacks argument"
          else readOptions n rest (f (String.ofList cs))
        match c with
        | 'f' => valued fun v => { o with files := o.files ++ [v] }
        | 'F' => valued fun v => { o with separator := some v }
        | 'v' => valued fun v => { o with assignments := o.assignments ++ [v] }
        | 'W' => valued fun v =>
          if v.startsWith "v" then { o with showsVersion := true }
          else if v.startsWith "u" || v.startsWith "h" then { o with showsUsage := true } else o
        | _ => .error s!"not an option: {arg}"
      | _ => .ok (o, args)

def version : String := "mawk 1.3.4 20200120\n"

def usage : String :=
  "Usage: mawk [Options] [Program] [file ...]\n\nProgram:\n" ++
  "    The -f option value is the name of a file containing program text.\n" ++
  "    If no -f option is given, a \"--\" ends option processing; the following\n" ++
  "    parameters are the program text.\n\nOptions:\n" ++
  "    -f program-file  Program  text is read from file instead of from the\n" ++
  "                     command-line.  Multiple -f options are accepted.\n" ++
  "    -F value         sets the field separator, FS, to value.\n" ++
  "    -v var=value     assigns value to program variable var.\n" ++
  "    --               unambiguous end of options.\n\n" ++
  "    Implementation-specific options are prefixed with \"-W\".  They can be\n" ++
  "    abbreviated:\n\n" ++
  "    -W version       show version information and exit.\n" ++
  "    -W compat        pre-POSIX 2001.\n" ++
  "    -W dump          show assembler-like listing of program and exit.\n" ++
  "    -W help          show this message and exit.\n" ++
  "    -W interactive   set unbuffered output, line-buffered input.\n" ++
  "    -W exec file     use file as program as well as last option.\n" ++
  "    -W posix         stricter POSIX checking.\n" ++
  "    -W random=number set initial random seed.\n" ++
  "    -W sprintf=number adjust size of sprintf buffer.\n" ++
  "    -W usage         show this message and exit.\n"

/-! ### the start -/

/-- the values of names before a program starts -/
def firstGlobals : Std.HashMap String Value :=
  .ofList [("FS", .text [' ']), ("RS", .text ['\n']), ("OFS", .text [' ']), ("ORS", .text ['\n']),
    ("SUBSEP", .text ['\x1c']), ("CONVFMT", .text usualFormat), ("OFMT", .text usualFormat),
    ("NR", .number 0), ("FNR", .number 0), ("RSTART", .number 0), ("RLENGTH", .number (-1)),
    ("FILENAME", .text [])]

/-- an array whose keys are texts -/
def arrayOf (entries : List (String × String)) : Collection :=
  entries.foldl (fun c (key, text) => c.set ⟨key, none⟩ (.input text.toList)) .empty

/-- the state in which a program starts -/
def firstState (args : List String) (environment : List (String × String)) (now : Nat) : State where
  globals := firstGlobals.insert "ARGC" (.number (Float.ofNat args.length))
  arrays := .ofList [("ENVIRON", arrayOf environment),
    ("ARGV", (args.zipIdx).foldl (fun c (text, i) =>
      c.set ⟨toString i, some (Int.ofNat i)⟩ (.input text.toList)) .empty)]
  slots := #[]
  record := .ofText .blanks []
  separator := .blanks
  ending := .char '\n'
  conversions := usualFormat
  outputFormat := usualFormat
  main := none
  nextOperand := 1
  hasOpened := false
  inputs := []
  outputs := []
  regexes := ∅
  ranges := []
  made := 0
  seed := .number (Float.ofNat (now / 1000000000))
  random := now
  code := 0

/-- carry out the assignments of the options -/
def assignOptions (o : Options) : Work Unit := do
  match o.separator with
  | some text => setGlobal "FS" (.text (plainText text.toList))
  | none => pure ()
  for text in o.assignments do
    match assignmentOf? text.toList with
    | some (name, v) => assignOutside name (.input (plainText v))
    | none => giveUp s!"improper assignment: -v {text}"

/-- a depth to which programs are nested -/
def depthLimit : Nat := 100000

/-- carry out the program of a text -/
def runProgram (programs : Programs) (o : Options) (text : List Char) (args : List String) :
    Activity Nat := do
  match readProgram text with
  | .error message => Tool.refuse "awk" message 2
  | .ok program =>
    let x : Frame := ⟨program, .ofList program.functions, programs, 0⟩
    let start := firstState ("awk" :: args) (← own).environment (← machine).disk.now
    let work : Work Unit := do
      assignOptions o
      performProgram x depthLimit
    let (outcome, s) ← (work.run).run start
    let code : Nat ← match outcome with
      | .error (.fault message) => do
        tell s!"awk: {message}\n"
        pure 2
      | _ => pure (s.code % 256).toNat
    closeAll s
    return code

end Records

namespace Tool

open Activity Records

/-- the contents of files with parts of a program, one after the other -/
def programText : List String → Activity (Except (String × DiskFault) (List Char))
  | [] => return .ok []
  | path :: rest => do
    match ← contentOf path with
    | .error f => return .error (path, f)
    | .ok cs =>
      match ← programText rest with
      | .error f => return .error f
      | .ok more => return .ok (cs ++ '\n' :: more)

def awk (programs : Programs) (args : List String) : Activity Nat := do
  match Records.readOptions (args.length + 1) args .none with
  | .error message => refuse "awk" message 2
  | .ok (o, rest) =>
    if o.showsVersion then
      Tool.say Records.version
      return 0
    if o.showsUsage then
      Tool.say Records.usage
      return 0
    if o.files.isEmpty then
      match rest with
      | [] =>
        tell Records.usage
        return 0
      | text :: operands => runProgram programs o text.toList operands
    else
      match ← programText o.files with
      | .error (path, f) => refuse "awk" ("cannot open \"" ++ path ++ "\" (" ++ f.message ++ ")") 2
      | .ok text => runProgram programs o text rest

end Tool

end PatternBuild.Shell
