import PatternBuild.Shell.Tool.Calendar
import PatternBuild.Shell.Tool.Calendar.Reading

/-!
# System: tools that tell about the system and its users
-/

namespace PatternBuild.Shell.Tool

open Activity

/-! ## date -/

/-- the formats of dates in the long form, and of those with a blank in front of the time -/
def longFormats : List (List String) := [["hours"], ["minutes"], ["date"], ["seconds"], ["ns"]]
def blankFormats : List (List String) := [["date"], ["seconds"], ["ns"]]

/-- the formats that the options of `date` stand for -/
def dateFormats (g : Given) : List String :=
  g.options.filterMap fun (name, value) => match name with
    | "R" => some "%a, %d %b %Y %H:%M:%S %z"
    | "rfc" => some (match choice? blankFormats value with
      | some "date" => "%Y-%m-%d"
      | some "ns" => "%Y-%m-%d %H:%M:%S.%N%:z"
      | _ => "%Y-%m-%d %H:%M:%S%:z")
    | "I" => some (match choice? longFormats value with
      | some "hours" => "%Y-%m-%dT%H%:z"
      | some "minutes" => "%Y-%m-%dT%H:%M%:z"
      | some "seconds" => "%Y-%m-%dT%H:%M:%S%:z"
      | some "ns" => "%Y-%m-%dT%H:%M:%S,%N%:z"
      | _ => "%Y-%m-%d")
    | "resolution" => some "%s.%N"
    | _ => none

/-- the moment that `date` is asked for -/
def dateMoment (g : Given) (zone : Calendar.Zone) (now : Int) : Activity (Except String Int) := do
  match g.value? "d", g.value? "r", g.value? "s" with
  | some text, _, _ =>
    match Calendar.readMomentIn? zone now text with
    | some t => return .ok t
    | none => return .error s!"invalid date {cited text}"
  | none, some path, _ =>
    match (← disk).stat path with
    | .ok (_, node) => return .ok ((← disk).modifiedOf node)
    | .error f => return .error s!"{shown path}: {f.message}"
  | none, none, some text =>
    match Calendar.readMomentIn? zone now text with
    | some t =>
      Tool.complain "date" "cannot set date: Operation not permitted"
      return .ok t
    | none => return .error s!"invalid date {cited text}"
  | none, none, none => return .ok (if g.has "resolution" then 1 else now)

/-- print the moments that the lines of a file write -/
def dateLines (zone : Calendar.Zone) (now : Int) (format : String) :
    List (List Char) → Nat → Activity Nat
  | [], code => pure code
  | line :: rest, code => do
    match Calendar.readMomentIn? zone now (String.ofList line) with
    | some t =>
      Tool.say (Calendar.formatIn zone t format ++ "\n")
      dateLines zone now format rest code
    | none =>
      Tool.complain "date" s!"invalid date {cited (String.ofList line)}"
      dateLines zone now format rest 1

def date (args : List String) : Activity Nat :=
  -- the value of `-I` follows it directly
  let args := args.map fun a =>
    if a.startsWith "-I" && 2 < a.length then "--iso-8601=" ++ String.ofList (a.toList.drop 2)
    else if a = "-I" then "--iso-8601" else a
  withOptions "date" (.of "uR" "dfrs" [("date", "d", .always), ("debug", "debug", .never),
    ("file", "f", .always), ("reference", "r", .always), ("resolution", "resolution", .never),
    ("utc", "u", .never), ("universal", "u", .never), ("uct", "u", .never), ("rfc-email", "R", .never),
    ("rfc-822", "R", .never), ("rfc-2822", "R", .never), ("rfc-3339", "rfc", .always),
    ("iso-8601", "I", .maybe), ("set", "s", .always)]) 1 args fun g => do
  let now := (← machine).disk.now
  let zone ← if g.has "u" then pure .utc else currentZone
  let wrongForm := g.options.find? fun (name, value) =>
    (name == "I" && value ≠ "" && (choice? longFormats value).isNone) ||
      (name == "rfc" && (choice? blankFormats value).isNone)
  let usual := dateFormats g
  let sources := ["d", "f", "r", "resolution"].filter g.has
  match wrongForm, usual, g.operands with
  | some ("I", value), _, _ => withChoice "date" "--iso-8601" longFormats 1 value fun _ => pure 1
  | some (_, value), _, _ => withChoice "date" "--rfc-3339" blankFormats 1 value fun _ => pure 1
  | none, _ :: _ :: _, _ => refuse "date" "multiple output formats specified" 1
  | none, usual, operands =>
    if 1 < sources.length then
      return ← misuse "date" "the options to specify dates for printing are mutually exclusive" 1
    if !sources.isEmpty && g.has "s" then
      return ← misuse "date" "the options to print and set the time may not be used together" 1
    let (given, others) := match operands with
      | a :: rest => if a.startsWith "+" then (some a, rest) else (none, a :: rest)
      | [] => (none, [])
    match given, others, usual with
    | some _, extra :: _, _ => extraOperand "date" extra 1
    | none, _ :: extra :: _, _ => extraOperand "date" extra 1
    | some _, [], _ :: _ => refuse "date" "multiple output formats specified" 1
    | none, [bad], _ =>
      if !sources.isEmpty || g.has "s" then
        Tool.complain "date" s!"the argument {quoted bad} lacks a leading '+';"
        tell "when using an option to specify date(s), any non-option\n"
        tell "argument must be a format string beginning with '+'\n"
        tryHelp "date"
        return 1
      else refuse "date" s!"invalid date {cited bad}" 1
    | given, _, usual =>
      let format := match given with
        | some a => String.ofList (a.toList.drop 1)
        | none => usual.headD "%a %b %e %H:%M:%S %Z %Y"
      match g.value? "f" with
      | some path =>
        match ← contentOf path with
        | .error f =>
          refuse "date" (if f = .isDir then s!"{shown path}: read error: {f.message}"
            else s!"{shown path}: {f.message}") 1
        | .ok cs => dateLines zone now format (linesOf cs) 0
      | none =>
        match ← dateMoment g zone now with
        | .error message => refuse "date" message 1
        | .ok t =>
          Tool.say (Calendar.formatIn zone t format ++ "\n")
          return if g.has "s" then 1 else 0

/-! ## users -/

def id (args : List String) : Activity Nat :=
  withOptions "id" (.of "agGnruzZ" "" [("group", "g", .never), ("groups", "G", .never),
    ("name", "n", .never), ("real", "r", .never), ("user", "u", .never), ("zero", "z", .never)]) 1 args
    fun g => do
  match g.operands.find? fun name => name ≠ "root" && name ≠ "0" with
  | some name => refuse "id" s!"{quoted name}: no such user" 1
  | none =>
    let kinds := ["u", "g", "G"].filter g.has
    match kinds with
    | [] =>
      if g.has "n" || g.has "r" then
        refuse "id" "cannot print only names or real IDs in default format" 1
      else
        Tool.say "uid=0(root) gid=0(root) groups=0(root)\n"
        return 0
    | [_] =>
      Tool.say ((if g.has "n" then "root" else "0") ++ if g.has "z" then "\x00" else "\n")
      return 0
    | _ => refuse "id" "cannot print \"only\" of more than one choice" 1

/-- a tool that prints one line -/
def fixedLine (program text : String) (args : List String) : Activity Nat :=
  withOptions program (.of "" "" []) 1 args fun g => do
  match g.operands with
  | extra :: _ => extraOperand program extra 1
  | [] =>
    Tool.say (text ++ "\n")
    return 0

def groups (args : List String) : Activity Nat := do
  for name in args do
    if name ≠ "root" then return ← refuse "groups" s!"{quoted name}: no such user" 1
  for name in args do Tool.say s!"{name} : root\n"
  if args.isEmpty then Tool.say "root\n"
  return 0

/-! ## machines -/

/-- what `uname` tells, by letter -/
def systemFacts : List (String × String) :=
  [("s", "Linux"), ("n", "localhost"), ("r", "5.15.0"), ("v", "#1 SMP"), ("m", "x86_64"),
    ("p", "x86_64"), ("i", "x86_64"), ("o", "GNU/Linux")]

def uname (args : List String) : Activity Nat :=
  withOptions "uname" (.of "asnrvmpio" "" [("all", "a", .never), ("kernel-name", "s", .never),
    ("nodename", "n", .never), ("kernel-release", "r", .never), ("kernel-version", "v", .never),
    ("machine", "m", .never), ("processor", "p", .never), ("hardware-platform", "i", .never),
    ("operating-system", "o", .never)]) 1 args fun g => do
  match g.operands with
  | extra :: _ => extraOperand "uname" extra 1
  | [] =>
    let chosen := systemFacts.filter fun (letter, _) =>
      g.has "a" || g.has letter || (g.options.isEmpty && letter = "s")
    Tool.say (" ".intercalate (chosen.map (·.2)) ++ "\n")
    return 0

def tty (args : List String) : Activity Nat :=
  withOptions "tty" (.of "s" "" [("silent", "s", .never), ("quiet", "s", .never)]) 2 args fun g => do
  if !g.has "s" then Tool.say "not a tty\n"
  return 1

def nproc (args : List String) : Activity Nat :=
  withOptions "nproc" (.of "" "" [("all", "all", .never), ("ignore", "ignore", .always)]) 1 args
    fun _ => do
  Tool.say "1\n"
  return 0

end PatternBuild.Shell.Tool
