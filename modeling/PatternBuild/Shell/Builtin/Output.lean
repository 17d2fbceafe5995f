import PatternBuild.Shell.Builtin.Basic
import PatternBuild.Shell.Format
import PatternBuild.Shell.Test
import PatternBuild.Shell.Tool.Calendar

/-!
# Builtins that print or decide
-/

namespace PatternBuild.Shell

open Text

namespace Builtin

open Activity

/-! ## echo -/

/-- whether a word is one of the options of `echo` -/
def isEchoOption (text : String) : Bool :=
  match text.toList with
  | '-' :: c :: cs => (c :: cs).all ("neE".toList.contains ·)
  | _ => false

/-- what `echo` prints: with `reads` escapes are read, and one of them ends the output -/
def echoText (reads : Option EscapeRules) (isEnded : Bool) (args : List String) : List Char :=
  let text := (" ".intercalate args).toList
  match reads with
  | none => text ++ if isEnded then ['\n'] else []
  | some rules =>
    let (text, stops) := unescape rules text
    text ++ if isEnded && !stops then ['\n'] else []

/-- what `echo` with options prints; escapes may be read even if no option says so -/
def wideEchoText (readsAnyway : Bool) (args : List String) : List Char :=
  let options := args.takeWhile isEchoOption
  let letters := (options.map fun a => a.toList.drop 1).flatten
  let reads := ((letters.filter (· ≠ 'n')).getLast?.map (· == 'e')).getD readsAnyway
  echoText (if reads then some .extendedEcho else none) (!letters.contains 'n')
    (args.drop options.length)

def echo : Builtin := fun args => do
  let p ← own
  if p.isExtended then sayFor "echo" (String.ofList (wideEchoText (p.isOn "xpg_echo") args))
  else
    let (isEnded, args) := match args with
      | "-n" :: rest => (false, rest)
      | args => (true, args)
    sayFor "echo" (String.ofList (echoText (some .plainEcho) isEnded args))

/-! ## printf -/

/-- how the plain language prints by formats -/
def plainRules : FormatRules where
  formatEscapes := .plainFormat
  argumentEscapes := .plainEcho
  flags := "#-+ 0".toList
  bits := 53
  refusesEmpty := false
  allowsSizes := false
  quote := none
  clock := none
  count := none
  problem := fun text p => match p with
    | .noNumber => s!"{text}: expected numeric value"
    | .notComplete => s!"{text}: not completely converted"
    | .outOfRange => s!"{text}: Numerical result out of range"
  missing := fun _ => "missing format character"
  invalid := fun _ written => s!"{written}: invalid directive"
  wrongClock := fun _ => ""
  lacking := none

/-- the complaint about a text that is no number -/
def invalidNumber (text : String) : String :=
  let kind := match text.toList with
    | '0' :: c :: _ => if c.isDigit then "octal " else if c == 'x' then "hex " else ""
    | _ => ""
  s!"{text}: invalid {kind}number"

/-- how the language with extensions prints by formats, in a zone at a moment -/
def wideRules (zone : Calendar.Zone) (now : Nat) : FormatRules where
  formatEscapes := .extendedFormat
  argumentEscapes := .extendedArgument
  flags := allFlags
  bits := 64
  refusesEmpty := false
  allowsSizes := true
  quote := some withBackslashes
  clock := some fun format moment =>
    Calendar.plainFormatIn zone ((moment.map (· * Calendar.oneSecond)).getD now) format
  count := some fun name =>
    if isName name.toList then none else some s!"\x60{name}': not a valid identifier"
  problem := fun text p => match p with
    | .outOfRange => s!"warning: {text}: Numerical result out of range"
    | _ => invalidNumber text
  missing := fun written => s!"\x60{written}': missing format character"
  invalid := fun c _ => s!"\x60{c}': invalid format character"
  wrongClock := fun c => match c with
    | some c => s!"warning: \x60{c}': invalid time format specification"
    | none => "warning: \x60': invalid time format specification"
  lacking := some fun c => if c == 'x' then "missing hex digit for \\x"
    else s!"missing unicode digit for \\{c}"

/-- how the current shell prints by formats -/
def formatRules : Activity FormatRules := do
  if !(← own).isExtended then return plainRules
  let zone := Calendar.Zone.ofText? ((← own).exported.lookup "TZ")
  return wideRules zone (← machine).disk.now

/-- put a text into a variable or an item of one -/
def assignText (target text : String) : Activity Nat := do
  let (name, index) := Expansion.namedBy target
  match index with
  | some [.plain i] =>
    assignItem name (← keyOf name i) false text
    return 0
  | some _ => refuse "printf" s!"\x60{target}': not a valid identifier"
  | none =>
    assign name text
    return 0

/-- whether a text names a variable or an item of one -/
def isTarget (target : String) : Bool :=
  let (name, index) := Expansion.namedBy target
  isName name.toList && match index with
    | some [.plain i] => i ≠ ""
    | some _ => false
    | none => true

/-- print by a format, or put the text into a variable -/
def printf : Builtin := fun args => do
  let isExtended := (← own).isExtended
  let usage := "printf: usage: printf [-v var] format [arguments]"
  match lettersUpTo "" (if isExtended then "v" else "") (args.length + 1) args with
  | .error c =>
    if isExtended then
      Builtin.complain "printf" s!"-{c}: invalid option"
      misuse usage
    else refuse "printf" s!"Illegal option -{c}"
  | .ok l =>
    let target := l.value? 'v'
    if l.has 'v' && target.isNone then
      Builtin.complain "printf" "-v: option requires an argument"
      return ← misuse usage
    if !(target.map isTarget).getD true then
      Builtin.complain "printf" ("\x60" ++ target.getD "" ++ "': not a valid identifier")
      return 2
    match l.operands with
    | [] => if isExtended then misuse usage else refuse "printf" "usage: printf format [arg ...]"
    | format :: rest => do
      let (text, p) := Format.print (← formatRules) format rest
      for (c, _) in p.complaints do Builtin.complain "printf" c
      for (name, n) in p.counted do assign name (toString n)
      let isWarned := p.complaints.all fun (c, _) => isExtended && (c.startsWith "warning" || c.startsWith "missing")
      let code ← match target with
        | none => sayFor "printf" (String.ofList text)
        | some target => assignText target (String.ofList text)
      if p.isMisused then return if isExtended then 1 else 2
      return if isWarned then code else 1

/-! ## conditions -/

/-- what conditions can ask about -/
def facts : Activity Test.Facts := do
  let p ← own
  return {
    isExtended := p.isExtended
    disk := ← disk
    hasValue := fun name =>
      let (name, index) := Expansion.namedBy name
      match (p.boundTo? name).bind (·.value), index with
      | some v, some [.plain "@"] => !v.items.isEmpty
      | some v, some [.plain i] => (v.get? i).isSome
      | some v, _ => v.text?.isSome
      | none, _ => match name.toNat? with
        | some n => n = 0 || n ≤ p.args.length
        | none => false
    isOptionOn := p.isOptionOn }

/-- decide a condition; the code is 0 if it holds, 1 if not and 2 if it is none -/
def decideAs (name : String) : Builtin := fun args => do
  match Test.holds (← facts) args with
  | .ok true => return 0
  | .ok false => return 1
  | .error f =>
    Builtin.complain name (f.message (← own).isExtended)
    return 2

def test : Builtin := decideAs "test"

/-- a condition up to a closing bracket -/
def bracket : Builtin := fun args => do
  if args.getLast? = some "]" then decideAs "[" args.dropLast
  else
    Builtin.complain "[" (if (← own).isExtended then "missing \x60]'" else "missing ]")
    return 2

end Builtin

end PatternBuild.Shell
