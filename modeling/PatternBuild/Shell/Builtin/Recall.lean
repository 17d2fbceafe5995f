import PatternBuild.Shell.Builtin.Control

/-!
# Builtins for people at a terminal

A shell remembers commands, tells how its builtins are used, and lets its user stop it for a while.
A script gets little out of these builtins, but they answer.
-/

namespace PatternBuild.Shell

namespace Builtin

open Activity

/-! ## remembered commands -/

/-- a remembered command as it is listed -/
def remembered (n : Nat) (text : String) : String :=
  let number := toString n
  String.ofList (List.replicate (5 - number.length) ' ') ++ number ++ "  " ++ text ++ "\n"

/-- the remembered commands with their numbers -/
def numberedHistory (p : Process) : List (Nat × String) :=
  (List.range p.history.length).map (· + 1) |>.zip p.history

/-- the place of a remembered command that a number means; a negative one counts from the end -/
def historyPlace? (p : Process) (text : String) : Option Nat :=
  match Test.number text with
  | .ok n =>
    let place := if n < 0 then p.history.length + n else n - 1
    if 0 ≤ place && place < p.history.length then some place.toNat else none
  | .error _ => none

/-- a command in which two exclamation marks stand for the last one that is remembered -/
def withLast (p : Process) (text : String) : String :=
  (p.history.getLast?.getD "").intercalate (text.splitOn "!!")

/-- write the remembered commands to a file, or read some from it -/
def historyFile (letter : Char) (path : String) : Activity Nat := do
  let p ← own
  let d ← disk
  let lines := (p.history.map fun text => text.toList ++ ['\n']).flatten
  let stored := match d.read path with
    | .ok bytes => Text.ofBytes bytes
    | .error _ => []
  if letter == 'r' || letter == 'n' then
    let more := (Text.splitOn (· == '\n') stored).filter (!·.isEmpty)
    modifyOwn fun p => { p with history := p.history ++ more.map String.ofList }
    return if d.isFile path then 0 else 1
  match d.write path (Text.toBytes (if letter == 'a' then stored ++ lines else lines)) with
  | .ok d =>
    setDisk d
    return 0
  | .error f => refuse "history" s!"{path}: cannot create: {f.message}"

def history : Builtin := fun args =>
  withLetters "history" "acnprsw" "d" args fun l => do
    let p ← own
    let files := "anrw".toList.filter l.has
    if 1 < files.length then return ← refuse "history" "cannot use more than one of -anrw"
    if l.has 'c' then modifyOwn fun p => { p with history := [] }
    if l.has 's' then
      if !l.operands.isEmpty then
        modifyOwn fun p => { p with history := p.history ++ [" ".intercalate l.operands] }
      return 0
    if l.has 'p' then
      return ← sayFor "history" (String.join (l.operands.map fun a => withLast p a ++ "\n"))
    if let some text := l.value? 'd' then
      match historyPlace? p text with
      | some place =>
        modifyOwn fun p => { p with history := p.history.eraseIdx place }
        return 0
      | none => return ← refuse "history" s!"{text}: history position out of range"
    if let letter :: _ := files then
      match (l.operands.head?).or (← textOf? "HISTFILE") with
      | some path => return ← historyFile letter path
      | none => return 0
    if l.has 'c' then return 0
    let all := numberedHistory p
    let show_ (count : Nat) : Activity Nat :=
      sayFor "history" (String.join ((all.drop (all.length - count)).map fun (n, text) => remembered n text))
    if l.operands.isEmpty then show_ all.length
    else withCount "history" l.operands (pure 1) fun n => show_ n.natAbs

/-- list remembered commands: between two places, the last ones, or those from a text on -/
def listCommands (l : Letters) : Activity Nat := do
  let p ← own
  let all := numberedHistory p
  if all.isEmpty then return 0
  let size := all.length
  let place (text : String) : Option Nat :=
    match Test.number text with
    | .ok n => some (if n < 0 then (size + n + 1).toNat else min n.toNat size)
    | .error _ => (all.reverse.find? fun (_, t) => t.startsWith text).map (·.1)
  let bounds : Option (Nat × Nat) := match l.operands with
    | [] => some (size - 15, size)
    | [first] => (place first).map fun a => (a, size)
    | first :: last :: _ => (place first).bind fun a => (place last).map fun b => (a, b)
  match bounds with
  | none => refuse "fc" "no command found"
  | some (a, b) =>
    let found := all.filter fun (n, _) => min a b ≤ n && n ≤ max a b
    let found := if (b < a) != l.has 'r' then found.reverse else found
    sayFor "fc" (String.join (found.map fun (n, text) =>
      (if l.has 'n' then "" else toString n) ++ "\t " ++ text ++ "\n"))

/-- list remembered commands, or run one again with `again` -/
def fc (again : String → Activity Nat) : Builtin := fun args =>
  -- a number from the end on is no letter
  let isNumber (a : String) : Bool := match a.toList with
    | '-' :: c :: _ => c.isDigit
    | _ => false
  let (options, rest) := args.span (!isNumber ·)
  let args := if rest.isEmpty || options.contains "--" then args else options ++ "--" :: rest
  withLetters "fc" "lnrs" "e" args fun l => do
    if l.has 's' || l.value? 'e' = some "-" then
      let p ← own
      -- the command that asks is not meant
      let past := if p.isOn "history" then p.history.dropLast else p.history
      let (changes, rest) : List String × List String := l.operands.span (·.contains '=')
      let found : Option String := match rest with
        | text :: _ => past.reverse.find? fun (old : String) => old.startsWith text
        | [] => past.getLast?
      match found with
      | none => refuse "fc" "no command found"
      | some text =>
        let changed := changes.foldl (fun (text change : String) =>
          match change.splitOn "=" with
          | old :: new => ("=".intercalate new).intercalate (text.splitOn old)
          | [] => text) text
        tell (changed ++ "\n")
        again changed
    else if l.has 'l' then listCommands l
    else return 0

/-! ## the manual -/

/-- the topics of the manual whose names a text means -/
def topicsFor (text : String) : List Manual.Topic :=
  let pattern := Wildcard.read true (text.toList.map fun c => (c, false))
  let exact := Manual.topics.filter fun t => t.name = text || Wildcard.fits pattern t.name.toList
  if exact.isEmpty then Manual.topics.filter (·.name.startsWith text) else exact

/-- a topic as it is shown -/
def shownTopic (l : Letters) (t : Manual.Topic) : String :=
  if l.has 'd' then s!"{t.name} - {t.summary}\n"
  else if l.has 'm' then
    s!"NAME\n    {t.name} - {t.summary}\n\nSYNOPSIS\n    {t.synopsis}\n\nDESCRIPTION\n    {t.summary}\n"
  else if l.has 's' then s!"{t.name}: {t.synopsis}\n"
  else s!"{t.name}: {t.synopsis}\n    {t.summary}\n    \n"

/-- how topics are written, in two columns -/
def topicTable (disabled : List String) : String :=
  let all := Manual.topics.map fun t =>
    (if disabled.contains t.name then "*" else " ") ++ t.synopsis
  let height := (all.length + 1) / 2
  let cut (width : Nat) (text : String) : String :=
    if width < text.length then (text.take (width - 1)).toString ++ ">" else text
  let padded (text : String) : String := text ++ String.ofList (List.replicate (40 - text.length) ' ')
  let row (i : Nat) : String :=
    let left := cut 39 (all[i]?.getD "")
    match all[i + height]? with
    | some right => padded left ++ cut 38 right ++ "\n"
    | none => left ++ "\n"
  String.join ((List.range height).map row)

/-- what the manual says about itself -/
def manualHead : String :=
  "GNU bash, version 5.2.15(1)-release (x86_64-pc-linux-gnu)\n" ++
    "These shell commands are defined internally.  Type \x60help' to see this list.\n" ++
    "Type \x60help name' to find out more about the function \x60name'.\n" ++
    "Use \x60info bash' to find out more about the shell in general.\n" ++
    "Use \x60man -k' or \x60info' to find out more about commands not in this list.\n\n" ++
    "A star (*) next to a name means that the command is disabled.\n\n"

def help : Builtin := fun args =>
  withLetters "help" "dms" "" args fun l => do
    if l.operands.isEmpty then
      return ← sayFor "help" (manualHead ++ topicTable (← own).disabled)
    let isPattern := (l.operands.headD "").toList.any ("*?[".toList.contains ·) &&
      Wildcard.isActive true ((l.operands.headD "").toList.map fun c => (c, false))
    if isPattern then
      let ending := if 1 < l.operands.length then "s" else ""
      let patterns := ", ".intercalate l.operands
      say (s!"Shell commands matching keyword{ending} " ++ "\x60" ++ patterns ++ "'\n\n")
    let found := l.operands.flatMap topicsFor
    if found.isEmpty then
      let last := l.operands.getLastD ""
      return ← refuse "help" ("no help topics match \x60" ++ last ++ "'.  Try \x60help help' or \x60man -k " ++
        last ++ "' or \x60info " ++ last ++ "'.")
    sayFor "help" (String.join (found.map (shownTopic l)))

/-! ## the terminal -/

/-- bind keys, of which a script has none -/
def bind : Builtin := fun args => do
  Builtin.complain "bind" "warning: line editing not enabled"
  withLetters "bind" "lpsvPSVX" "mfqurx" args fun l => do
    match l.value? 'm', l.value? 'f' with
    | some keymap, _ =>
      if keymap.startsWith "vi" || keymap.startsWith "emacs" then return 0
      refuse "bind" ("\x60" ++ keymap ++ "': invalid keymap name")
    | none, some path =>
      if (← disk).isPresent path then return 0
      refuse "bind" s!"{path}: cannot read: No such file or directory"
    | none, none => return 0

/-- stop the shell for a while, which takes job control -/
def suspend : Builtin := fun args =>
  withLetters "suspend" "f" "" args fun l => do
    if !l.operands.isEmpty then
      Builtin.complain "suspend" "too many arguments"
      stop (.abandon 1)
    refuse "suspend" "cannot suspend: no job control"

/-- leave a shell that somebody logged in to -/
def logout : Builtin := fun _ => refuse "logout" "not login shell: use \x60exit'"

end Builtin

end PatternBuild.Shell
