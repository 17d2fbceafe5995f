import PatternBuild.Shell.Builtin.Directories
import PatternBuild.Shell.Mode

/-!
# Limits of a shell

The mask tells the bits that new files do not get.  Every resource has a limit that counts, and one up to
which that can be raised.
-/

namespace PatternBuild.Shell

namespace Builtin

open Activity

/-! ## masks -/

/-- the permissions that a mask allows after changes in letters, or the character at fault and what it
should be; `who` and the rest of the text stand at the start of a change -/
def changedWidely : Nat → List Char → Nat → Except (Char × String) Nat
  | 0, _, allowed => .ok allowed
  | n + 1, cs, allowed =>
    let users := cs.takeWhile "agou".toList.contains
    match cs.drop users.length with
    | [] => .error ('\x00', "operator")
    | op :: cs =>
      if !"+-=".toList.contains op then .error (op, "operator")
      else
        let letters := cs.takeWhile "rwx".toList.contains
        let scope := if users.isEmpty then 0o777 else Mode.usersBits users &&& 0o777
        let bits := Mode.permissionBits 0 false letters &&& scope
        let allowed := match op with
          | '+' => allowed ||| bits
          | '-' => Mode.without allowed bits
          | _ => Mode.without allowed scope ||| bits
        match cs.drop letters.length with
        | [] => .ok allowed
        | ',' :: rest => changedWidely n rest allowed
        | c :: _ => .error (c, "character")

/-- the permissions that a mask of the plain language allows after changes in letters; each part of a
text starts with the users of the part before if a comma does not come between -/
def changedPlainly (start : Nat) : Nat → List Char → List Char → Nat → Option Nat
  | 0, _, _, allowed => some allowed
  | _ + 1, _, [], allowed => some allowed
  | n + 1, users, cs, allowed =>
    let more := cs.takeWhile "augo".toList.contains
    let users := users ++ more
    match cs.drop more.length with
    | [] => some allowed
    | op :: cs =>
      if !"+-=".toList.contains op then none
      else
        let letters := cs.takeWhile "rwxugoXs".toList.contains
        let scope := if users.isEmpty then 0o777 else Mode.usersBits users &&& 0o777
        let bits := Mode.permissionBits start false letters &&& scope
        let allowed := match op with
          | '+' => allowed ||| bits
          | '-' => Mode.without allowed bits
          | _ => Mode.without allowed scope ||| bits
        match cs.drop letters.length with
        | ',' :: rest => changedPlainly start n [] rest allowed
        | [] => some allowed
        | c :: rest => if "+-=".toList.contains c then changedPlainly start n users (c :: rest) allowed else none

/-- set the mask to what a text writes -/
def setMask (text : String) : Activity (Except String Nat) := do
  let p ← own
  let cs := text.toList
  let allowed := Mode.without 0o777 p.mask
  if cs.head?.any Char.isDigit then
    match p.isExtended, numeral? 8 cs with
    | false, some n => return .ok (n % 0o1000)
    | false, none => return .error s!"Illegal number: {text}"
    | true, some n => return if n ≤ 0o7777 then .ok (n % 0o1000) else .error s!"{text}: octal number out of range"
    | true, none => return .error s!"{text}: octal number out of range"
  else if p.isExtended then
    match changedWidely (cs.length + 1) cs allowed with
    | .ok new => return .ok (Mode.without 0o777 new)
    | .error (c, what) => return .error s!"\x60{c}': invalid symbolic mode {what}"
  else
    match changedPlainly allowed (cs.length + 1) [] cs allowed with
    | some new => return .ok (Mode.without 0o777 new)
    | none => return .error s!"Illegal mode: {text}"

def umask : Builtin := fun args => do
  withLetters "umask" (if (← own).isExtended then "Sp" else "S") "" args fun l => do
    let p ← own
    match l.operands with
    | [] =>
      let shown := if l.has 'S' then Mode.symbolic (Mode.without 0o777 p.mask) else Mode.octal 4 p.mask
      let start := if !l.has 'p' then "" else if l.has 'S' then "umask -S " else "umask "
      sayFor "umask" (start ++ shown ++ "\n")
    | text :: _ =>
      match ← setMask text with
      | .ok mask =>
        modifyOwn fun p => { p with mask }
        if p.isExtended && l.has 'S' then
          return ← sayFor "umask" (Mode.symbolic (Mode.without 0o777 mask) ++ "\n")
        return 0
      | .error message => refuse "umask" message

/-! ## resources -/

/-- a resource of which a process may use so much -/
structure Resource where
  letter : Char
  description : String
  /-- what it is counted in, if that is told, and how much of what is kept that is -/
  unit : String
  factor : Nat
  /-- the limit that counts and the one up to which it can be raised, at the start -/
  limit : Limit

def endlessly : Limit := ⟨none, none⟩

/-- the resources that the language with extensions lists -/
def resources : List Resource :=
  [⟨'R', "real-time non-blocking time", "microseconds", 1, endlessly⟩,
    ⟨'c', "core file size", "blocks", 1024, endlessly⟩,
    ⟨'d', "data seg size", "kbytes", 1, endlessly⟩,
    ⟨'e', "scheduling priority", "", 1, ⟨some 0, some 0⟩⟩,
    ⟨'f', "file size", "blocks", 1024, endlessly⟩,
    ⟨'i', "pending signals", "", 1, ⟨some 127234, some 127234⟩⟩,
    ⟨'l', "max locked memory", "kbytes", 1, ⟨some 8192, some 8192⟩⟩,
    ⟨'m', "max memory size", "kbytes", 1, endlessly⟩,
    ⟨'n', "open files", "", 1, ⟨some 1048576, some 1048576⟩⟩,
    ⟨'p', "pipe size", "512 bytes", 1, ⟨some 8, some 8⟩⟩,
    ⟨'q', "POSIX message queues", "bytes", 1, ⟨some 819200, some 819200⟩⟩,
    ⟨'r', "real-time priority", "", 1, ⟨some 0, some 0⟩⟩,
    ⟨'s', "stack size", "kbytes", 1, ⟨some 8192, none⟩⟩,
    ⟨'t', "cpu time", "seconds", 1, endlessly⟩,
    ⟨'u', "max user processes", "", 1, endlessly⟩,
    ⟨'v', "virtual memory", "kbytes", 1, endlessly⟩,
    ⟨'x', "file locks", "", 1, endlessly⟩]

/-- the resources that the plain language lists: each with its description and its letter among the others -/
def plainResources : List (Char × String × Char × Nat) :=
  [('t', "time(seconds)", 't', 1), ('f', "file(blocks)", 'f', 512), ('d', "data(kbytes)", 'd', 1),
    ('s', "stack(kbytes)", 's', 1), ('c', "coredump(blocks)", 'c', 512), ('m', "memory(kbytes)", 'm', 1),
    ('l', "locked memory(kbytes)", 'l', 1), ('p', "process", 'u', 1), ('n', "nofiles", 'n', 1),
    ('v', "vmemory(kbytes)", 'v', 1), ('w', "locks", 'x', 1), ('r', "rtprio", 'r', 1)]

/-- the limit of a resource -/
def limitOf (p : Process) (letter : Char) : Limit :=
  (p.limits.lookup letter).getD ((resources.find? (·.letter == letter)).map (·.limit) |>.getD endlessly)

/-- a limit as it is shown -/
def limitText (factor : Nat) : Option Nat → String
  | none => "unlimited"
  | some n => toString (n / factor)

/-- whether a limit is below another or the same -/
def isWithin : Option Nat → Option Nat → Bool
  | _, none => true
  | none, some _ => false
  | some a, some b => a ≤ b

/-- set a limit; the fault tells why that cannot be -/
def setLimit (letter : Char) (isSoft isHard : Bool) (value : Option Nat) : Activity (Option String) := do
  let p ← own
  let old := limitOf p letter
  let new : Limit := ⟨if isSoft then value else old.soft, if isHard then value else old.hard⟩
  if !isWithin new.soft new.hard then return some "Invalid argument"
  if !isWithin new.hard old.hard then return some "Operation not permitted"
  modifyOwn fun p => { p with limits := (letter, new) :: p.limits.filter (·.1 ≠ letter) }
  return none

/-- limits of the plain language -/
def plainUlimit : Builtin := fun args =>
  withLetters "ulimit" "HSatfdscmlpnvwr" "" args fun l => do
    let letters := l.found.map (·.1)
    let how := (letters.filter fun c => c == 'H' || c == 'S').getLast?
    let what := ((letters.filter fun c => !"HSa".toList.contains c).getLast?).getD 'f'
    let p ← own
    let shown (inner : Char) (factor : Nat) : String :=
      let limit := limitOf p inner
      limitText factor (if how == some 'H' then limit.hard else limit.soft)
    if l.has 'a' && l.operands.isEmpty then
      for (_, text, inner, factor) in plainResources do
        let gap := String.ofList (List.replicate (20 - text.length) ' ')
        say (text ++ gap ++ " " ++ shown inner factor ++ "\n")
      return 0
    match (plainResources.find? (·.1 == what)), l.operands with
    | some (_, _, inner, factor), [] =>
      say (shown inner factor ++ "\n")
      return 0
    | some (_, _, inner, factor), [text] =>
      if l.has 'a' then return ← refuse "ulimit" "too many arguments"
      let value? : Option (Option Nat) := if text = "unlimited" then some none
        else if text = "" then some (some 0) else (numeral? 10 text.toList).map fun n => some (n * factor)
      match value? with
      | none => refuse "ulimit" "bad number"
      | some value =>
        match ← setLimit inner (how != some 'H') (how != some 'S') value with
        | none => return 0
        | some reason => refuse "ulimit" s!"error setting limit ({reason})"
    | _, _ => refuse "ulimit" "too many arguments"

/-- what is asked about limits: letters, each with a new value perhaps -/
structure LimitRequest where
  hasAll : Bool
  isSoft : Bool
  isHard : Bool
  asked : List (Char × Option String)
  rest : List String

/-- read what is asked about limits; a letter takes the rest of its word, or the next word if that is no
option; the fault is an unknown letter -/
def readLimitRequest : Nat → List String → LimitRequest → Except Char LimitRequest
  | 0, _, r => .ok r
  | n + 1, args, r =>
    match args with
    | [] => .ok r
    | "--" :: rest => .ok { r with rest }
    | a :: rest =>
      match a.toList with
      | '-' :: c :: cs => word n (c :: cs) rest r
      | _ => .ok { r with rest := a :: rest }
where
  word (n : Nat) : List Char → List String → LimitRequest → Except Char LimitRequest
    | [], rest, r => readLimitRequest n rest r
    | 'a' :: cs, rest, r => word n cs rest { r with hasAll := true }
    | 'S' :: cs, rest, r => word n cs rest { r with isSoft := true }
    | 'H' :: cs, rest, r => word n cs rest { r with isHard := true }
    | c :: cs, rest, r =>
      if !(resources.any (·.letter == c)) && !"bkPT".toList.contains c then .error c
      else if !cs.isEmpty then
        readLimitRequest n rest { r with asked := r.asked ++ [(c, some (String.ofList cs))] }
      else
        match rest with
        | value :: more =>
          if value = "-" || !value.startsWith "-" then
            readLimitRequest n more { r with asked := r.asked ++ [(c, some value)] }
          else readLimitRequest n rest { r with asked := r.asked ++ [(c, none)] }
        | [] => .ok { r with asked := r.asked ++ [(c, none)] }

/-- a limit with its description -/
def describedLimit (r : Resource) (value : Option Nat) : String :=
  let unit := if r.unit = "" then s!"(-{r.letter}) " else s!"({r.unit}, -{r.letter}) "
  let gap (width : Nat) (text : String) : String := String.ofList (List.replicate (width - text.length) ' ')
  r.description ++ gap 20 r.description ++ " " ++ gap 20 unit ++ unit ++ limitText r.factor value ++ "\n"

/-- show a limit, or set it -/
def treatLimit (q : LimitRequest) (isOneOfMany : Bool) (letter : Char) (value : Option String) : Activity Nat := do
  match resources.find? (·.letter == letter) with
  | none =>
    Builtin.complain "ulimit" s!"\x60{letter}': bad command"
    return 2
  | some r =>
    let old := limitOf (← own) letter
    match value with
    | none =>
      let shown := if q.isHard && !q.isSoft then old.hard else old.soft
      sayFor "ulimit" (if isOneOfMany then describedLimit r shown else limitText r.factor shown ++ "\n")
    | some text =>
      let value? : Option (Option Nat) :=
        if text = "hard" then some old.hard
        else if text = "soft" then some old.soft
        else if text = "unlimited" then some none
        else (numeral? 10 text.toList).map fun n => some (n * r.factor)
      match value? with
      | none => refuse "ulimit" (invalidCount text)
      | some value =>
        let isBoth := q.isSoft == q.isHard
        match ← setLimit letter (isBoth || q.isSoft) (isBoth || q.isHard) value with
        | none => return 0
        | some reason => refuse "ulimit" s!"{r.description}: cannot modify limit: {reason}"

/-- treat limits one after the other, up to the first fault -/
def treatLimits (q : LimitRequest) (isOneOfMany : Bool) : List (Char × Option String) → Activity Nat
  | [] => return 0
  | (letter, value) :: rest => do
    let code ← treatLimit q isOneOfMany letter value
    if code ≠ 0 then return code
    treatLimits q isOneOfMany rest

def wideUlimit : Builtin := fun args => do
  match readLimitRequest (args.length + 1) args ⟨false, false, false, [], []⟩ with
  | .error c =>
    Builtin.complain "ulimit" s!"-{c}: invalid option"
    misuseOf "ulimit"
  | .ok q =>
    if q.hasAll then
      let p ← own
      for r in resources do
        let limit := limitOf p r.letter
        say (describedLimit r (if q.isHard && !q.isSoft then limit.hard else limit.soft))
      return 0
    let asked := if q.asked.isEmpty then [('f', q.rest.head?)] else q.asked
    treatLimits q (1 < asked.length) asked

def ulimit : Builtin := fun args => do
  if (← own).isExtended then wideUlimit args else plainUlimit args

end Builtin

end PatternBuild.Shell
