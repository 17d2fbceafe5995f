import PatternBuild.Shell.Activity
import PatternBuild.Shell.Arithmetic

/-!
# Variables

A variable holds a text or an array.  Assignments keep its marks: one that is read only refuses, one
that holds numbers computes what it is given, and one that refers to another passes it on.
-/

namespace PatternBuild.Shell

/-! ## values -/

/-- the number of a name in tables of names, by its octets -/
def nameNumber (name : String) : Nat :=
  let mixed : UInt32 := name.toList.foldl (fun h c => (h * 16777619) ^^^ c.toNat.toUInt32) 2166136261
  mixed.toNat

/-- a bucket of a table of names -/
def nameBucket (name : String) : Nat := nameNumber name % 1024

/-- put an item into a list that ascends by numbers -/
def insertItem (n : Nat) (text : String) : List (Nat × String) → List (Nat × String)
  | [] => [(n, text)]
  | (m, old) :: items =>
    if n < m then (n, text) :: (m, old) :: items
    else if n = m then (n, text) :: items
    else (m, old) :: insertItem n text items

/-- items without a number, counted from one on -/
def numbered (start : Nat) (texts : List String) : List (Nat × String) :=
  (List.range texts.length).zip texts |>.map fun (i, text) => (start + i, text)

namespace Value

/-- the items with their keys, in the order in which they are shown -/
def items : Value → List (String × String)
  | .text s => [("0", s)]
  | .indexed items => items.map fun (n, s) => (toString n, s)
  | .keyed items => items.reverse.mergeSort fun a b => nameBucket a.1 ≤ nameBucket b.1

/-- the item with the given key -/
def get? (v : Value) (key : String) : Option String := v.items.lookup key

/-- the value without a key -/
def text? (v : Value) : Option String := v.get? "0"

/-- put an item in place; the key of an array with numbers is one -/
def put (v : Option Value) (key text : String) : Value :=
  match v with
  | some (.keyed items) =>
    if items.any (·.1 = key) then
      .keyed (items.map fun (k, old) => if k = key then (k, text) else (k, old))
    else .keyed (items ++ [(key, text)])
  | some (.indexed items) => .indexed (insertItem (key.toNat?.getD 0) text items)
  | some (.text old) =>
    if key = "0" then .text text
    else .indexed (insertItem (key.toNat?.getD 0) text [(0, old)])
  | none => .indexed [(key.toNat?.getD 0, text)]

/-- put the text without a key in place -/
def putText (v : Option Value) (text : String) : Value :=
  match v with
  | some (.keyed items) => put (some (.keyed items)) "0" text
  | some (.indexed items) => .indexed (insertItem 0 text items)
  | _ => .text text

/-- take an item away -/
def erase (v : Value) (key : String) : Value :=
  match v with
  | .keyed items => .keyed (items.filter (·.1 ≠ key))
  | .indexed items => .indexed (items.filter fun (n, _) => toString n ≠ key)
  | .text s => .text s

def isArray : Value → Bool
  | .text _ => false
  | _ => true

def isKeyed : Value → Bool
  | .keyed _ => true
  | _ => false

end Value

/-- a character in other letters -/
def LetterChange.apply (change : LetterChange) (isFirst : Bool) (c : Char) : Char :=
  match change with
  | .upper => c.toUpper
  | .lower => c.toLower
  | .swapped => if c.isUpper then c.toLower else c.toUpper
  | .capital => if isFirst then c.toUpper else c.toLower

/-- a text in other letters -/
def inLetters (change : LetterChange) (text : String) : String :=
  match text.toList with
  | c :: cs => String.ofList (change.apply true c :: cs.map (change.apply false))
  | [] => ""

/-! ## names -/

namespace Process

/-- the name that a name leads to, by at most eight references -/
def meant (p : Process) (name : String) : Nat → String
  | 0 => name
  | n + 1 =>
    match p.bindings.get? name with
    | some v =>
      match v.isReference, v.value with
      | true, some (.text other) => p.meant other n
      | _, _ => name
    | none => name

/-- the most references that are followed -/
def maxReferences : Nat := 8

def boundTo? (p : Process) (name : String) : Option Variable :=
  p.bindings.get? (p.meant name maxReferences)

/-- a process with a variable in place, which keeps its age -/
def bind (p : Process) (name : String) (v : Variable) : Process :=
  -- programs are looked up anew when the directories change
  let p := if name = "PATH" then { p with known := [] } else p
  match p.bindings.get? name with
  | some old => { p with bindings := p.bindings.insert name { v with age := old.age } }
  | none =>
    { p with bindings := p.bindings.insert name { v with age := p.births }, births := p.births + 1 }

/-- a process with a variable that programs see -/
def bindExported (p : Process) (name text : String) : Process := p.bind name (.exported text)

/-- the bucket of a variable in the plain language: programs see the variables bucket by bucket -/
def plainBucket (name : String) : Nat :=
  let octets := name.toList.map Char.toNat
  octets.foldl (· + ·) (octets.headD 0 * 16) % 39

/-- the start and end of the name of a variable that hands a function down -/
def functionStart : String := "BASH_FUNC_"
def functionEnd : String := "%%"

/-- the name of the variable that hands a function down -/
def functionVariable (name : String) : String := functionStart ++ name ++ functionEnd

/-- the variables that programs see, in the order in which they see them -/
def exported (p : Process) : List (String × String) :=
  let found : List (String × Variable × String) := p.bindings.entries.filterMap fun (name, v) =>
    match v.isExported, v.value with
    | true, some (.text text) => some (name, v, text)
    | _, _ => none
  let bucket := if p.isExtended then nameBucket else plainBucket
  let byAge := found.mergeSort fun a b =>
    if p.isExtended then b.2.1.age ≤ a.2.1.age else a.2.1.age ≤ b.2.1.age
  let texts := (byAge.mergeSort fun a b => bucket a.1 ≤ bucket b.1).map fun (name, _, text) => (name, text)
  texts ++ (p.functions.filter (·.isExported)).map fun f => (functionVariable f.name, f.handedDown)

end Process

namespace Activity

/-! ## reading -/

/-- the number after a seed, in a sequence of seeds -/
def seedAfter (seed : Nat) : Nat :=
  let seed := if seed = 0 then 123459876 else seed
  let t : Int := 16807 * (seed % 127773 : Nat) - 2836 * (seed / 127773 : Nat)
  if t < 0 then (t + 2147483647).toNat else t.toNat

/-- the random number of a seed -/
def randomOf (seed : Nat) : Nat := ((seed / 65536) ^^^ (seed % 65536)) &&& 32767

/-- the seed and the random number that come next; a number is never given twice in a row -/
def nextRandom (seed : Nat) (last : Option Nat) : Nat × Nat :=
  let next := seedAfter seed
  if last = some (randomOf next) then
    let next := seedAfter next
    (next, randomOf next)
  else (next, randomOf next)

/-- a directory as it is shown: the home directory has a short name -/
def shortened (home : Option String) (path : String) : String :=
  match home with
  | some h =>
    if path = h then "~"
    else if h ≠ "" && path.startsWith (h ++ "/") then "~" ++ String.ofList (path.toList.drop h.length)
    else path
  | none => path

/-- the arguments of the functions and files that are running, the innermost first; without a record of
them, those of the script alone -/
def recordedArgs (p : Process) : List (List String) :=
  if p.settings.contains "extdebug" then p.args :: p.running.map (·.outerArgs)
  else [(p.running.getLast?.map (·.outerArgs)).getD p.args]

/-- the value of a variable that is an array whose items are made when they are read -/
def liveItems? (p : Process) (name : String) : Option Value :=
  let texts (found : List String) : Option Value := some (.indexed (numbered 0 found))
  match name with
  | "PIPESTATUS" => texts (p.pipeCodes.map toString)
  | "FUNCNAME" => if p.calledFunctions.isEmpty then none else texts (p.callStack.map (·.name))
  | "BASH_SOURCE" => texts (p.callStack.map (·.source))
  | "BASH_LINENO" => texts (p.callStack.map (toString ·.line))
  | "BASH_ARGC" => texts ((recordedArgs p).map (toString ·.length))
  | "BASH_ARGV" => texts ((recordedArgs p).flatMap List.reverse)
  | "BASH_ALIASES" => some (.keyed p.aliases)
  | "BASH_CMDS" => some (.keyed (p.known.map fun k => (k.name, k.path)))
  | "GROUPS" => texts ["0"]
  | "DIRSTACK" =>
    let home := (p.bindings.get? "HOME").bind (·.value) |>.bind (·.text?)
    texts ((p.pwd :: p.stack).map (shortened home))
  | _ => none

/-- characters that end a word that is completed -/
def wordBreaks : String := " \t\n\"'@><=;|&(:"

/-- the text of a variable whose value is made when it is read; `old` is the text that it had -/
def liveText? (name : String) (old : Option String) : Activity (Option String) := do
  let s ← get
  let p := s.own
  let now := s.machine.disk.now
  match name with
  | "LINENO" => return some (toString p.line)
  | "RANDOM" =>
    let (seed, n) := nextRandom p.random p.lastRandom
    modifyOwn fun p => { p with random := seed, lastRandom := some n }
    return some (toString n)
  | "SRANDOM" =>
    let octets ← randomOctets 4
    return some (toString (octets.foldl (fun n c => n * 256 + c.toNat) 0))
  | "SECONDS" => return some (toString ((now - p.started) / 1000000000))
  | "EPOCHSECONDS" => return some (toString (now / 1000000000))
  | "EPOCHREALTIME" =>
    let micros := toString (now / 1000 % 1000000)
    let zeros := String.ofList (List.replicate (6 - micros.length) '0')
    return some (toString (now / 1000000000) ++ "." ++ zeros ++ micros)
  | "BASHPID" => return some (toString p.number)
  | "BASH_ARGV0" => return some p.name
  | "_" => return some p.lastArg
  | "BASH_COMMAND" => return some p.current
  | "BASH_SUBSHELL" => return some (toString p.depth)
  | "HISTCMD" => return some (toString p.history.length)
  | "COMP_WORDBREAKS" => return some (old.getD wordBreaks)
  | _ => return none

/-- the value of a variable that is made when it is read; a text is kept as the value that it had last -/
def liveValue? (name : String) (v : Variable) : Activity (Option Value) := do
  match ← liveText? name (v.value.bind (·.text?)) with
  | some text =>
    modifyOwn fun p => p.bind name { v with value := some (.text text) }
    return some (.text text)
  | none =>
    let items := liveItems? (← own) name
    modifyOwn fun p => p.bind name { v with value := items.or v.value }
    return items

/-- the variables as they are listed; arrays that tell of the running functions are always up to date -/
def listedVariables : Activity (List (String × Variable)) := do
  let p ← own
  let isLate (name : String) : Bool := ["DIRSTACK", "GROUPS", "BASH_ARGC", "BASH_ARGV"].contains name
  return p.bindings.entries.map fun (name, v) =>
    if !v.isLive || isLate name then (name, v)
    else if name = "_" then (name, { v with value := some (.text p.lastArg) })
    else match liveItems? p name with
      | some value => (name, { v with value := some value, isBare := false })
      | none => (name, v)

/-- the value of a variable, which may be an array -/
def valueOf? (name : String) : Activity (Option Value) := do
  let p ← own
  let name := p.meant name Process.maxReferences
  match p.bindings.get? name with
  | some v => if v.isLive then liveValue? name v else return v.value
  | none => return none

/-- the text of a variable -/
def textOf? (name : String) : Activity (Option String) := do
  return (← valueOf? name).bind (·.text?)

/-! ## assigning -/

/-- refuse to change a variable -/
def refuseChange {α : Type} (name : String) : Activity α := do
  let p ← own
  if p.isExtended && p.options.exitOnError then
    complain s!"{name}: readonly variable"
    stop (.exit 1)
  giveUp (if p.isExtended then s!"{name}: readonly variable" else s!"{name}: is read only")

/-- the variable that an assignment changes, with its name -/
def changeable (name : String) : Activity (String × Variable) := do
  let p ← own
  let name := p.meant name Process.maxReferences
  let v := (p.bindings.get? name).getD .none
  if v.isReadOnly then refuseChange name
  return (name, v)

/-- refuse a text that cannot be the number of the next option in the plain language -/
def refuseIndex (text : String) : Activity Unit := do
  let isNumber := match numeral? 10 (text.toList.dropWhile Text.isBlank) with
    | some n => n < 2147483648
    | none => false
  if !isNumber then giveUp s!"Illegal number: {text}"

/-- put a changed variable in place -/
def putVariable (name : String) (v : Variable) : Activity Unit := do
  if name = "OPTIND" && !(← own).isExtended then refuseIndex ((v.value.bind (·.text?)).getD "")
  modifyOwn fun p =>
    let p := if name = "OPTIND" then { p with optionOffset := 0 } else p
    p.bind name { v with isBare := false, isExported := v.isExported || p.options.exportAll }

/-- the number at the start of a text; zero if there is none -/
def leadingNumber (text : String) : Int :=
  let cs := text.toList.dropWhile (· == ' ')
  let (sign, digits) : Int × List Char := match cs with
    | '-' :: cs => (-1, cs)
    | cs => (1, cs)
  sign * ((numeral? 10 (digits.takeWhile Char.isDigit)).getD 0 : Nat)

/-- what a text for a variable changes besides the variable itself -/
def putLive (name text : String) : Activity Unit := do
  let now := (← machine).disk.now
  match name with
  | "RANDOM" => modifyOwn fun p =>
    { p with random := (leadingNumber text % 4294967296).toNat, lastRandom := none }
  | "SECONDS" => modifyOwn fun p =>
    { p with started := now - (leadingNumber text * 1000000000).toNat }
  | "BASH_ARGV0" => modifyOwn fun p => { p with name := text }
  | "BASH_SUBSHELL" => modifyOwn fun p => { p with depth := (leadingNumber text).toNat }
  | _ => pure ()

/-- what an item for an array changes whose items are made when they are read -/
def putLiveItem (name key text : String) : Activity Unit :=
  match name with
  | "BASH_ALIASES" => modifyOwn fun p => { p with aliases := (key, text) :: p.aliases.filter (·.1 ≠ key) }
  | "BASH_CMDS" => modifyOwn fun p =>
    { p with known := ⟨key, text, 0⟩ :: p.known.filter (·.name ≠ key) }
  | "DIRSTACK" => modifyOwn fun p =>
    match numeral? 10 key.toList with
    | some (n + 1) => { p with stack := p.stack.set n text }
    | _ => p
  | _ => pure ()

/-- give a variable a text -/
def putText (name text : String) : Activity Unit := do
  let (name, v) ← changeable name
  let text := (v.letters.map fun change => inLetters change text).getD text
  if v.isLive then putLive name text
  putVariable name { v with value := some (.putText v.value text) }

/-- give an item of an array a text -/
def putItem (name key text : String) : Activity Unit := do
  let (name, v) ← changeable name
  let text := (v.letters.map fun change => inLetters change text).getD text
  if v.isLive then putLiveItem name key text
  else putVariable name { v with value := some (.put v.value key text) }

/-! ## computing -/

/-- the place that a number means among items with numbers; a negative one counts from the end -/
def placeOf (name : String) (v : Option Value) (n : Int) : Activity Nat := do
  if 0 ≤ n then return n.toNat
  let size : Nat := match v with
    | some (.indexed items) => (items.getLast?.map (·.1 + 1)).getD 0
    | some _ => 1
    | none => 0
  if 0 ≤ size + n then return (size + n).toNat
  giveUp s!"{name}[{n}]: bad array subscript"

/-- refuse to compute an expression -/
def refuseExpression {α : Type} (fault : ArithmeticFault) : Activity α := do
  let p ← own
  giveUp (p.computing ++ fault.message p.isExtended)

/-- compute on behalf of a command that complaints name -/
def onBehalf {α : Type} (command : String) (a : Activity α) : Activity α := do
  let outer := (← own).computing
  let leave : Activity Unit := modifyOwn fun p => { p with computing := outer }
  modifyOwn fun p => { p with computing := if p.isExtended then s!"{command}: " else "" }
  try
    let x ← a
    leave
    return x
  catch h =>
    leave
    throw h

mutual

/-- the value of an expression; expressions may name variables that hold expressions -/
def computeUpTo (text : String) : Nat → Activity Int
  | 0 => refuseExpression ⟨.tooDeep, text.toList, text.toList⟩
  | depth + 1 => do
    let isExtended := (← own).isExtended
    let cells : Expr.Cells Activity := {
      readsLate := !isExtended
      read := fun c => readCell c depth
      write := fun c value => writeCell c value depth
      refuse := refuseExpression }
    return (← (Expr.read isExtended text).value cells true).toInt

/-- the key that a subscript means -/
def keyUpTo (name : String) (v : Option Value) (subscript : String) : Nat → Activity String
  | 0 => giveUp s!"{name}: bad array subscript"
  | depth + 1 => do
    match v with
    | some (.keyed _) => return subscript
    | v =>
      let n ← computeUpTo subscript depth
      return toString (← placeOf name v n)

def readCell (c : Cell) : Nat → Activity Int64
  | 0 => pure 0
  | depth + 1 => do
    let v ← valueOf? c.name
    let text ← match c.subscript with
      | none => pure (v.bind (·.text?))
      | some subscript => do
        let key ← keyUpTo c.name v subscript depth
        pure (v.bind (·.get? key))
    let p ← own
    match p.isExtended, text with
    | _, none =>
      if p.isExtended && p.options.unsetIsFault then giveUpUnset c.name else return 0
    | false, some text =>
      match signedLiteral? text with
      | some n => return n
      | none => giveUp s!"Illegal number: {text}"
    | true, some text => return .ofInt (← computeUpTo text depth)

def writeCell (c : Cell) (value : Int64) : Nat → Activity Unit
  | 0 => pure ()
  | depth + 1 => do
    let text := toString value.toInt
    match c.subscript with
    | none => putText c.name text
    | some subscript =>
      let key ← keyUpTo c.name (← valueOf? c.name) subscript depth
      putItem c.name key text

end

/-- how deep expressions may name others -/
def maxExpressions : Nat := 1024

/-- the value of an expression -/
def compute (text : String) : Activity Int := computeUpTo text maxExpressions

/-- the key that a subscript means in a variable -/
def keyOf (name subscript : String) : Activity String := do
  keyUpTo name (← valueOf? name) subscript maxExpressions

/-! ## assignments as scripts write them -/

/-- the text that a variable takes when it is given one: numbers are computed -/
def taken (v : Variable) (old : Option String) (isAppended : Bool) (text : String) :
    Activity String := do
  let before := if isAppended then old.getD "" else ""
  if v.isWhole then
    let base ← if isAppended && !before.isEmpty then compute before else pure 0
    return toString (Int64.ofInt (base + (← compute text))).toInt
  else return before ++ text

/-- give a variable a text -/
def assign (name text : String) : Activity Unit := do
  let (name, v) ← changeable name
  putText name (← taken v none false text)

/-- put a text after the one that a variable has -/
def append (name text : String) : Activity Unit := do
  let (name, v) ← changeable name
  putText name (← taken v (v.value.bind (·.text?)) true text)

/-- give an item of an array a text, or put it after the one that it has -/
def assignItem (name key : String) (isAppended : Bool) (text : String) : Activity Unit := do
  let (name, v) ← changeable name
  putItem name key (← taken v (v.value.bind (·.get? key)) isAppended text)

/-- give a variable a new value, which may be an array -/
def assignValue (name : String) (value : Value) : Activity Unit := do
  let (name, v) ← changeable name
  putVariable name { v with value := some value }

/-- take a variable away -/
def forget (name : String) : Activity Unit :=
  modifyOwn fun p => { p with
    bindings := p.bindings.erase name
    known := if name = "PATH" then [] else p.known }

end Activity

end PatternBuild.Shell
