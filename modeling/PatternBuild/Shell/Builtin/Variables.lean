import PatternBuild.Shell.Builtin.Basic

/-!
# Builtins for variables

They change variables, or read the options of a script into them.
-/

/-!
## Builtins that change variables
-/

namespace PatternBuild.Shell

open Text

namespace Builtin

open Activity

/-! ### names and values -/

/-- an argument that may write an assignment: the name, the subscript, whether the value is appended,
and the value -/
structure Declared where
  name : String
  index : Option String
  isAppended : Bool
  value : Option String

/-- read an argument such as `x=1` or `x[0]+=1` -/
def declared (text : String) : Declared :=
  let cs := text.toList
  let head := cs.takeWhile (· ≠ '=')
  let (head, isAppended, value) := match cs.drop head.length with
    | _ :: value =>
      if head.getLast? == some '+' then (head.dropLast, true, some (String.ofList value))
      else (head, false, some (String.ofList value))
    | [] => (cs, false, none)
  let name := head.takeWhile (· ≠ '[')
  match head.drop name.length with
  | _ :: inside =>
    if inside.getLast? == some ']' then
      ⟨String.ofList name, some (String.ofList inside.dropLast), isAppended, value⟩
    else ⟨String.ofList head, none, isAppended, value⟩
  | [] => ⟨String.ofList head, none, isAppended, value⟩

/-- the same in the plain language, where nothing is appended and there are no arrays -/
def plainlyDeclared (text : String) : Declared :=
  let cs := text.toList
  let name := cs.takeWhile (· ≠ '=')
  match cs.drop name.length with
  | _ :: value => ⟨String.ofList name, none, false, some (String.ofList value)⟩
  | [] => ⟨text, none, false, none⟩

/-- carry out what an argument writes -/
def store (d : Declared) : Activity Unit := do
  match d.value, d.index with
  | none, _ => return
  | some value, none => if d.isAppended then append d.name value else assign d.name value
  | some value, some index => assignItem d.name (← keyOf d.name index) d.isAppended value

/-- the complaint about a name -/
def badName (command text : String) : Activity Nat := do
  refuseSpecial command
    (if (← own).isExtended then s!"\x60{text}': not a valid identifier"
      else s!"{(plainlyDeclared text).name}: bad variable name")

/-- change the marks of a variable -/
def change (name : String) (f : Variable → Variable) : Activity Unit :=
  modifyOwn fun p =>
    let name := p.meant name Process.maxReferences
    p.bind name (f ((p.bindings.get? name).getD .none))

/-- do something for every argument; the code is 1 if that failed for one of them -/
def forEvery (f : String → Activity Nat) : List String → Activity Nat
  | [] => pure 0
  | a :: rest => do
    let code ← f a
    let others ← forEvery f rest
    return if code ≠ 0 then code else others

/-! ### marks -/

/-- list the variables with a certain mark -/
def listMarked (command : String) (shows : Variable → Bool) : Activity Nat := do
  let p ← own
  for (name, v) in ← listedVariables do
    if shows v then
      if p.isExtended then say (Expansion.declaration inWideDoubleQuotes name v ++ "\n")
      else
        let value := match v.value.bind (·.text?) with
          | some text => "=" ++ inQuotes text
          | none => ""
        say s!"{command} {name}{value}\n"
  return 0

/-- a variable with a mark given or taken away -/
def marked (v : Variable) (letter : Char) (on : Bool) : Variable :=
  match letter with
  | 'x' => { v with isExported := on }
  | 'r' => { v with isReadOnly := v.isReadOnly || on }
  | 'i' => { v with isWhole := on }
  | 'u' => { v with letters := if on then some .upper else none }
  | 'l' => { v with letters := if on then some .lower else none }
  | 'c' => { v with letters := if on then some .capital else none }
  | 'n' => { v with isReference := on }
  | 'a' =>
    match v.value with
    | some (.text s) => { v with value := some (.indexed [(0, s)]) }
    | none => { v with value := some (.indexed []), isBare := true }
    | some _ => v
  | 'A' =>
    match v.value with
    | none => { v with value := some (.keyed []), isBare := true }
    | some _ => v
  | _ => v

/-- the mark of a function as it is listed -/
def functionMark (f : Function) : String :=
  (if f.isReadOnly then "r" else "") ++ if f.isExported then "x" else ""

/-- list the functions with a certain mark -/
def listFunctions (onlyNames : Bool) (isMeant : Function → Bool) : Activity Nat := do
  for f in ((← own).functions.filter isMeant).mergeSort fun f g => f.name ≤ g.name do
    let mark := functionMark f
    if onlyNames then say s!"declare -f{mark} {f.name}\n"
    else say (f.shown ++ "\n" ++ if mark = "" then "" else s!"declare -f{mark} {f.name}\n")
  return 0

/-- change a function -/
def changeFunction (name : String) (change : Function → Function) : Activity Unit :=
  modifyOwn fun p => { p with functions := p.functions.map fun f => if f.name = name then change f else f }

/-- a mark of variables and functions -/
structure Mark where
  command : String
  isGiven : Variable → Bool
  give : Variable → Variable
  take : Variable → Variable
  isGivenTo : Function → Bool
  giveTo : Function → Function
  takeFrom : Function → Function

/-- mark functions -/
def markFunctions (m : Mark) (isTaken : Bool) (names : List String) : Activity Nat := do
  if names.isEmpty then return ← listFunctions false m.isGivenTo
  forEvery (fun name => do
    if ((← own).function? name).isNone then refuse m.command s!"{name}: not a function"
    else
      changeFunction name (if isTaken then m.takeFrom else m.giveTo)
      return 0) names

/-- mark variables, giving them a value where one is written -/
def mark (m : Mark) : Builtin := fun args => do
  let isExtended := (← own).isExtended
  withLetters m.command (if isExtended then "pnfaA" else "p") "" args fun l => do
    if l.has 'f' then return ← markFunctions m (l.has 'n') l.operands
    if l.operands.isEmpty || (l.has 'p' && !isExtended) then
      let isArray (v : Variable) : Bool := v.value.any fun x =>
        (!l.has 'a' || (x.isArray && !x.isKeyed)) && (!l.has 'A' || x.isKeyed)
      let chooses := l.has 'a' || l.has 'A'
      return ← listMarked m.command fun v => m.isGiven v && (!chooses || isArray v)
    let read := if isExtended then declared else plainlyDeclared
    forEvery (fun a => do
      let d := read a
      if !isName d.name.toList then badName m.command a
      else if let some index := d.index then badName m.command s!"{d.name}[{index}]"
      else
        if !isExtended && d.value.isSome && ((← own).bindings.get? d.name).any (·.isReadOnly) then
          return ← refuseSpecial m.command s!"{d.name}: is read only"
        -- a variable that cannot be changed leaves its mark alone
        try
          for c in ['a', 'A'] do
            if l.has c then change d.name fun v => marked v c true
          store d
          change d.name (if l.has 'n' then m.take else m.give)
          return 0
        catch h =>
          match h with
          | .abandon code => return code
          | h => throw h) l.operands

def «export» : Builtin := mark {
  command := "export"
  isGiven := (·.isExported)
  give := fun v => { v with isExported := true }
  take := fun v => { v with isExported := false }
  isGivenTo := (·.isExported)
  giveTo := fun f => { f with isExported := true }
  takeFrom := fun f => { f with isExported := false } }

def readonly : Builtin := mark {
  command := "readonly"
  isGiven := (·.isReadOnly)
  give := fun v => { v with isReadOnly := true }
  take := fun v => { v with isReadOnly := true }
  isGivenTo := (·.isReadOnly)
  giveTo := fun f => { f with isReadOnly := true }
  takeFrom := fun f => { f with isReadOnly := true } }

/-- hide a variable until the running function ends -/
def hide (name : String) : Activity Unit :=
  modifyOwn fun p =>
    match p.hidden with
    | frame :: frames =>
      if frame.any (·.1 = name) then p
      else
        let p := { p with hidden := ((name, p.bindings.get? name) :: frame) :: frames }
        if p.isExtended then
          let old := (p.bindings.get? name).getD .none
          p.bind name { Variable.none with isReadOnly := old.isReadOnly }
        else p
    | [] => p

/-! ### declarations with letters -/

/-- the letters in front of arguments, each with whether it is given or taken away -/
def declarationLetters : List String → List (Char × Bool) × List String
  | "--" :: rest => ([], rest)
  | a :: rest =>
    match a.toList with
    | '-' :: c :: cs =>
      let (found, rest) := declarationLetters rest
      ((c :: cs).map (·, true) ++ found, rest)
    | '+' :: c :: cs =>
      let (found, rest) := declarationLetters rest
      ((c :: cs).map (·, false) ++ found, rest)
    | _ => ([], a :: rest)
  | [] => ([], [])

/-- marks that are given before a value is assigned -/
def isEarly (letter : Char) : Bool := "iulcaA".toList.contains letter

/-- show declarations of variables -/
def showDeclared (command : String) (names : List String) : Activity Nat :=
  forEvery (fun name => do
    match (← own).bindings.get? name with
    | some v =>
      let v ← if v.isLive then do
          let value ← liveValue? name v
          pure { v with value }
        else pure v
      say (Expansion.declaration inWideDoubleQuotes name v ++ "\n")
      return 0
    | none =>
      Builtin.complain command s!"{name}: not found"
      return 1) names

/-- show functions, or mark some -/
def declareFunctions (command : String) (onlyNames : Bool) (letters : List (Char × Bool))
    (names : List String) : Activity Nat := do
  let marks := letters.filter fun (c, _) => c == 'r' || c == 'x'
  let isAsked := letters.any (·.1 == 'p')
  if names.isEmpty then
    return ← listFunctions onlyNames fun f =>
      marks.isEmpty || marks.any fun (c, _) => (functionMark f).toList.contains c
  forEvery (fun name => do
    match (← own).function? name with
    | some f =>
      if !marks.isEmpty && !isAsked then
        if f.isReadOnly && letters.contains ('r', false) then
          Builtin.complain command s!"{name}: readonly function"
          return 1
        changeFunction name fun f => marks.foldl (fun f (c, on) =>
          if c == 'r' then { f with isReadOnly := f.isReadOnly || on } else { f with isExported := on }) f
      else if onlyNames then
        let isLong := (← own).settings.contains "extdebug"
        say (name ++ (if isLong then s!" {f.line} {f.source}" else "") ++ "\n")
      else
        let mark := if isAsked then functionMark f else ""
        say (f.shown ++ "\n" ++ if mark = "" then "" else s!"declare -f{mark} {f.name}\n")
      return 0
    | none =>
      if isAsked then Builtin.complain command s!"{name}: not found"
      return 1) names

/-- list variables with marks; without marks the functions, too -/
def listDeclared (isLocal : Bool) (letters : List (Char × Bool)) : Activity Nat := do
  let p ← own
  let asked := letters.filter fun (c, _) => !"pgItG".toList.contains c
  let asCommands := isLocal || !asked.isEmpty || letters.any (·.1 == 'p')
  let isMeant (name : String) (v : Variable) : Bool :=
    let isOwn := !isLocal || (p.hidden.headD []).any (·.1 = name)
    isOwn && (asked.isEmpty || asked.any fun (c, _) => (Expansion.attributeLetters v).toList.contains c)
  for (name, v) in ← listedVariables do
    if isMeant name v then
      if asCommands then say (Expansion.declaration inWideDoubleQuotes name v ++ "\n")
      else match v.value with
        | some (.text s) => say s!"{name}={asNeeded s}\n"
        | some value => if !v.isBare then say s!"{name}={Expansion.itemsText value}\n"
        | none => pure ()
  if asCommands then return 0
  for f in p.functions.mergeSort fun f g => f.name ≤ g.name do say (f.shown ++ "\n")
  return 0

/-- the letters that declarations know -/
def declarationMarks : List Char := "acfgilnprtuxAFGI".toList

/-- why marks cannot be given to a variable -/
def markFault? (v : Variable) (letters : List (Char × Bool)) (d : Declared) : Option String :=
  let isKeyed := v.value.any Value.isKeyed
  let isNumbered := v.value.any fun x => x.isArray && !x.isKeyed
  if v.isReadOnly && (d.value.isSome || letters.contains ('r', false)) then some "readonly variable"
  else if isKeyed && letters.contains ('a', true) then some "cannot convert associative to indexed array"
  else if isNumbered && letters.contains ('A', true) then some "cannot convert indexed to associative array"
  else if (isNumbered && letters.contains ('a', false)) || (isKeyed && letters.contains ('A', false)) then
    some "cannot destroy array variables in this way"
  else none

/-- declare a variable with marks; inside a function it is hidden first -/
def declareOne (command : String) (letters : List (Char × Bool)) (text : String) : Activity Nat := do
  let has (c : Char) : Bool := letters.any (·.1 == c)
  let d := declared text
  if command = "local" && text = "-" then
    -- the options are put back when the function ends
    modifyOwn fun p => { p with keptOptions := p.keptOptions.or (some (p.options, p.settings)) }
    return 0
  if !isName d.name.toList then return ← badName command text
  try
    let p ← own
    if !p.hidden.isEmpty && !(has 'g') then
      if (p.bindings.get? d.name).any (·.isReadOnly) then
        Builtin.complain command s!"{d.name}: readonly variable"
        return 1
      hide d.name
    let p ← own
    let name := if has 'n' then d.name else p.meant d.name Process.maxReferences
    if let some fault := markFault? ((p.bindings.get? name).getD .none) letters d then
      Builtin.complain command s!"{d.name}: {fault}"
      return 1
    let giveMarks (which : Char → Bool) : Activity Unit :=
      modifyOwn fun p =>
        let v := (p.bindings.get? name).getD .none
        p.bind name ((letters.filter fun (c, _) => which c).foldl (fun v (c, on) => marked v c on) v)
    giveMarks isEarly
    if has 'n' then
      match d.value with
      | some value => change name fun v => { v with value := some (.text value) }
      | none => pure ()
    else store d
    giveMarks fun c => !isEarly c
    return 0
  catch h =>
    match h with
    | .abandon code => return code
    | h => throw h

/-- declare variables with marks -/
def declare (command : String) : Builtin := fun args => do
  if args.head? = some "--help" then return ← tellManual command
  let (letters, names) := declarationLetters args
  let has (c : Char) : Bool := letters.any (·.1 == c)
  let isLocal := command = "local"
  if isLocal && (← own).hidden.isEmpty then return ← refuse command "can only be used in a function"
  if let some (c, on) := letters.find? fun (c, _) => !declarationMarks.contains c then
    let sign := if on then "-" else "+"
    Builtin.complain command s!"{sign}{c}: invalid option"
    return ← misuseOf command
  if has 'f' || has 'F' then return ← declareFunctions command (has 'F') letters names
  if names.isEmpty then return ← listDeclared isLocal letters
  if has 'p' then return ← showDeclared command names
  forEvery (declareOne command letters) names

/-- hide variables of the plain language until the running function ends -/
def plainLocal : Builtin := fun args => do
  if (← own).hidden.isEmpty then
    Builtin.complain "local" "not in a function"
    stop (.exit 2)
  forEvery (fun a => do
    let d := plainlyDeclared a
    if a = "-" then
      modifyOwn fun p => { p with keptOptions := p.keptOptions.or (some (p.options, p.settings)) }
      return 0
    if !isName d.name.toList then badName "local" a
    else
      hide d.name
      if ((← own).bindings.get? d.name).any (·.isReadOnly) then giveUp s!"local: {d.name}: is read only"
      store d
      return 0) args

def «local» : Builtin := fun args => do
  if (← own).isExtended then declare "local" args else plainLocal args

/-! ### unset -/

/-- take a function away -/
def unsetFunction (name : String) : Activity Nat := do
  let p ← own
  if (p.function? name).any (·.isReadOnly) then
    return ← refuse "unset" s!"{name}: cannot unset: readonly function"
  modifyOwn fun p => { p with functions := p.functions.filter (·.name ≠ name) }
  return 0

/-- take an item of a variable away -/
def unsetItem (name index : String) (v : Variable) : Activity Nat := do
  let keep (value : Value) : Activity Nat := do
    modifyOwn fun p => p.bind name { v with value := some value }
    return 0
  match v.value with
  | some (.keyed items) => keep ((Value.keyed items).erase (← keyOf name index))
  | some (.indexed items) =>
    if index = "@" || index = "*" then return ← keep (.indexed [])
    let n ← compute index
    let last : Nat := (items.getLast?.map (·.1 + 1)).getD 0
    if 0 ≤ n then keep ((Value.indexed items).erase (toString n))
    else if 0 ≤ last + n then keep ((Value.indexed items).erase (toString (last + n)))
    else refuse "unset" s!"[{n}]: bad array subscript"
  | _ =>
    if (← compute index) = 0 then
      forget name
      return 0
    refuse "unset" s!"{name}: not an array variable"

/-- take a variable or an item of one away; without one a function, if that is allowed -/
def unsetVariable (orFunction isDirect : Bool) (text : String) : Activity Nat := do
  let p ← own
  let d := declared text
  let name := if isDirect then d.name else p.meant d.name Process.maxReferences
  match p.bindings.get? name, d.index with
  | some v, index =>
    if v.isReadOnly then return ← refuse "unset" s!"{name}: cannot unset: readonly variable"
    match index with
    | some index => unsetItem name index v
    | none =>
      if !isDirect || v.isReference then forget name
      return 0
  | none, _ => if orFunction then unsetFunction text else return 0

/-- take variables or functions of the language with extensions away -/
def wideUnset : Builtin := fun args =>
  withLetters "unset" "fvn" "" args fun l => do
    if l.has 'f' && l.has 'v' then
      return ← refuse "unset" "cannot simultaneously unset a function and a variable"
    forEvery (fun text => do
      let d := declared text
      if l.has 'f' then unsetFunction text
      else if !isName d.name.toList || d.index = some "" then
        if l.has 'v' || l.has 'n' then refuse "unset" s!"\x60{text}': not a valid identifier"
        else unsetFunction text
      else
        try unsetVariable (!l.has 'v' && !l.has 'n') (l.has 'n') text
        catch h =>
          match h with
          | .abandon code => return code
          | h => throw h) l.operands

/-- take variables or functions of the plain language away -/
def plainUnset : Builtin := fun args =>
  withLetters "unset" "fv" "" args fun l =>
    let ofFunctions := (l.found.getLast?.map (·.1)) == some 'f'
    forEvery (fun name => do
      let p ← own
      if ofFunctions then
        modifyOwn fun p => { p with functions := p.functions.filter (·.name ≠ name) }
        return 0
      if !isName name.toList then return ← refuseSpecial "unset" s!"{name}: bad variable name"
      if (p.bindings.get? name).any (·.isReadOnly) then
        return ← refuseSpecial "unset" s!"{name}: is read only"
      if name = "OPTIND" then return ← refuseSpecial "unset" "Illegal number: "
      forget name
      return 0) l.operands

def unset : Builtin := fun args => do
  if (← own).isExtended then wideUnset args else plainUnset args

/-! ### arithmetic -/

/-- the values of expressions, of which the last decides -/
def «let» : Builtin := fun args => do
  if args.isEmpty then return ← refuse "let" "expression expected"
  try
    let mut last : Int := 0
    for a in args do last ← onBehalf "let" (compute a)
    return if last = 0 then 1 else 0
  catch h =>
    match h with
    | .abandon code => return code
    | h => throw h

end Builtin

end PatternBuild.Shell

/-!
## The builtin for options of scripts

A script reads its options one by one.  The number of the argument that is read next is kept in a
variable, and how far the word of letters in front of it was read in the process.
-/

namespace PatternBuild.Shell

namespace Builtin

open Activity

/-- tell of an option, and where the next one is looked for -/
def tellOption (name found : String) (value : Option String) (index offset : Nat) : Activity Nat := do
  assign "OPTIND" (toString index)
  modifyOwn fun p => { p with optionOffset := offset }
  match value with
  | some text => assign "OPTARG" text
  | none => forget "OPTARG"
  if !isName name.toList then
    return ← refuse "getopts" (if (← own).isExtended then s!"\x60{name}': not a valid identifier"
      else s!"{name}: bad variable name")
  assign name found
  return 0

/-- tell that there is no option any more -/
def endOptions (name : String) (index : Nat) : Activity Nat := do
  let code ← tellOption name "?" none index 0
  return if code = 0 then 1 else code

/-- read the next option among some words; `known` lists the letters, and a colon after a letter means
that it takes a value -/
def nextOption (known name : String) (words : List String) : Activity Nat := do
  let p ← own
  let index := (((← textOf? "OPTIND").getD "1").toNat?).getD 1
  let index := max 1 index
  -- inside a word the plain language counts the word as read already
  let offset := max 1 p.optionOffset
  let current := if !p.isExtended && 0 < p.optionOffset then index - 1 else index
  let word := (words[current - 1]?.getD "").toList
  let isQuiet := known.startsWith ":"
  let isSilent ← if p.isExtended then do pure ((← textOf? "OPTERR") == some "0") else pure false
  let report (text : String) : Activity Unit := if isQuiet || isSilent then pure () else tell text
  match word, word.drop offset with
  | '-' :: _ :: _, letter :: after =>
    if word = ['-', '-'] then return ← endOptions name (current + 1)
    let takesValue := (known.toList.dropWhile (· ≠ letter)).drop 1 |>.head? |> (· == some ':')
    let (nextIndex, nextOffset) :=
      if after.isEmpty then (current + 1, 0)
      else (if p.isExtended then current else current + 1, offset + 1)
    if letter = ':' || !known.toList.contains letter then
      report (if p.isExtended then s!"{p.name}: illegal option -- {letter}\n"
        else s!"Illegal option -{letter}\n")
      tellOption name "?" (if isQuiet then some letter.toString else none) nextIndex nextOffset
    else if !takesValue then tellOption name letter.toString none nextIndex nextOffset
    else if !after.isEmpty then
      tellOption name letter.toString (some (String.ofList after)) (current + 1) 0
    else match words[current]? with
      | some value => tellOption name letter.toString (some value) (current + 2) 0
      | none =>
        report (if p.isExtended then s!"{p.name}: option requires an argument -- {letter}\n"
          else s!"No arg for -{letter} option\n")
        tellOption name (if isQuiet then ":" else "?")
          (if isQuiet then some letter.toString else none) (current + 1) 0
  | _, _ => endOptions name current

def getopts : Builtin := fun args => do
  let go (args : List String) : Activity Nat := do
    match args with
    | known :: name :: rest =>
      let p ← own
      nextOption known name (if rest.isEmpty then p.args else rest)
    | _ =>
      if (← own).isExtended then misuseOf "getopts"
      else refuse "getopts" "Usage: getopts optstring var [arg...]"
  if (← own).isExtended then
    withLetters "getopts" "" "" args fun l => go l.operands
  else go args

end Builtin

end PatternBuild.Shell
