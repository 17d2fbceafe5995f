import PatternBuild.Shell.Interpreter.Launching
import PatternBuild.Shell.Interpreter.Task
import PatternBuild.Shell.Mode

/-!
# Simple commands and what stands in front of them

A simple command may have assignments and redirections of its own.
-/

/-!
## Assignments

An assignment gives a variable a text, an item or a whole array.  Those in front of a command last as
long as the command runs.
-/

namespace PatternBuild.Shell.Interpreter

open Activity

/-! ### arrays -/

/-- an item of an array as it is written: its key, if it has one, whether it is appended, and its
texts -/
structure Item where
  key : Option String
  isAppended : Bool
  texts : List String

/-- the items that words write -/
def itemsOf (run : Run) (items : List Word) : Activity (List Item) :=
  items.mapM fun w => do
    match w with
    | .element "" index isAppended :: value =>
      let key ← Expansion.wholeText (runPlain run) index
      let text ← Expansion.assignedText (runPlain run) value
      return ⟨some key, isAppended, [text]⟩
    | w => return ⟨none, false, ← Expansion.fieldsOf (runPlain run) w⟩

/-- put items into an array with names; without keys they are names and texts by turns -/
def keyedValue (old : Value) (items : List Item) : Value :=
  if items.any (·.key.isSome) then
    items.foldl (fun v i =>
      match i.key with
      | some key =>
        let before := if i.isAppended then (v.get? key).getD "" else ""
        .put (some v) key (before ++ i.texts.headD "")
      | none => v) old
  else pairs (items.flatMap (·.texts)) old
where
  /-- names and texts by turns -/
  pairs : List String → Value → Value
    | key :: text :: rest, v => pairs rest (.put (some v) key text)
    | [key], v => .put (some v) key ""
    | [], v => v

/-- put items into an array with numbers, from a number on -/
def indexedValue (name : String) : List Item → Nat → Value → Activity Value
  | [], _, v => pure v
  | i :: rest, next, v =>
    match i.key with
    | some subscript => do
      let n ← placeOf name (some v) (← compute subscript)
      let key := toString n
      let before := if i.isAppended then (v.get? key).getD "" else ""
      indexedValue name rest (n + 1) (.put (some v) key (before ++ i.texts.headD ""))
    | none =>
      indexedValue name rest (next + i.texts.length)
        ((numbered next i.texts).foldl (fun v (n, text) => .put (some v) (toString n) text) v)

/-- the value that a variable gets from the items of an array -/
def arrayValue (run : Run) (name : String) (isAppended : Bool) (items : List Word) :
    Activity Value := do
  let items ← itemsOf run items
  let old := ((← own).boundTo? name).bind (·.value)
  match old with
  | some (.keyed kept) => return keyedValue (.keyed (if isAppended then kept else [])) items
  | old =>
    let kept : List (Nat × String) := match old, isAppended with
      | some (.indexed kept), true => kept
      | some (.text s), true => [(0, s)]
      | _, _ => []
    indexedValue name items ((kept.getLast?.map fun i => i.1 + 1).getD 0) (.indexed kept)

/-- give a variable an array, even one that was just marked read only -/
def declareArray (run : Run) (name : String) (isAppended : Bool) (items : List Word) :
    Activity Unit := do
  let value ← arrayValue run name isAppended items
  Builtin.change name fun v => { v with value := some value, isBare := false }

/-! ### single assignments -/

/-- carry out an assignment; the outcome shows it -/
def carryOut (run : Run) : Assignment → Activity String
  | .mk name index isAppended value => do
    let sign := if isAppended then "+=" else "="
    let isExtended := (← own).isExtended
    let shown (text : String) : String := if isExtended then asNeeded text else text
    match index, value with
    | _, [.elements items] =>
      discard (changeable name)
      let new ← arrayValue run name isAppended items
      assignValue name new
      let texts := new.items.map fun (_, text) => shown text
      return s!"{name}{sign}(" ++ " ".intercalate texts ++ ")"
    | none, value =>
      let text ← Expansion.assignedText (runPlain run) value
      if isAppended then append name text else assign name text
      return s!"{name}{sign}{shown text}"
    | some index, value =>
      let subscript ← Expansion.wholeText (runPlain run) index
      let text ← Expansion.assignedText (runPlain run) value
      assignItem name (← keyOf name subscript) isAppended text
      return s!"{name}[{subscript}]{sign}{shown text}"

def nameOf : Assignment → String
  | .mk name _ _ _ => name

/-- put variables back as they were -/
def restore (saved : List (String × Option Variable)) : Activity Unit :=
  modifyOwn fun p =>
    { p with bindings := saved.foldl (fun bindings (name, v) =>
        match v with
        | some v => bindings.insert name v
        | none => bindings.erase name) p.bindings }

/-- carry out assignments for programs, which see the variables -/
def assignForPrograms (run : Run) (assigns : List Assignment) : Activity Unit := do
  for a in assigns do
    try
      discard (carryOut run a)
      Builtin.change (nameOf a) fun v => { v with isExported := true }
    catch h =>
      match h with
      -- the command runs without the assignment
      | .abandon _ => pure ()
      | h => throw h

/-- run an activity with variables that programs see; afterwards they are as before -/
def withAssigned (run : Run) (assigns : List Assignment) (a : Activity Nat) : Activity Nat := do
  if assigns.isEmpty then return ← a
  let before := (← own).bindings
  let saved := assigns.map fun a => (nameOf a, before.get? (nameOf a))
  try
    assignForPrograms run assigns
    let code ← a
    restore saved
    return code
  catch h =>
    restore saved
    throw h

end PatternBuild.Shell.Interpreter

/-!
## Redirections

A redirection leads a descriptor to a file, to another descriptor or to a text.  A fault is told, and
the command does not run.
-/

namespace PatternBuild.Shell.Interpreter

open Activity

/-- why a file cannot be opened, as the shell tells it -/
def openFault (isExtended isMade : Bool) (path : String) (f : DiskFault) : String :=
  if isExtended then s!"{path}: {f.message}"
  else
    match isMade, f with
    | true, .missing => s!"cannot create {path}: Directory nonexistent"
    | false, .missing => s!"cannot open {path}: No such file"
    | true, f => s!"cannot create {path}: {f.message}"
    | false, f => s!"cannot open {path}: {f.message}"

/-- the mode of files that the process makes -/
def newFileMode (p : Process) : Nat := Mode.without 0o666 p.mask

/-- open what stands somewhere -/
def streamFor (kind : RedirectKind) (l : Location) (node : DiskNode) : Activity Stream := do
  let host := (← own).host
  match node with
  | .device name => return .device name
  | .fifo pipe =>
    match kind with
    | .input =>
      modifyMachine fun m => m.addReader host pipe
      pause (.opened pipe true)
      return .reader pipe
    | .both =>
      modifyMachine fun m => (m.addReader host pipe).addWriter host pipe
      return .both pipe
    | _ =>
      modifyMachine fun m => m.addWriter host pipe
      pause (.opened pipe false)
      return .writer pipe
  | .file n =>
    match kind with
    | .append | .appendAll => return .file n 0 true
    | .input | .both => return .file n 0 false
    | _ =>
      setDisk ((← machine).disk.setContent n [])
      return .file n 0 false
  | _ => return .directory (Disk.pathOf l)

/-- open a file as a stream -/
def openFile (kind : RedirectKind) (path : String) : Activity (Except String Stream) := do
  let p ← own
  let d ← disk
  let found := d.stat path
  let isMade := kind != .input
  let refuse (f : DiskFault) : Except String Stream := .error (openFault p.isExtended isMade path f)
  let needed := match kind with
    | .input => Disk.reading
    | .both => Disk.reading + Disk.writing
    | _ => Disk.writing
  let isAllowed := match found with
    | .ok (l, .dir _ _) => kind != .input || d.allows l needed
    | .ok (l, _) => d.allows l needed
    | .error _ => true
  if !isAllowed then return refuse .forbidden
  match kind, found with
  | .input, .ok (l, node) => return .ok (← streamFor kind l node)
  | .input, .error f => return refuse f
  | kind, .ok (l, .file n) =>
    let keeps := p.options.noOverwrite && (kind == .output || kind == .outputAll)
    if keeps then
      return if p.isExtended then .error s!"{path}: cannot overwrite existing file" else refuse .exists
    return .ok (← streamFor kind l (.file n))
  | _, .ok (_, .dir _ _) => return refuse .isDir
  | kind, .ok (l, node) => return .ok (← streamFor kind l node)
  | kind, .error _ =>
    match d.create (newFileMode p) path with
    | .ok (d, node) =>
      setDisk d
      return .ok (← streamFor kind [] node)
    | .error f => return refuse f

/-- close a descriptor -/
def closeDescriptor (fd : Nat) : Activity Unit := do
  setDescriptors ((← own).descriptors.erase fd)

/-- lead a descriptor to a stream; what it led to before is let go -/
def leadTo (fd n : Nat) : Activity Unit := do
  setDescriptors ((← own).descriptors.insert fd n)

/-- lead a descriptor to where another one leads, or close it; with a dash at the end of the number
the other one is closed -/
def duplicate (fd : Nat) (target : String) : Activity (Except String Unit) := do
  let p ← own
  let cs := target.toList
  let isMoved := p.isExtended && 1 < cs.length && cs.getLast? == some '-'
  let number := String.ofList (if isMoved then cs.dropLast else cs)
  if target = "-" then
    closeDescriptor fd
    return .ok ()
  else
    match number.toNat? with
    | none =>
      if p.isExtended then return .error s!"{target}: ambiguous redirect"
      giveUp "Syntax error: Bad fd number"
    | some other =>
      match p.descriptors.get? other with
      | some n =>
        leadTo fd n
        if isMoved then closeDescriptor other
        return .ok ()
      | none => return .error s!"{other}: Bad file descriptor"

/-- a text that is read -/
def textStream (text : String) : Activity Nat := do
  let (m, pipe) := (← machine).addPipe true
  let (m, n) := (m.setPipe pipe ((m.pipe pipe).write text.toList)).addStream (.reader pipe)
  modifyMachine fun _ => m
  return n

/-- the descriptor that a redirection changes -/
def descriptorOf (name : DescriptorName) (isClosed : Bool) : Activity Nat := do
  match name with
  | .number n => return n
  | .variable name =>
    if isClosed then return ((← textOf? name).bind String.toNat?).getD 10
    let p ← own
    let fd := ((List.range 256).find? fun n => 9 < n && !p.descriptors.contains n).getD 256
    assign name (toString fd)
    return fd

/-- the path that a word writes; in the language with extensions it has to be one field -/
def pathOfWord (run : Run) (word : Word) : Activity (Except String String) := do
  if (← own).isExtended then
    match ← Expansion.fieldsOf (runPlain run) word with
    | [path] => return .ok path
    | _ => return .error s!"{(← Expansion.wholeText (runPlain run) word)}: ambiguous redirect"
  else return .ok (← Expansion.wholeText (runPlain run) word)

/-- apply a redirection -/
def applyRedirect (run : Run) : Redirect → Activity (Except String Unit)
  | .mk descriptor kind word => do
    match kind with
    | .text =>
      let text ← Expansion.inlineText (runPlain run) word
      leadTo (← descriptorOf descriptor false) (← textStream text)
      return .ok ()
    | .duplicate =>
      let target ← Expansion.wholeText (runPlain run) word
      duplicate (← descriptorOf descriptor (target = "-")) target
    | kind =>
      match ← pathOfWord run word with
      | .error message => return .error message
      | .ok path =>
        let fd ← descriptorOf descriptor false
        match Tool.descriptorPath? path with
        | some other => duplicate fd (toString other)
        | none =>
          match ← openFile kind path with
          | .error message => return .error message
          | .ok stream =>
            let n ← addStream stream
            leadTo fd n
            if kind == .outputAll || kind == .appendAll then leadTo 2 n
            return .ok ()

/-- apply redirections from left to right, up to the first fault, which is told -/
def redirectAll (run : Run) : List Redirect → Activity Bool
  | [] => pure true
  | r :: rs => do
    match ← applyRedirect run r with
    | .ok _ => redirectAll run rs
    | .error message =>
      complain message
      return false

/-- the code of a command whose redirections fail -/
def redirectCode (p : Process) : Nat := if p.isExtended then 1 else 2

/-- the redirections whose descriptors stay open after the command -/
def lasting (rs : List Redirect) : Bool :=
  rs.any fun
    | .mk (.variable _) _ _ => true
    | _ => false

end PatternBuild.Shell.Interpreter

/-!
## Simple commands

A simple command is expanded, traced, redirected and run by its name, which is that of a builtin, of
a function or of a program.
-/

namespace PatternBuild.Shell.Interpreter

open Activity

/-! ### tracing -/

/-- print what is run, if the shell does that -/
def trace (text : String) : Activity Unit := do
  let p ← own
  if p.options.trace then
    let mark := ((p.boundTo? "PS4").bind (·.value) |>.bind (·.text?)).getD "+ "
    tell (mark ++ text ++ "\n")

/-- words as they are traced -/
def tracedWords (isExtended : Bool) (words : List String) : String :=
  " ".intercalate (words.map fun w =>
    if isExtended then (if w = "" then "''" else asNeeded w) else w)

/-! ### functions -/

/-- how deep functions of the plain language may call each other -/
def deepestCalls : Nat := 1000

/-- run the body of a function with arguments of its own -/
def callFunction (run : Run) (isTested : Bool) (args : List String) (f : Function) : Activity Nat := do
  let outer ← own
  if !outer.isExtended && deepestCalls ≤ outer.running.length then
    giveUp s!"Maximum function recursion depth ({deepestCalls}) reached"
  if let some most := ((← textOf? "FUNCNEST").bind Builtin.number?) then
    if outer.isExtended && 0 < most && most ≤ outer.calledFunctions.length then
      giveUp s!"{f.name}: maximum function nesting level exceeded ({most})"
  let isKept (name : String) : Bool := ["DEBUG", "ERR", "RETURN"].contains name && !outer.handsDown name
  let aside := outer.traps.filter fun (name, text) => text ≠ "" && isKept name
  modifyOwn fun p => { p with
    args
    hidden := [] :: p.hidden
    keptOptions := none
    running := ⟨f.name, false, f.source, p.line, outer.args⟩ :: p.running
    loops := 0
    traps := p.traps.filter fun t => !aside.contains t }
  let leave : Activity Unit := do
    restore ((← own).hidden.headD [])
    -- traps that were put aside come back, unless there are others now
    modifyOwn fun p =>
      let p := match p.keptOptions with
        | some (options, settings) => { p with options, settings }.tellingSwitches
        | none => p
      { p with
        args := outer.args
        hidden := outer.hidden
        keptOptions := outer.keptOptions
        running := outer.running
        line := outer.line
        loops := outer.loops
        traps := p.traps ++ aside.filter fun (name, _) => (p.traps.lookup name).isNone }
  let finish (code : Nat) : Activity Nat := do
    runTrap run "RETURN"
    leave
    return code
  if (outer.traps.lookup "DEBUG").isSome then runTrap run "DEBUG"
  try
    finish (← run (.command isTested f.body))
  catch h =>
    match h with
    | .return code => finish code
    | h => do
      leave
      throw h

/-! ### running by name -/

/-- run a command by its name, with assignments in front of it; programs may be searched where they always
are -/
def runNamed (run : Run) (isTested skipsFunctions isUsual isLast : Bool) (assigns : List Assignment) (name : String)
    (args : List String) : Activity Nat := do
  let p ← own
  -- what is assigned in front of a special builtin of the plain language stays
  let special (a : Activity Nat) : Activity Nat :=
    if p.isExtended then withAssigned run assigns a
    else do
      for x in assigns do discard (carryOut run x)
      a
  match meaningOf p skipsFunctions name with
  | .special f => special (f args)
  | .function f => withAssigned run assigns (callFunction run isTested args f)
  | .regular f => withAssigned run assigns (f args)
  | .control isSpecial =>
    let a := runControl run isTested name args
    if isSpecial then special a else withAssigned run assigns a
  | .program =>
    withAssigned run assigns (startProgram run (if isLast then .leaving else .waiting) isUsual (name :: args))

/-- whether the faults of a command end the shell -/
def isSpecialName (p : Process) (name : String) : Bool :=
  !p.isExtended && ((specialBuiltin? name).isSome || specialControls.contains name)

/-! ### words -/

/-- an argument that assigns an array -/
structure ArrayArgument where
  name : String
  isAppended : Bool
  items : List Word

/-- the fields of the words of a command, and the arrays that they assign -/
structure Prepared where
  fields : List String
  arrays : List ArrayArgument

/-- the fields of an argument of a builtin whose arguments write assignments -/
def declaredFields (run : Run) (isExtended : Bool) (w : Word) : Activity Prepared := do
  match w.getLast? with
  | some (.elements items) =>
    match Reading.assignment? isExtended w.dropLast with
    | some (.mk name _ isAppended _) => return ⟨[name], [⟨name, isAppended, items⟩]⟩
    | none => return ⟨[], []⟩
  | _ =>
    match Reading.assignment? isExtended w with
    | some _ => return ⟨[← Expansion.declaredText (runPlain run) w], []⟩
    | none => return ⟨← Expansion.fieldsOf (runPlain run) w, []⟩

/-- the fields of the words of a command -/
def prepare (run : Run) (words : List Word) : Activity Prepared := do
  let p ← own
  match words with
  | [] => return ⟨[], []⟩
  | first :: rest =>
    let head ← Expansion.fieldsOf (runPlain run) first
    let declares := declaringBuiltins p.isExtended
    let isDeclaring := match head, rest with
      | name :: _, w :: _ => declares.contains name ||
          (name = "command" && ((plainText? w).any declares.contains))
      | _, _ => false
    if isDeclaring then
      let parts ← rest.mapM (declaredFields run p.isExtended)
      return ⟨head ++ parts.flatMap (·.fields), parts.flatMap (·.arrays)⟩
    else
      let fields ← rest.mapM (Expansion.fieldsOf (runPlain run))
      return ⟨head ++ fields.flatten, []⟩

/-- run an activity and put the descriptors back, unless its outcome says that they stay -/
def restoring (a : Activity (Nat × Bool)) : Activity Nat := do
  let outer := (← own).descriptors
  try
    let (code, stay) ← a
    if !stay then setDescriptors outer
    return code
  catch h =>
    setDescriptors outer
    throw h

/-- run assignments alone -/
def assignAlone (run : Run) (assigns : List Assignment) (rs : List Redirect) : Activity (Nat × Bool) := do
  let p ← own
  if ← redirectAll run rs then
    let mut shown : List String := []
    for a in assigns do
      let text ← carryOut run a
      if p.isExtended then trace text
      shown := shown ++ [text]
    if !p.isExtended && !shown.isEmpty then trace (" ".intercalate shown)
    return ((← own).outputStatus.getD 0, lasting rs)
  else return (redirectCode p, false)

/-- the text of assignments in front of a traced command -/
def tracedAssigns (run : Run) (assigns : List Assignment) : Activity (List String) :=
  assigns.mapM fun a => do
    match a with
    | .mk name _ _ value =>
      let text ← Expansion.assignedText (runPlain run) value
      return s!"{name}={text}"

/-- run assignments, or a command with its words -/
def simple (run : Run) (isTested isLast : Bool) (line : Nat) (shown : String) (assigns : List Assignment) (words : List Word)
    (rs : List Redirect) : Activity Nat := do
  modifyOwn fun p => { p with line, outputStatus := none }
  announce run shown
  restoring do
    let prepared ← prepare run words
    let p ← own
    match prepared.fields with
    | [] => assignAlone run assigns rs
    | name :: args =>
      if p.options.trace then
        let before ← if assigns.isEmpty then pure [] else tracedAssigns run assigns
        if p.isExtended then
          for text in before do trace text
          trace (tracedWords true (name :: args))
        else trace (" ".intercalate (before ++ name :: args))
      if !(← redirectAll run rs) then
        if isSpecialName p name && (p.function? name).isNone then stop (.exit 2)
        return (redirectCode p, false)
      let code ← runNamed run isTested false false isLast assigns name args
      for a in prepared.arrays do declareArray run a.name a.isAppended a.items
      let isLasting := lasting rs || (name = "exec" && args.isEmpty)
      modifyOwn fun q => { q with lastArg := args.getLastD name }
      return (code, isLasting)

end PatternBuild.Shell.Interpreter
