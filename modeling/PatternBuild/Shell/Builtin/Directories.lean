import PatternBuild.Shell.Builtin.Output
import PatternBuild.Shell.Builtin.Variables

/-!
# Builtins for directories

A shell is in a directory, and keeps a stack of directories to come back to.  Places in the stack are
counted from either end; the working directory is its top.
-/

namespace PatternBuild.Shell

namespace Builtin

open Activity

/-! ## the working directory -/

/-- a path from the root, with its steps up and its dots carried out as they are written; two slashes in
front stay two -/
def logicalPath (base path : String) : String :=
  let whole := if path.startsWith "/" then path else base ++ "/" ++ path
  let steps := (whole.splitOn "/").foldl (fun (steps : List String) step =>
    if step = "" ∨ step = "." then steps else if step = ".." then steps.drop 1 else step :: steps) []
  let root := if whole.startsWith "//" && !whole.startsWith "///" && path.startsWith "/" then "//" else "/"
  root ++ "/".intercalate steps.reverse

def pwd : Builtin := fun args =>
  withLetters "pwd" "LP" "" args fun l => do
    let p ← own
    let isPhysical := (l.found.map (·.1)).getLast? == some 'P'
    sayFor "pwd" ((if isPhysical then Disk.pathOf p.cwd else p.pwd) ++ "\n")

/-- the working directory after going to a path, and the path as it was reached -/
def goTo (isPhysical : Bool) (path : String) : Activity (Except DiskFault Unit) := do
  let d ← disk
  let p ← own
  let logical := logicalPath p.pwd path
  let first := d.stat (if isPhysical then path else logical)
  match if p.isExtended && !first.isOk then d.stat path else first with
  | .error f => return .error f
  | .ok (l, .dir _ _) =>
    let new := if isPhysical then Disk.pathOf l else logical
    modifyOwn fun q => { q with cwd := l, pwd := new }
    modifyOwn fun q => (q.bindExported "OLDPWD" p.pwd).bindExported "PWD" new
    return .ok ()
  | .ok _ => return .error .notDir

/-- the places where a directory is looked for, and whether its path is shown -/
def searched (path : String) : Activity (List (String × Bool)) := do
  let isPlaced := path.startsWith "/" || path.startsWith "./" || path.startsWith "../" ||
    path = "." || path = ".."
  match ← textOf? "CDPATH" with
  | some dirs =>
    if isPlaced || dirs.isEmpty then return [(path, false)]
    let found := (dirs.splitOn ":").map fun dir =>
      if dir = "" then (path, false)
      else (if dir.endsWith "/" then dir ++ path else dir ++ "/" ++ path, true)
    return found ++ [(path, false)]
  | none => return [(path, false)]

/-- go to a directory on behalf of a builtin -/
def changeTo (command : String) (isPhysical isShown : Bool) (path : String) : Activity Nat := do
  let p ← own
  let d ← disk
  let places ← searched path
  let isGood (place : String × Bool) : Bool :=
    d.isDir (if isPhysical then place.1 else logicalPath p.pwd place.1)
  let (place, isFound) := (places.find? isGood).getD (path, false)
  match ← goTo isPhysical place with
  | .ok _ =>
    if isFound || isShown then say ((← own).pwd ++ "\n")
    return 0
  | .error f =>
    -- a name that is no directory may be a variable that holds one
    if p.settings.contains "cdable_vars" then
      if let some target ← textOf? path then
        if let .ok _ ← goTo isPhysical target then
          say (target ++ "\n")
          return 0
    refuse command (if p.isExtended then s!"{path}: {f.message}" else s!"can't cd to {path}")

/-- go to a directory; the builtin may be called by another name -/
def cdAs (command : String) : Builtin := fun args =>
  withLetters command "LPe@" "" args fun l => do
    let p ← own
    let letters := (l.found.map (·.1)).filter fun c => c == 'L' || c == 'P'
    let isPhysical := letters.getLast?.map (· == 'P') |>.getD (p.settings.contains "physical")
    if p.isExtended && 1 < l.operands.length then return ← refuse "cd" "too many arguments"
    let isBack := l.operands.head? = some "-"
    let target ← match l.operands with
      | [] => textOf? "HOME"
      | path :: _ => if isBack then textOf? "OLDPWD" else pure (some path)
    match target with
    | none =>
      if p.isExtended then
        return ← refuse "cd" (if isBack then "OLDPWD not set" else "HOME not set")
      if isBack then
        say (p.pwd ++ "\n")
      return 0
    | some "" =>
      modifyOwn fun q => q.bindExported "OLDPWD" p.pwd
      return 0
    | some path => changeTo command isPhysical isBack path

def cd : Builtin := cdAs "cd"

/-! ## the stack -/

/-- a path as it is shown: the home directory has a short name -/
def shortPath : Activity (String → String) := do
  let home ← textOf? "HOME"
  return fun path =>
    match home with
    | some h =>
      if path = h then "~"
      else if h ≠ "" && path.startsWith (h ++ "/") then "~" ++ String.ofList (path.toList.drop h.length)
      else path
    | none => path

/-- show the working directory and those to come back to -/
def showDirs : Activity Nat := do
  let p ← own
  let short ← shortPath
  sayFor "dirs" (" ".intercalate ((p.pwd :: p.stack).map short) ++ "\n")

/-- a place in a stack, with its sign -/
inductive StackPlace where
  | fromTop (n : Nat)
  | fromBottom (n : Nat)
  deriving DecidableEq, Repr

namespace StackPlace

/-- the place that a text such as `+1` means -/
def read? (text : String) : Option StackPlace :=
  match text.toList with
  | '+' :: cs => (numeral? 10 cs).map .fromTop
  | '-' :: cs => (numeral? 10 cs).map .fromBottom
  | _ => none

/-- the number from the top in a stack of a working directory and so many others -/
def index? (size : Nat) : StackPlace → Option Nat
  | .fromTop n => if n ≤ size then some n else none
  | .fromBottom n => if n ≤ size then some (size - n) else none

end StackPlace

/-- refuse a place in a stack that has no such place -/
def refusePlace (command text : String) : Activity Nat := do
  refuse command (if (← own).stack.isEmpty then "directory stack empty"
    else s!"{text}: directory stack index out of range")

/-- arguments of a builtin that works on the stack -/
structure StackArguments where
  /-- letters that stand alone in words -/
  letters : List Char
  place : Option String
  operands : List String

/-- read the arguments of a builtin that works on the stack; the fault is a word that is none -/
def readStackArguments (known : String) : List String → Except String StackArguments
  | [] => .ok ⟨[], none, []⟩
  | "--" :: rest => .ok ⟨[], none, rest⟩
  | a :: rest =>
    match a.toList with
    | ['-', c] =>
      if known.toList.contains c then do
        let r ← readStackArguments known rest
        return { r with letters := c :: r.letters }
      else place a rest
    | '-' :: _ :: _ => place a rest
    | '+' :: _ => place a rest
    | _ => .ok ⟨[], none, a :: rest⟩
where
  place (a : String) (rest : List String) : Except String StackArguments := do
    if (StackPlace.read? a).isNone then throw a
    let r ← readStackArguments known rest
    return { r with place := r.place.or (some a) }

/-- read the arguments of a builtin that works on the stack and go on -/
def withStackArguments (name known : String) (args : List String) (go : StackArguments → Activity Nat) :
    Activity Nat := do
  match readStackArguments known args with
  | .ok r => go r
  | .error word =>
    Builtin.complain name (invalidCount word)
    misuseOf name

def dirs : Builtin := fun args =>
  withStackArguments "dirs" "clvp" args fun r => do
    if let a :: _ := r.operands then
      Builtin.complain "dirs" s!"{a}: invalid option"
      return ← misuseOf "dirs"
    if r.letters.contains 'c' then
      modifyOwn fun p => { p with stack := [] }
      return 0
    let p ← own
    let short ← shortPath
    let shown (path : String) : String := if r.letters.contains 'l' then path else short path
    let all := p.pwd :: p.stack
    let numberedText (i : Nat) (path : String) : String :=
      let number := toString i
      (if i < 10 then " " ++ number else number) ++ "  " ++ shown path
    match r.place with
    | some text =>
      match (StackPlace.read? text).bind (·.index? p.stack.length) with
      | none => refusePlace "dirs" (text.drop 1).toString
      | some i =>
        let path := (all[i]?).getD ""
        sayFor "dirs" ((if r.letters.contains 'v' then numberedText i path else shown path) ++ "\n")
    | none =>
      if r.letters.contains 'v' then
        sayFor "dirs" (String.join ((List.range all.length).zip all |>.map fun (i, path) => numberedText i path ++ "\n"))
      else
        let gap := if r.letters.contains 'p' then "\n" else " "
        sayFor "dirs" (gap.intercalate (all.map shown) ++ "\n")

/-- go to a directory of the stack and show the stack -/
def goBack (command : String) (stays : Bool) (target : String) : Activity Nat := do
  if stays then return 0
  let code ← changeTo command false false target
  if code ≠ 0 then return code
  showDirs

/-- go to a directory and note the one before, or turn the stack round -/
def pushd : Builtin := fun args =>
  withStackArguments "pushd" "n" args fun r => do
    let p ← own
    let stays := r.letters.contains 'n'
    match r.place, r.operands, p.stack with
    | some text, _, stack =>
      match (StackPlace.read? text).bind (·.index? stack.length) with
      | none => refusePlace "pushd" text
      | some i =>
        let all := p.pwd :: stack
        let turned := all.drop i ++ all.take i
        if 0 < i then modifyOwn fun p => { p with stack := turned.drop 1 }
        goBack "pushd" stays (turned.headD p.pwd)
    | none, path :: _, stack =>
      if stays then
        modifyOwn fun p => { p with stack := path :: stack }
        return ← showDirs
      let target ← if path = "-" then textOf? "OLDPWD" else pure (some path)
      match target with
      | none => refuse "pushd" "OLDPWD not set"
      | some target =>
        let code ← changeTo "pushd" false (path = "-") target
        if code ≠ 0 then return 1
        modifyOwn fun q => { q with stack := p.pwd :: stack }
        showDirs
    | none, [], top :: stack =>
      if stays then return 0
      modifyOwn fun q => { q with stack := p.pwd :: stack }
      goBack "pushd" false top
    | none, [], [] => if stays then return 0 else refuse "pushd" "no other directory"

/-- take a directory from the stack; if it was the top the shell goes to the next one -/
def popd : Builtin := fun args =>
  withStackArguments "popd" "n" args fun r => do
    if let a :: _ := r.operands then
      Builtin.complain "popd" s!"{a}: invalid argument"
      return ← misuseOf "popd"
    let p ← own
    let text := r.place.getD ""
    match p.stack, if text = "" then some 0 else (StackPlace.read? text).bind (·.index? p.stack.length) with
    | [], _ => refusePlace "popd" text
    | _, none => refusePlace "popd" text
    | top :: stack, some 0 =>
      if !r.letters.contains 'n' then
        let code ← changeTo "popd" false false top
        if code ≠ 0 then return code
      modifyOwn fun p => { p with stack }
      showDirs
    | stack, some (i + 1) =>
      modifyOwn fun p => { p with stack := stack.eraseIdx i }
      showDirs

end Builtin

end PatternBuild.Shell
