import PatternBuild.FileSystem
import PatternBuild.Settings.Toml

/-!
# Settings

The settings file is optional, and so are its two sections and all their keys, but it may hold
nothing else.  A section is a table, or an array that gives its values in order.  After reading,
the values are checked once.
-/

namespace PatternBuild

/-- how scripts are run and directories watched -/
structure Settings where
  /-- the shell that runs scripts -/
  program : String
  /-- the flags that come before the script -/
  flags : List String
  /-- paths whose changes are ignored -/
  exclude : List String
  /-- how long a path must be quiet, in milliseconds -/
  settle : Nat
  /-- the time between looks at the changed paths, in milliseconds -/
  tick : Nat
  /-- whether files with unchanged content are skipped -/
  useHash : Bool
  deriving DecidableEq, Repr

namespace Settings

/-- the settings in force without a settings file -/
def default : Settings := ⟨"sh", ["-e", "-u"], [], 500, 1000, false⟩

/-- the settings file looked for when none is named -/
def defaultFile : String := "Poul.toml"

/-! ## values -/

def text? : Toml → Option String
  | .text s => some s
  | _ => none

def texts? : Toml → Option (List String)
  | .array items => items.mapM text?
  | _ => none

/-- a number of milliseconds, at most 2^64 - 1 -/
def milliseconds? : Toml → Option Nat
  | .whole n => if 0 ≤ n ∧ n ≤ 18446744073709551615 then some n.toNat else none
  | _ => none

def truth? : Toml → Option Bool
  | .truth b => some b
  | _ => none

/-! ## sections -/

/-- a setting: its key, and how a value is put in place -/
abbrev Field := String × (Settings → Toml → Option Settings)

def shellFields : List Field := [
  ("program", fun s v => (text? v).map fun x => { s with program := x }),
  ("flags", fun s v => (texts? v).map fun x => { s with flags := x })]

def watchFields : List Field := [
  ("exclude", fun s v => (texts? v).map fun x => { s with exclude := x }),
  ("settle_ms", fun s v => (milliseconds? v).map fun x => { s with settle := x }),
  ("tick_ms", fun s v => (milliseconds? v).map fun x => { s with tick := x }),
  ("use_hash", fun s v => (truth? v).map fun x => { s with useHash := x })]

/-- put the values of a section in place -/
def readSection (fields : List Field) (s : Settings) : Toml → Option Settings
  | .table _ entries => entries.foldlM (fun s (k, v) =>
      match fields.find? (fun f => f.1 = k) with
      | some (_, put) => put s v
      | none => none) s
  | .array items => (fields.zip items).foldlM (fun s ((_, put), v) => put s v) s
  | _ => none

/-- put the values of a document in place -/
def readDocument (entries : List (String × Toml)) : Option Settings :=
  entries.foldlM (fun s (k, v) =>
    if k = "shell" then readSection shellFields s v
    else if k = "watch" then readSection watchFields s v
    else none) default

/-! ## checks -/

/-- refuse values that cannot work -/
def validate (s : Settings) : Except Fault Settings :=
  if (Text.trim s.program.toList).isEmpty then .error (.config .emptyProgram)
  else if s.flags.contains "-c" then .error (.config .commandFlag)
  else if s.tick = 0 then .error (.config .zeroTick)
  else if s.settle = 0 then .error (.config .zeroSettle)
  else .ok s

/-- the settings written in a text -/
def parse (text : String) : Except Fault Settings :=
  match (Toml.parse text).bind readDocument with
  | some s => validate s
  | none => .error .settingsForm

/-- read the settings file at a path, if there is one -/
def load (fs : FileSystem) (path : String) : Except Fault Settings :=
  if fs.isPresent path then
    match fs.readText path with
    | .ok text => parse text
    | .error f => .error (.file f)
  else .ok default

/-- add what the command line says about watching -/
def withWatchOverrides (s : Settings) (exclude : List String) (useHash : Bool) : Settings :=
  { s with exclude := s.exclude ++ exclude, useHash := s.useHash || useHash }

end Settings

end PatternBuild
