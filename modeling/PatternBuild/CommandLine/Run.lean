import PatternBuild.CommandLine.Arguments
import PatternBuild.Engine.Build
import PatternBuild.Shell.Workplace

/-!
# Running commands

The settings are read first, then the rule file, then the command is done in a workplace.  The
outcome is the exit code of the tool.
-/

namespace PatternBuild.CommandLine

/-! ## what is shown -/

def joinPatterns (ps : List Pattern) : String := ", ".intercalate (ps.map (·.text))

/-- the lines that show a step -/
def stepLines (s : Step) : List String :=
  s!"  - line {s.line}: {joinPatterns s.sources} -> {joinPatterns s.destinations}" ::
    (if s.dependencies.isEmpty then [] else ["      deps: " ++ joinPatterns s.dependencies]) ++
    (Text.lines s.body.toList).map fun l => "      | " ++ String.ofList l

/-- the lines that show a template -/
def templateLines (name : String) (t : Template) : List String :=
  ("  - " ++ name) ::
    (if t.prehooks.isEmpty then [] else ["      prehooks: " ++ Text.quoteList t.prehooks]) ++
    (if t.posthooks.isEmpty then [] else ["      posthooks: " ++ Text.quoteList t.posthooks]) ++
    t.destinations.map fun d => "      " ++ d

/-- the lines that show a program -/
def programLines (p : Program) : List String :=
  s!"steps ({p.steps.length}):" :: p.steps.flatMap stepLines ++
    ["", s!"templates ({p.templates.entries.length}):"] ++
    p.templates.entries.flatMap fun (name, t) => templateLines name t

/-- the line that tells that a rule file is in order -/
def checkedLine (file : String) (p : Program) : String :=
  s!"{file}: {p.steps.length} steps, {p.templates.entries.length} templates, ok"

/-! ## commands -/

/-- why a directory cannot be watched, if it cannot -/
def watchFault? (d : Disk) (dir : String) : Option Fault :=
  match d.stat (Text.octets dir) with
  | .ok _ => none
  | .error .missing => some (.watch "No path was found.")
  | .error f => some (.watch (Workplace.startFault f))

/-- do a command; changes that come later are not part of a watch here, which ends at once -/
def perform (s : Settings) (p : Program) (file : String) : Command → Action Workplace Int
  | .dump => do
    Workplace.print (String.join ((programLines p).map (· ++ "\n")))
    return 0
  | .check => do
    Action.ofExcept p.check
    Workplace.print (checkedLine file p ++ "\n")
    return 0
  | .compile sources => p.compileAll (Workplace.world s) sources
  | .build dests => p.buildAll (Workplace.world s) dests
  | .run template => p.runTemplate (Workplace.world s) template
  | .watch dir _ _ => do
    match watchFault? (← get).disk dir with
    | some fault => throw fault
    | none => return 0

/-- read the settings and the rules and do the command -/
def run (a : Arguments) : Action Workplace Int := do
  let files := (← get).disk.fileSystem
  let settings ← Action.ofExcept (Settings.load files a.settings)
  let program ← Action.ofExcept (Program.load files a.file)
  perform settings program a.file a.command

end PatternBuild.CommandLine
