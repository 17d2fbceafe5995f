import PatternBuild.FileSystem
import PatternBuild.Rules.Parse

/-!
# Loading rule files
-/

namespace PatternBuild.Program

/-- the rule file looked for when none is named -/
def defaultFile : String := "./Poulfile"

/-- read the rule file at a path; a missing file is a fault of the configuration -/
def load (fs : FileSystem) (path : String) : Except Fault Program :=
  if fs.isFile path then
    match fs.readText path with
    | .ok text => parse text
    | .error f => .error (.file f)
  else .error (.config (.noRuleFile path))

end PatternBuild.Program
