import PatternBuild.Text.Shown
import PatternBuild.Text.Utf8

/-!
# What can go wrong

Every failure of the library is a `Fault`, a cause with what is known about it; `Fault.message` is
the one place where causes are put into words.  `Fault.isNoMatch` singles out the outcomes that
only say that nothing applied.
-/

namespace PatternBuild

open Text

/-! ## rule files -/

/-- why a block of a rule file is refused -/
inductive SyntaxProblem where
  /-- a line outside all blocks opens no block -/
  | expectedBlock
  /-- a header is neither a step nor a template -/
  | unknownBlock
  | duplicateTemplate (name : String)
  /-- more than one `/` between hooks -/
  | extraSlash
  /-- more than one arrow -/
  | extraArrow
  | nestedParen
  | strayClosingParen
  | unclosedParen
  /-- text after the dependencies of a source -/
  | afterDependencies (source : String)
  | emptySource
  /-- an empty destination, or one with parentheses -/
  | badDestination
  deriving DecidableEq, Repr

def SyntaxProblem.message : SyntaxProblem → String
  | .expectedBlock => "expected block declaration"
  | .unknownBlock => "unknown block start"
  | .duplicateTemplate name => s!"duplicate template '{name}'"
  | .extraSlash => "expected at most one '/' in hook list"
  | .extraArrow => "expected a single '->' in step header"
  | .nestedParen => "nested '(' in step header"
  | .strayClosingParen => "unbalanced ')' in step header"
  | .unclosedParen => "unbalanced '(' in step header"
  | .afterDependencies source => s!"expected ')' after dependencies of '{source}'"
  | .emptySource => "expected source pattern"
  | .badDestination => "expected destination pattern"

/-! ## files -/

/-- why a file or directory cannot be used -/
inductive FileFault where
  /-- a directory stands where a file is read -/
  | isDirectory (path : String)
  | notFound (path : String)
  /-- there is no directory to list -/
  | notListable (path : String)
  | notText (fault : Undecodable)
  /-- the system refuses to read a file -/
  | unreadable (path : String)
  /-- the system refuses to list a directory -/
  | unlistable (path : String)
  /-- a file to be hashed cannot be opened -/
  | unhashable (path : String)
  deriving DecidableEq, Repr

def FileFault.message : FileFault → String
  | .isDirectory path => "Is a directory: " ++ quote path
  | .notFound path => "File not found: " ++ quote path
  | .notListable path => "Not a directory or not found: " ++ quote path
  | .notText fault => "Invalid UTF-8: " ++ fault.message
  | .unreadable path => "reading file " ++ quote path
  | .unlistable path => "reading dir " ++ quote path
  | .unhashable path => "opening file for hashing: " ++ quote path

/-! ## settings -/

/-- why the configuration is refused -/
inductive ConfigProblem where
  | noRuleFile (path : String)
  | emptyProgram
  | commandFlag
  | zeroTick
  | zeroSettle
  deriving DecidableEq, Repr

def ConfigProblem.message : ConfigProblem → String
  | .noRuleFile path => s!"unable to read rule file: '{path}' does not exist"
  | .emptyProgram => "[shell].program must not be empty"
  | .commandFlag => "[shell].flags must not contain -c (it is added before the step body)"
  | .zeroTick => "[watch].tick_ms must be >= 1 (got 0)"
  | .zeroSettle => "[watch].settle_ms must be >= 1 (got 0)"

/-! ## all of them -/

/-- everything that can go wrong -/
inductive Fault where
  /-- a block of the rule file is malformed; lines count from 1 -/
  | malformed (line : Nat) (problem : SyntaxProblem)
  /-- the rule file ends inside a block -/
  | unterminatedBlock (openedAt : Nat)
  /-- a pattern refers to a capture that is not bound -/
  | missingCapture (template : String) (index : Nat)
  /-- no step applies to a path -/
  | noMatchingStep (path : String)
  | templateNotFound (name : String)
  /-- a template names a hook that is no template -/
  | danglingHook (hook owner : String)
  /-- a running template is entered again; the names in order of entry -/
  | hookCycle (chain : List String)
  /-- templates that reach each other through their hooks -/
  | mutualHooks (members : List String)
  /-- the shell cannot be started -/
  | spawn (program reason : String)
  /-- the shell ended without an exit code -/
  | noExitStatus (program : String)
  /-- the source of change events failed -/
  | watch (reason : String)
  | config (problem : ConfigProblem)
  /-- the settings file does not have the right form -/
  | settingsForm
  | file (fault : FileFault)
  deriving DecidableEq, Repr

namespace Fault

def message : Fault → String
  | .malformed line problem => s!"{problem.message} at line {line}"
  | .unterminatedBlock n => s!"unexpected end of input: block opened at line {n} is never closed"
  | .missingCapture template index =>
    s!"template '{template}' references ${index}, which was not captured"
  | .noMatchingStep path => s!"no matching step found for '{path}'"
  | .templateNotFound name => s!"template not found: {name}"
  | .danglingHook hook owner => s!"template not found: {hook} (hook of template '{owner}')"
  | .hookCycle chain => "cyclic hook chain: " ++ " -> ".intercalate chain
  | .mutualHooks members =>
    "cyclic hook chain: templates " ++ ", ".intercalate members ++ " hook into each other"
  | .spawn program reason => s!"failed to start '{program}': {reason}"
  | .noExitStatus program => s!"'{program}' terminated without an exit status"
  | .watch reason => s!"file watch error: {reason}"
  | .config problem => s!"Configuration error: {problem.message}"
  | .settingsForm => "the settings file does not have the expected form"
  | .file fault => fault.message

/-- whether the fault only says that nothing applied -/
def isNoMatch : Fault → Bool
  | .noMatchingStep _ => true
  | .templateNotFound _ => true
  | .danglingHook _ _ => true
  | _ => false

end Fault

end PatternBuild
