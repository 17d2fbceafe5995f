import PatternBuild.Engine.Action
import PatternBuild.FileSystem.Tree
import PatternBuild.Text.Blank

/-!
# Recording: a world that runs nothing

A recording keeps every invocation it is given and answers from a list of rules: the first rule
whose text occurs in the script decides, and code 0 is the answer where none does.
-/

namespace PatternBuild

/-- what a rule answers -/
inductive Reply where
  | exit (code : Int)
  | refuse (fault : Fault)
  deriving DecidableEq, Repr

/-- files in memory and the invocations recorded so far -/
structure Recording where
  tree : Tree
  ran : List Invocation
  deriving DecidableEq

namespace Recording

/-- replies by a text that the script holds -/
abbrev Rules := List (String × Reply)

/-- the reply to a script -/
def reply (rules : Rules) (script : String) : Reply :=
  match rules.find? (fun r => Text.contains r.1.toList script.toList) with
  | some (_, r) => r
  | none => .exit 0

/-- record an invocation and answer by the rules -/
def execute (rules : Rules) (i : Invocation) : Action Recording Int := do
  modify fun s => { s with ran := s.ran ++ [i] }
  match reply rules i.script with
  | .exit code => return code
  | .refuse fault => throw fault

/-- the world that records -/
def world (rules : Rules) : World Recording where
  execute := execute rules
  files s := s.tree.fileSystem

end Recording

end PatternBuild
