import PatternBuild.FileSystem
import PatternBuild.Pattern.Basic

/-!
# Invocations and actions

An invocation is a script with its paths; an action makes invocations in a world.
-/

/-!
## Invocations: a script with its paths

An invocation is everything needed to run the script of a step once.  The script learns its paths
and captured values from environment variables, in the order of `Invocation.environment`.
-/

namespace PatternBuild

/-- a script to be run, with the paths and captured values it works on -/
structure Invocation where
  script : String
  sources : List String
  destinations : List String
  args : Captures
  deriving DecidableEq

namespace Invocation

/-- the variable that holds the sources, separated by spaces -/
def sourceVariable : String := "POUL_SRC"

/-- the variable that holds the destinations, separated by spaces -/
def destinationVariable : String := "POUL_DEST"

/-- the variable that holds the value of a capture -/
def argVariable (n : Nat) : String := "POUL_ARG_" ++ toString n

/-- the variables of an invocation: sources, destinations, then captures by number -/
def environment (i : Invocation) : List (String × String) :=
  (sourceVariable, " ".intercalate i.sources) ::
    (destinationVariable, " ".intercalate i.destinations) ::
      i.args.entries.map fun (n, v) => (argVariable n, v)

end Invocation

end PatternBuild

/-!
## Actions in a world

A world with states `σ` runs invocations and shows its files.  An action takes a state to an
outcome and a new state; a fault ends it, and the state reached stays.

`inTurn` is the one rule of sequence: actions run one after the other until one of them fails or
ends with a code other than 0.
-/

namespace PatternBuild

/-- a computation on the states of a world that may end in a fault -/
abbrev Action (σ α : Type) := ExceptT Fault (StateM σ) α

/-- where invocations are run -/
structure World (σ : Type) where
  /-- run an invocation; the outcome is its exit code -/
  execute : Invocation → Action σ Int
  /-- the files as they are now -/
  files : σ → FileSystem

namespace Action

variable {σ α : Type}

/-- the outcome of an action in a state, and the state it leads to -/
def perform (a : Action σ α) (s : σ) : Except Fault α × σ := (ExceptT.run a).run s

/-- a computed result or fault as an action -/
def ofExcept : Except Fault α → Action σ α
  | .ok a => pure a
  | .error f => throw f

/-- run actions until one ends with a code other than 0; an action that finds nothing to do has no
code, and if none of them has one then neither has the whole -/
def inTurn : List (Action σ (Option Int)) → Action σ (Option Int)
  | [] => pure none
  | a :: rest => do
    match ← a with
    | none => inTurn rest
    | some code =>
      if code ≠ 0 then return some code
      else return some ((← inTurn rest).getD 0)

/-- run actions until one ends with a code other than 0 -/
def sequence (actions : List (Action σ Int)) : Action σ Int := do
  return (← inTurn (actions.map fun a => some <$> a)).getD 0

end Action

end PatternBuild
