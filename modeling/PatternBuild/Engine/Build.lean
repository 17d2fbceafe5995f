import PatternBuild.Engine.Action
import PatternBuild.Pattern.Listing
import PatternBuild.Rules.Hooks

/-!
# Building and compiling

To build a path, the first step with a destination pattern matching it runs once.  To compile a
path, every step with a source pattern matching it runs.  To recompile what depends on a path,
every step with a dependency pattern matching it runs for each of the sources it finds.  To run a
template, its hooks run before and after its destinations are built.
-/

namespace PatternBuild

/-- the sources that a step finds, each once, with the captures of its first pattern -/
def Step.findSources (s : Step) (fs : FileSystem) : Except Fault (List Entry) := do
  let found ← s.sources.mapM (·.enumerate fs)
  return found.flatten.eraseDupsBy fun a b => a.name == b.name

namespace Program

variable {σ : Type} (p : Program) (w : World σ)

/-! ## single steps -/

/-- run a step on given paths and captures -/
def runStep (s : Step) (sources destinations : List String) (args : Captures) : Action σ Int :=
  w.execute ⟨s.body, sources, destinations, args⟩

/-- the step that builds a path, and what it makes of the path -/
def builder? (dest : String) : Option (Step × Entry) :=
  p.steps.findSome? fun s => (s.builds? dest).map fun e => (s, e)

/-- the steps that compile a path, and what they make of it -/
def compilers (source : String) : List (Step × Entry) :=
  p.steps.filterMap fun s => (s.compiles? source).map fun e => (s, e)

/-- run a step for one source -/
def compileWith (s : Step) (e : Entry) : Action σ Int := do
  let destinations ← Action.ofExcept (Pattern.substituteAll s.destinations e.args)
  runStep w s [e.name] destinations e.args

/-! ## paths -/

/-- build a path with the first step that makes it -/
def build (dest : String) : Action σ Int :=
  match p.builder? dest with
  | none => throw (.noMatchingStep dest)
  | some (s, e) => do
    let sources ← Action.ofExcept (Pattern.substituteAll s.sources e.args)
    runStep w s sources [e.name] e.args

/-- build paths in turn -/
def buildAll (dests : List String) : Action σ Int := Action.sequence (dests.map (p.build w))

/-- the code of an operation on a path, or the fault that nothing applied to it -/
def orNoMatch (path : String) : Option Int → Action σ Int
  | some code => pure code
  | none => throw (.noMatchingStep path)

/-- run every step that reads a path -/
def compile (source : String) : Action σ Int := do
  orNoMatch source
    (← Action.inTurn ((p.compilers source).map fun (s, e) => some <$> compileWith w s e))

/-- compile paths in turn -/
def compileAll (sources : List String) : Action σ Int :=
  Action.sequence (sources.map (p.compile w))

/-- run a step for every source that it finds -/
def compileFound (s : Step) : Action σ (Option Int) := do
  let found ← Action.ofExcept (s.findSources (w.files (← get)))
  Action.inTurn (found.map fun e => some <$> compileWith w s e)

/-- run the steps that depend on a path, for every source they find -/
def compileDependents (changed : String) : Action σ Int := do
  let changed := Path.clean changed
  orNoMatch changed
    (← Action.inTurn ((p.steps.filter (·.dependsOn changed)).map (compileFound w)))

/-! ## templates -/

/-- run a template while those of the chain are running, the innermost first -/
def runTemplateIn (chain : List String) (name : String) : Action σ Int :=
  if hc : name ∈ chain then throw (.hookCycle (name :: chain).reverse)
  else
    match ht : p.template? name with
    | none => throw (.templateNotFound name)
    | some t =>
      have := p.unseen_cons_lt (mem_templateNames_of_template? ht) hc
      Action.sequence
        (t.prehooks.map (runTemplateIn (name :: chain)) ++ t.destinations.map (p.build w) ++
          t.posthooks.map (runTemplateIn (name :: chain)))
termination_by p.unseen chain

/-- run a template with its hooks -/
def runTemplate (name : String) : Action σ Int := p.runTemplateIn w [] name

end Program

end PatternBuild
