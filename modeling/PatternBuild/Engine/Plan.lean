import PatternBuild.Engine.Build

/-!
# Plans: a template laid out flat

`Program.planIn` writes out what running a template comes to: builds and faults, in order, with
the hooks expanded.  `PlanItem.action` performs one item, and a plan is performed in turn.
-/

namespace PatternBuild

/-- one item of a plan -/
inductive PlanItem where
  /-- build a destination -/
  | build (dest : String)
  /-- stop with a fault -/
  | fail (fault : Fault)
  deriving DecidableEq, Repr

namespace Program

variable {σ : Type} (p : Program)

/-- the plan of a template while those of the chain are running, the innermost first -/
def planIn (chain : List String) (name : String) : List PlanItem :=
  if hc : name ∈ chain then [.fail (.hookCycle (name :: chain).reverse)]
  else
    match ht : p.template? name with
    | none => [.fail (.templateNotFound name)]
    | some t =>
      have := p.unseen_cons_lt (mem_templateNames_of_template? ht) hc
      t.prehooks.flatMap (planIn (name :: chain)) ++ t.destinations.map PlanItem.build ++
        t.posthooks.flatMap (planIn (name :: chain))
termination_by p.unseen chain

/-- the plan of a template -/
def plan (name : String) : List PlanItem := p.planIn [] name

/-- perform one item of a plan -/
def performItem (w : World σ) : PlanItem → Action σ Int
  | .build dest => p.build w dest
  | .fail fault => throw fault

/-- perform a plan, up to the first code other than 0 or fault -/
def performPlan (w : World σ) (items : List PlanItem) : Action σ Int :=
  Action.sequence (items.map (p.performItem w))

end Program

end PatternBuild
