import PatternBuild.Rules.Program

/-!
# Checking hooks

The hooks of a program form a graph, with an arc from every template to each of its hooks.  A
program is sound when every hook names a template and no template reaches itself.  `Program.check`
reports the first hook that names none, and otherwise the templates of one cycle: those that reach
a culprit and are reached from it.

The culprit is found on a depth-first tour of the graph that takes templates in ascending order
and hooks last to first: the first template entered that is its own hook, or else the template on
a cycle that is left last.
-/

namespace PatternBuild.Program

variable (p : Program)

/-! ## dangling hooks -/

/-- the hooks that name no template, with their templates, in order -/
def danglingHooks : List (String × String) :=
  p.templates.entries.flatMap fun (owner, t) =>
    (t.hooks.filter fun h => !p.templates.contains h).map fun h => (h, owner)

/-! ## the graph -/

/-- the hooks of a template that are templates themselves, each once -/
def hooksOf (name : String) : List String :=
  match p.template? name with
  | none => []
  | some t => (t.hooks.filter p.templates.contains).eraseDups

/-- the templates that have `name` among their hooks, ascending -/
def ownersOf (name : String) : List String :=
  p.templates.entries.filterMap fun (owner, t) => if t.hooks.contains name then some owner else none

/-- names that are not among those seen -/
def unseen (seen : List String) : Nat := (p.templateNames.filter (fun n => n ∉ seen)).length

theorem unseen_cons_lt {seen : List String} {n : String} (h : n ∈ p.templateNames)
    (hs : n ∉ seen) : p.unseen (n :: seen) < p.unseen seen := by
  unfold unseen
  have hsub : ∀ l : List String, n ∈ l →
      (l.filter (fun m => m ∉ n :: seen)).length < (l.filter (fun m => m ∉ seen)).length := by
    intro l hl
    have hle : ∀ l : List String, (l.filter (fun m => m ∉ n :: seen)).length ≤
        (l.filter (fun m => m ∉ seen)).length := by
      intro l
      induction l with
      | nil => simp
      | cons a l ih =>
        by_cases ha : a ∈ seen
        · simpa [ha] using ih
        · by_cases hn : a = n
          · simpa [ha, hn, hs] using Nat.le_succ_of_le (by simpa using ih)
          · simpa [ha, hn] using ih
    induction l with
    | nil => simp at hl
    | cons a l ih =>
      by_cases hn : a = n
      · subst hn
        have := hle l
        simp only [List.mem_cons, not_or] at this
        simpa [hs] using Nat.lt_succ_of_le (by simpa using this)
      · have hl' : n ∈ l := by
          rcases List.mem_cons.1 hl with h | h
          · exact absurd h.symm hn
          · exact h
        by_cases ha : a ∈ seen
        · simpa [ha] using ih hl'
        · simpa [ha, hn] using ih hl'
  exact hsub _ h

/-- the templates that can be reached along `arcs` from the ones to be looked at, besides those
seen -/
def reachFrom (arcs : String → List String) (seen : List String) (work : List String) :
    List String :=
  match work with
  | [] => seen
  | n :: rest =>
    if h : n ∈ p.templateNames ∧ n ∉ seen then
      have := p.unseen_cons_lt h.1 h.2
      reachFrom arcs (n :: seen) (arcs n ++ rest)
    else reachFrom arcs seen rest
termination_by (p.unseen seen, work.length)

/-- the templates that a template reaches through one hook or more -/
def reached (name : String) : List String := p.reachFrom p.hooksOf [] (p.hooksOf name)

/-- the templates that reach a template through one hook or more -/
def reaching (name : String) : List String := p.reachFrom p.ownersOf [] (p.ownersOf name)

/-! ## the tour -/

/-- a moment of a depth-first tour -/
inductive Visit where
  | enter (name : String)
  | leave (name : String)
  deriving DecidableEq, Repr

/-- the moments of a tour that still has `work` to do -/
def tourFrom (seen : List String) (work : List Visit) : List Visit :=
  match work with
  | [] => []
  | .leave n :: rest => .leave n :: tourFrom seen rest
  | .enter n :: rest =>
    if h : n ∈ p.templateNames ∧ n ∉ seen then
      have := p.unseen_cons_lt h.1 h.2
      .enter n :: tourFrom (n :: seen) ((p.hooksOf n).reverse.map .enter ++ .leave n :: rest)
    else tourFrom seen rest
termination_by (p.unseen seen, work.length)

/-- the depth-first tour of all templates -/
def tour : List Visit := p.tourFrom [] (p.templateNames.map .enter)

def Visit.entered? : Visit → Option String
  | .enter n => some n
  | .leave _ => none

def Visit.left? : Visit → Option String
  | .enter _ => none
  | .leave n => some n

/-! ## the check -/

/-- the first template of a list that reaches itself.  Those found not to are left out of the
searches that follow, as no cycle leads through them. -/
def firstOnCycle? (clear : List String) : List String → Option String
  | [] => none
  | n :: rest =>
    if (p.reachFrom p.ownersOf clear (p.ownersOf n)).contains n then some n
    else firstOnCycle? (n :: clear) rest

/-- the template whose cycle is reported -/
def culprit? : Option String :=
  match (p.tour.filterMap Visit.entered?).find? (fun n => (p.hooksOf n).contains n) with
  | some n => some n
  | none => p.firstOnCycle? [] (p.tour.filterMap Visit.left?).reverse

/-- the templates that reach `name` and are reached from it, ascending -/
def cycleMembers (name : String) : List String :=
  let after := p.reached name
  let before := p.reaching name
  p.templateNames.filter fun m => m = name || (after.contains m && before.contains m)

/-- report the first dangling hook, or else the templates of a cycle -/
def check : Except Fault Unit :=
  match p.danglingHooks with
  | (hook, owner) :: _ => .error (.danglingHook hook owner)
  | [] =>
    match p.culprit? with
    | some n => .error (.mutualHooks (p.cycleMembers n))
    | none => .ok ()

end PatternBuild.Program
