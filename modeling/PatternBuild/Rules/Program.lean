import PatternBuild.Pattern.Basic

/-!
# Programs: what a rule file declares

A step says how sources become destinations; a template is a named group of destinations with
hooks before and after it.  A program holds its steps in the order of declaration and its
templates by name.
-/

namespace PatternBuild

/-- one rule: patterns of sources and destinations, and the script between them -/
structure Step where
  sources : List Pattern
  destinations : List Pattern
  /-- paths whose change affects every source of the step -/
  dependencies : List Pattern
  /-- the script, every line ended by a line feed -/
  body : String
  /-- the line of the rule file that declares the step, counted from 1 -/
  line : Nat
  deriving DecidableEq, Repr

/-- destinations to build together, with the templates run before and after -/
structure Template where
  prehooks : List String
  posthooks : List String
  destinations : List String
  deriving DecidableEq, Repr

/-- all hooks of a template, those before its destinations first -/
def Template.hooks (t : Template) : List String := t.prehooks ++ t.posthooks

/-- a rule file, read -/
structure Program where
  /-- in order of declaration -/
  steps : List Step
  templates : Table String Template
  deriving DecidableEq

namespace Program

def empty : Program := ⟨[], .empty⟩

/-- the template of a name -/
def template? (p : Program) (name : String) : Option Template := p.templates.get? name

/-- the names of all templates, ascending -/
def templateNames (p : Program) : List String := p.templates.keys

theorem mem_templateNames_of_template? {p : Program} {name : String} {t : Template}
    (h : p.template? name = some t) : name ∈ p.templateNames :=
  Decidable.byContradiction fun hn => by
    rw [template?, Table.get?_eq_none_iff.2 hn] at h
    cases h

end Program

namespace Step

/-- what the first matching destination pattern makes of a path -/
def builds? (s : Step) (dest : String) : Option Entry :=
  s.destinations.findSome? (·.matches? dest)

/-- what the first matching source pattern makes of a path -/
def compiles? (s : Step) (source : String) : Option Entry :=
  s.sources.findSome? (·.matches? source)

/-- whether a dependency pattern matches a path; what it captures does not count -/
def dependsOn (s : Step) (path : String) : Bool :=
  s.dependencies.any fun d => (d.matches? path).isSome

end Step

end PatternBuild
