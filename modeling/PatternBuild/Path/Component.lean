import PatternBuild.Path.Clean

/-!
# Components: paths compared part by part

Two spellings such as `a//b`, `a/./b` and `a/b/` have the same `components`, while `./a` and `a`
differ and `..` stays.  `below?` takes the components of a base away from those of a path; a text
that merely starts with the text of the base is not below it.
-/

namespace PatternBuild.Path

open Text

/-- one step of a path as it is walked -/
inductive Component where
  /-- the leading slash -/
  | root
  /-- a leading `.` -/
  | here
  | up
  | name (part : Part)
  deriving DecidableEq, Repr

namespace Component

def text : Component → Part
  | .root => []
  | .here => dot
  | .up => dotDot
  | .name p => p

/-- an inner part as a component; empty parts and `.` are none -/
def ofPart? (p : Part) : Option Component :=
  if p = [] ∨ p = dot then none else if p = dotDot then some .up else some (.name p)

end Component

/-- the components of a path -/
def components (cs : List Char) : List Component :=
  let inner := (parts cs).filterMap Component.ofPart?
  if isRooted cs then .root :: inner
  else if (parts cs).head? = some dot then .here :: inner
  else inner

/-- the path that walks the given components -/
def ofComponents : List Component → List Char
  | .root :: cs => '/' :: joinParts (cs.map Component.text)
  | cs => joinParts (cs.map Component.text)

/-- the plain spelling of a path: no repeated or trailing slashes, no `.` but a leading one -/
def plain (path : String) : String := String.ofList (ofComponents (components path.toList))

/-- what is left of a path below a base -/
def below? : List Component → List Component → Option (List Component)
  | [], cs => some cs
  | _ :: _, [] => none
  | b :: bs, c :: cs => if b = c then below? bs cs else none

theorem below?_nil (cs : List Component) : below? [] cs = some cs := rfl

theorem below?_eq_some_iff {bs cs rest : List Component} :
    below? bs cs = some rest ↔ cs = bs ++ rest := by
  induction bs generalizing cs with
  | nil => simp [below?, eq_comm]
  | cons b bs ih =>
    cases cs with
    | nil => simp [below?]
    | cons c cs =>
      by_cases h : b = c
      · subst h
        simp [below?, ih]
      · have : ¬c = b := fun e => h e.symm
        simp [below?, h, this]

/-- append a relative path; an absolute one replaces the base -/
def join (base path : List Char) : List Char :=
  if isRooted path then path
  else if base = [] ∨ base.getLast? = some '/' then base ++ path
  else base ++ '/' :: path

end PatternBuild.Path
