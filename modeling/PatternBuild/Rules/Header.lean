import PatternBuild.Rules.Block
import PatternBuild.Rules.Program

/-!
# Headers: what one block declares

A header with an arrow declares a step,

    source, source (dependency, dependency) -> destination, destination

and any other header declares a template,

    name (hook, hook / hook, hook)

where the part in parentheses may be missing.  `Block.declaration` reads a block as one or the
other.
-/

namespace PatternBuild

open Text

/-- what a block declares -/
inductive Declaration where
  | step (s : Step)
  | template (name : String) (t : Template)
  deriving DecidableEq, Repr

namespace Header

/-! ## lists -/

/-- the non-empty items between commas, trimmed -/
def listItems (cs : List Char) : List (List Char) :=
  ((splitOn (· == ',') cs).map trim).filter (!·.isEmpty)

def hasParen (cs : List Char) : Bool := cs.any fun c => c == '(' || c == ')'

/-! ## steps -/

def arrow : List Char := ['-', '>']

/-- cut at the commas outside parentheses; `inside` says whether a parenthesis is open -/
def topLevelItems (inside : Bool) : List Char → Except SyntaxProblem (List (List Char))
  | [] => if inside then .error .unclosedParen else .ok [[]]
  | c :: cs =>
    if c = '(' then
      if inside then .error .nestedParen else (topLevelItems true cs).map (consHead c)
    else if c = ')' then
      if inside then (topLevelItems false cs).map (consHead c) else .error .strayClosingParen
    else if c = ',' ∧ inside = false then (topLevelItems false cs).map ([] :: ·)
    else (topLevelItems inside cs).map (consHead c)

/-- a source with its dependencies -/
def sourceItem (item : List Char) : Except SyntaxProblem (Pattern × List Pattern) := do
  let (source, dependencies) ← match cutAt ['('] item with
    | none => pure (item, [])
    | some (source, rest) =>
      match stripEnd [')'] (trimEnd rest) with
      | none => throw (.afterDependencies (String.ofList (trim source)))
      | some inner => pure (trim source, listItems inner)
  if source.isEmpty then throw .emptySource
  let compile (cs : List Char) := Pattern.compile (String.ofList cs)
  return (compile source, dependencies.map compile)

/-- a destination -/
def destinationItem (item : List Char) : Except SyntaxProblem Pattern :=
  if item.isEmpty || hasParen item then .error .badDestination
  else .ok (Pattern.compile (String.ofList item))

/-- the step declared by the texts on both sides of the arrow -/
def stepOf (left right : List Char) (body : List (List Char)) (line : Nat) :
    Except SyntaxProblem Step := do
  if contains arrow right then throw .extraArrow
  let items ← topLevelItems false left
  let sources ← (items.map trim).mapM sourceItem
  let destinations ← ((splitOn (· == ',') right).map trim).mapM destinationItem
  return {
    sources := sources.map (·.1)
    destinations := destinations
    dependencies := (sources.flatMap (·.2)).eraseDups
    body := String.ofList (body.flatMap (· ++ ['\n']))
    line := line }

/-! ## templates -/

/-- a character of a template name -/
def isNameChar (c : Char) : Bool := c.isAlphanum || c == '_' || c == '-'

/-- the hooks in parentheses, before and after the slash -/
def hookLists (inner : List Char) : Except SyntaxProblem (List String × List String) :=
  let names (cs : List Char) := (listItems cs).map String.ofList
  match splitOn (· == '/') inner with
  | [] => .ok ([], [])
  | [pre] => .ok (names pre, [])
  | [pre, post] => .ok (names pre, names post)
  | _ => .error .extraSlash

/-- the text between an opening parenthesis at the start and a closing one at the end -/
def parenthesised? : List Char → Option (List Char)
  | '(' :: cs => do
    let inner ← stripEnd [')'] cs
    if (trim inner).isEmpty || hasParen inner then none else some inner
  | _ => none

/-- the template declared by a header without an arrow -/
def templateOf (header : List Char) (body : List (List Char)) :
    Except SyntaxProblem (String × Template) := do
  let name := header.takeWhile isNameChar
  if name.isEmpty then throw .unknownBlock
  let rest := trim (header.dropWhile isNameChar)
  let (pre, post) ←
    if rest.isEmpty then pure ([], [])
    else match parenthesised? rest with
      | none => throw .unknownBlock
      | some inner => hookLists inner
  return (String.ofList name, ⟨pre, post, body.map String.ofList⟩)

end Header

/-- what a block declares -/
def Block.declaration (b : Block) : Except SyntaxProblem Declaration :=
  match cutAt Header.arrow b.header with
  | some (left, right) => (Header.stepOf left right b.body b.line).map .step
  | none => (Header.templateOf b.header b.body).map fun (name, t) => .template name t

end PatternBuild
