import PatternBuild.Table
import PatternBuild.Fault
import PatternBuild.Path.Clean
import PatternBuild.Pattern.Cut
import PatternBuild.Pattern.Glob

/-!
# Patterns

A pattern is clean path text with captures and wildcards.  `Pattern.matches?` divides a clean path
among its tokens, as greedily as it can, and then requires equal pieces for equal captures;
`Pattern.substitute` puts captured values into the text of a pattern.
-/

namespace PatternBuild

open Path Pattern

/-- captured values by capture number -/
abbrev Captures := Table Nat String

/-- a path that matched a pattern, with what it captured -/
structure Entry where
  /-- the matched path, clean -/
  name : String
  args : Captures
  deriving DecidableEq

/-- a path pattern; its text is clean -/
structure Pattern where
  text : String
  deriving DecidableEq, Repr

namespace Pattern

/-- the pattern with the given text, after cleaning -/
def compile (text : String) : Pattern := ⟨clean text⟩

def tokens (p : Pattern) : List Token := tokenize p.text.toList

/-- the file-name mask that lists candidates -/
def glob (p : Pattern) : String := String.ofList (globText p.tokens)

/-- whether the pattern holds neither captures nor wildcards -/
def isLiteral (p : Pattern) : Bool := p.tokens.all (fun t => !t.isDynamic)

/-! ## matching -/

/-- bind every capture to its piece; equal captures need equal pieces -/
def gather : List Token → List (List Char) → Captures → Option Captures
  | .capture n :: ts, p :: ps, args =>
    match args.get? n with
    | some v => if v.toList = p then gather ts ps args else none
    | none => gather ts ps (args.insert n (String.ofList p))
  | _ :: ts, _ :: ps, args => gather ts ps args
  | _, _, args => some args

/-- match a path, which is cleaned first -/
def matches? (p : Pattern) (path : String) : Option Entry := do
  let name := clean path
  let pieces ← cut? p.tokens name.toList
  let args ← gather p.tokens pieces .empty
  return ⟨name, args⟩

/-- whether a clean name passes the file-name mask -/
def passesGlob (p : Pattern) (name : String) : Bool := globMatches p.glob.toList name.toList

/-! ## substitution -/

/-- the text of the tokens with captured values in place; `template` is named if one is missing -/
def fill (template : String) (args : Captures) : List Token → Except Fault (List Char)
  | [] => .ok []
  | .capture n :: ts =>
    match args.get? n with
    | none => .error (.missingCapture template n)
    | some v => (fill template args ts).map (v.toList ++ ·)
  | t :: ts => (fill template args ts).map (t.written ++ ·)

/-- captured values in place of the captures of a text -/
def substituteText (template : String) (args : Captures) : Except Fault String :=
  (fill template args (tokenize template.toList)).map String.ofList

/-- captured values in place of the captures of a pattern -/
def substitute (p : Pattern) (args : Captures) : Except Fault String := substituteText p.text args

/-- substitute into each pattern in turn; the first fault counts -/
def substituteAll (ps : List Pattern) (args : Captures) : Except Fault (List String) :=
  ps.mapM (·.substitute args)

end Pattern

end PatternBuild
