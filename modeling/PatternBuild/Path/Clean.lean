import PatternBuild.Text.Blank

/-!
# Clean paths

A path is text cut into parts by `/`.  `clean` brings it to normal form without looking at any
file: empty parts and `.` vanish, `..` takes away the part before it, and what is left is joined
again; the empty path is `.`.

`IsNormal` says what the result looks like without mentioning how it is found.
-/

namespace PatternBuild.Path

open Text

/-- one part of a path, between two slashes -/
abbrev Part := List Char

/-! ## parts -/

def dot : Part := ['.']
def dotDot : Part := ['.', '.']

/-- the parts of a path -/
def parts (cs : List Char) : List Part := splitOn (· == '/') cs

/-- parts joined by single slashes -/
def joinParts : List Part → List Char
  | [] => []
  | [p] => p
  | p :: ps => p ++ '/' :: joinParts ps

theorem joinParts_nil : joinParts [] = [] := rfl
theorem joinParts_singleton (p : Part) : joinParts [p] = p := rfl
theorem joinParts_cons (p q : Part) (ps : List Part) :
    joinParts (p :: q :: ps) = p ++ '/' :: joinParts (q :: ps) := rfl

/-- whether a path starts at the root -/
def isRooted : List Char → Bool
  | '/' :: _ => true
  | _ => false

/-! ## resolving -/

/-- take one part into account; the parts kept so far stand in reverse order -/
def keep (rooted : Bool) (kept : List Part) (p : Part) : List Part :=
  if p = [] ∨ p = dot then kept
  else if p = dotDot then
    match kept with
    | [] => if rooted then [] else [dotDot]
    | q :: rest => if q = dotDot then dotDot :: kept else rest
  else p :: kept

/-- the parts that stay after `.` and `..` are resolved -/
def resolve (rooted : Bool) (ps : List Part) : List Part := (ps.foldl (keep rooted) []).reverse

/-- the text of a resolved path -/
def render (rooted : Bool) (ps : List Part) : List Char :=
  if rooted then '/' :: joinParts ps
  else if ps.isEmpty then dot else joinParts ps

/-- `clean` on the characters of a path -/
def cleanChars (cs : List Char) : List Char :=
  render (isRooted cs) (resolve (isRooted cs) (parts cs))

/-- the normal form of a path -/
def clean (path : String) : String := String.ofList (cleanChars path.toList)

theorem toList_clean (path : String) : (clean path).toList = cleanChars path.toList := by
  simp [clean]

/-! ## normal form -/

/-- a part that names an entry of a directory -/
def IsName (p : Part) : Prop := p ≠ [] ∧ p ≠ dot ∧ p ≠ dotDot ∧ '/' ∉ p

/-- the parts of a path in normal form: some `..`, none of them in a rooted path, then names -/
def NormalParts (rooted : Bool) (ps : List Part) : Prop :=
  ∃ ups names, ps = List.replicate ups dotDot ++ names ∧ (∀ p ∈ names, IsName p) ∧
    (rooted = true → ups = 0)

/-- `.`, or a rooted or non-empty sequence of normal parts -/
def IsNormal (cs : List Char) : Prop :=
  cs = dot ∨ ∃ rooted ps, NormalParts rooted ps ∧ (rooted = true ∨ ps ≠ []) ∧
    cs = (if rooted then ['/'] else []) ++ joinParts ps

end PatternBuild.Path
