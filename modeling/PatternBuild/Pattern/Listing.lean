import PatternBuild.FileSystem
import PatternBuild.Pattern.Basic

/-!
# Listing: the paths that a pattern finds

`Pattern.enumerate` walks down from the longest directory that the pattern names literally, as
many levels as the pattern has parts left, and keeps the paths that the pattern matches, in
ascending order.
-/

namespace PatternBuild.Pattern

open Path

/-! ## where the walk goes -/

/-- whether a part of a pattern stands for text that is not known beforehand -/
def isDynamicPart (part : Part) : Bool := (tokenize part).any Token.isDynamic

/-- the parts of a pattern, without the root -/
def namedParts (p : Pattern) : List Part := (parts p.text.toList).filter (· ≠ [])

/-- the leading parts that are literal; the last part is not among them, as it is listed -/
def literalParts (p : Pattern) : List Part :=
  p.namedParts.dropLast.takeWhile fun part => !isDynamicPart part

/-- the directory where the walk starts -/
def walkRoot (p : Pattern) : String :=
  String.ofList (render (isRooted p.text.toList) p.literalParts)

/-- how many levels below it the matching paths lie -/
def walkDepth (p : Pattern) : Nat := p.namedParts.length - p.literalParts.length

/-! ## the walk -/

/-- the paths `levels + 1` levels below a directory -/
def pathsBelow (fs : FileSystem) : Nat → String → Except FileFault (List String)
  | 0, dir => fs.list dir
  | levels + 1, dir => do
    let paths ← fs.list dir
    let below ← (paths.filter fs.isDir).mapM (pathsBelow fs levels)
    return below.flatten

/-- ascending by name -/
def sortEntries (es : List Entry) : List Entry := es.mergeSort fun a b => a.name ≤ b.name

/-- what the pattern makes of a path found on the walk -/
def candidate? (p : Pattern) (path : String) : Option Entry :=
  let name := clean path
  if p.passesGlob name then p.matches? name else none

/-- the paths that a pattern finds, ascending by name -/
def enumerate (p : Pattern) (fs : FileSystem) : Except Fault (List Entry) :=
  if fs.isDir p.walkRoot then
    match pathsBelow fs (p.walkDepth - 1) p.walkRoot with
    | .ok paths => .ok (sortEntries (paths.filterMap p.candidate?))
    | .error f => .error (.file f)
  else .ok []

end PatternBuild.Pattern
