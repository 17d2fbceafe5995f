import PatternBuild.Pattern.Token

/-!
# Cuts: a name divided among the tokens of a pattern

A token admits a piece of text: a literal only itself, a capture or wildcard any non-empty run of
segment characters.  A cut of a name gives every token a piece it admits, in order.  `cut?` finds
the cut whose pieces are longest, compared from left to right.

`fits` marks the suffixes of a name that the tokens can divide; it is filled from the right, so
the search never goes back.
-/

namespace PatternBuild.Pattern

/-- a character that a capture or wildcard may span: an ASCII letter or digit, `-`, `_` or `.` -/
def isSegment (c : Char) : Bool := c.isAlphanum || c == '-' || c == '_' || c == '.'

/-! ## what a cut is -/

namespace Token

/-- whether a token can stand for a piece of text -/
def Admits : Token → List Char → Prop
  | .literal t, p => p = t
  | _, p => p ≠ [] ∧ ∀ c ∈ p, isSegment c = true

end Token

/-- one piece for every token, together spelling the name -/
def IsCut : List Token → List Char → List (List Char) → Prop
  | [], name, [] => name = []
  | t :: ts, name, p :: ps => t.Admits p ∧ ∃ rest, name = p ++ rest ∧ IsCut ts rest ps
  | _, _, _ => False

/-- lengths compared from left to right, the longer one first -/
def LongestFirst : List (List Char) → List (List Char) → Prop
  | p :: ps, q :: qs => q.length < p.length ∨ (p.length = q.length ∧ LongestFirst ps qs)
  | _, _ => True

/-- the cut that takes as much as it can, from left to right -/
def IsGreediest (ts : List Token) (name : List Char) (ps : List (List Char)) : Prop :=
  IsCut ts name ps ∧ ∀ qs, IsCut ts name qs → LongestFirst ps qs

/-! ## which suffixes can be divided -/

/-- flags for the suffixes of a name, the name itself first and the empty suffix last -/
abbrev Flags := List Bool

/-- only the empty suffix is divided among no tokens -/
def noTokens : List Char → Flags
  | [] => [true]
  | _ :: cs => false :: noTokens cs

/-- the suffixes that start with `text` and go on with a marked one -/
def afterText (text : List Char) : List Char → Flags → Flags
  | [], later => [text.isEmpty && later.headD false]
  | c :: cs, later =>
    (text.isPrefixOf (c :: cs) && (later.drop text.length).headD false) ::
      afterText text cs later.tail

/-- the suffixes that start with a run of segment characters and go on with a marked one -/
def afterRun : List Char → Flags → Flags
  | [], _ => [false]
  | c :: cs, later =>
    let shorter := afterRun cs later.tail
    (isSegment c && (later.tail.headD false || shorter.headD false)) :: shorter

/-- the suffixes of a name that the tokens can divide -/
def fits : List Token → List Char → Flags
  | [], name => noTokens name
  | .literal t :: ts, name => afterText t name (fits ts name)
  | _ :: ts, name => afterRun name (fits ts name)

/-! ## the greediest cut -/

/-- the longest run of segment characters after which the flag is set; the flags belong to the
suffixes after one, two, … characters -/
def longestRun : List Char → Flags → Option Nat
  | c :: cs, b :: bs =>
    if isSegment c then
      match longestRun cs bs with
      | some k => some (k + 1)
      | none => if b then some 1 else none
    else none
  | _, _ => none

/-- the cut that takes as much as it can, from left to right -/
def cut? : List Token → List Char → Option (List (List Char))
  | [], name => if name.isEmpty then some [] else none
  | .literal t :: ts, name =>
    if t.isPrefixOf name then (cut? ts (name.drop t.length)).map (t :: ·) else none
  | _ :: ts, name => do
    let k ← longestRun name (fits ts name).tail
    (cut? ts (name.drop k)).map (name.take k :: ·)

end PatternBuild.Pattern
