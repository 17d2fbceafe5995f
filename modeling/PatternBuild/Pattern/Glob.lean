import PatternBuild.Pattern.Token

/-!
# Globs: a pattern as a file-name mask

In a glob `*` stands for any run of characters other than `/`, `[c]` for the character `c`, and
any other character for itself.  `globText` writes a pattern as a glob; it is coarser than the
pattern, because captures and wildcards next to each other become one `*`.
-/

namespace PatternBuild.Pattern

/-! ## writing -/

/-- characters that a glob does not take as themselves -/
def isGlobSpecial (c : Char) : Bool :=
  c == '?' || c == '*' || c == '[' || c == ']' || c == '\x7b' || c == '\x7d'

/-- literal text in a glob -/
def globEscape (t : List Char) : List Char :=
  t.flatMap fun c => if isGlobSpecial c then ['[', c, ']'] else [c]

/-- tokens as a glob; `open?` says whether the text so far ends with a `*` -/
def globFrom (afterStar : Bool) : List Token → List Char
  | [] => []
  | .literal t :: ts => globEscape t ++ globFrom false ts
  | _ :: ts => if afterStar then globFrom true ts else '*' :: globFrom true ts

/-- the glob of a token list -/
def globText (ts : List Token) : List Char := globFrom false ts

/-! ## reading -/

/-- one step of a glob -/
inductive GlobItem where
  /-- a run of characters other than `/`, possibly empty -/
  | run
  | char (c : Char)
  deriving DecidableEq, Repr

/-- the items of a glob; a bracket holds one character -/
def globItems : List Char → List GlobItem
  | [] => []
  | '[' :: c :: ']' :: cs => .char c :: globItems cs
  | '*' :: cs => .run :: globItems cs
  | c :: cs => .char c :: globItems cs

/-- flags for the suffixes of a name that the items match, the name itself first -/
def globFits : List GlobItem → List Char → List Bool
  | [], [] => [true]
  | [], _ :: cs => false :: globFits [] cs
  | .char c :: items, name => charFits c name (globFits items name)
  | .run :: items, name => runFits name (globFits items name)
where
  /-- suffixes that start with `c` and go on with a marked one -/
  charFits (c : Char) : List Char → List Bool → List Bool
    | [], _ => [false]
    | d :: ds, later => (c == d && later.tail.headD false) :: charFits c ds later.tail
  /-- suffixes that reach a marked one without passing a `/` -/
  runFits : List Char → List Bool → List Bool
    | [], later => [later.headD false]
    | d :: ds, later =>
      let shorter := runFits ds later.tail
      (later.headD false || (d != '/' && shorter.headD false)) :: shorter

/-- whether a name matches a glob -/
def globMatches (glob name : List Char) : Bool := (globFits (globItems glob) name).headD false

end PatternBuild.Pattern
