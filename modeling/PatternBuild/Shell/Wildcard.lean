import PatternBuild.FileSystem.Disk

/-!
# Wildcards: the patterns of scripts

In a pattern `*` stands for any text, `?` for one character and `[…]` for one of a set, unless they
are quoted.  Where groups are known, patterns in parentheses stand for texts that match one of
them.  `fileNames` lists the paths of a disk that a pattern matches, part by part; a name that
starts with a dot is matched only by a pattern that does.
-/

namespace PatternBuild.Shell

/-- a character of a field, and whether it is quoted -/
abbrev Glyph := Char × Bool

/-- a member of a set of characters -/
inductive CharSet where
  | range (first last : Char)
  | named (name : String)
  deriving DecidableEq, Repr

/-- how often a text of a group occurs -/
inductive GroupKind where
  | optional
  | any
  | some
  | one
  /-- none of the texts of the group -/
  | none
  deriving DecidableEq, Repr

inductive Wildcard where
  | char (c : Char)
  | one
  | any
  | oneOf (negated : Bool) (sets : List CharSet)
  | group (kind : GroupKind) (alternatives : List (List Wildcard))
  deriving Repr

namespace Wildcard

/-! ## named classes -/

/-- the named classes of characters; they hold ASCII only -/
def inClass (name : String) (c : Char) : Bool :=
  match name with
  | "alpha" => c.isAlpha
  | "digit" => c.isDigit
  | "alnum" => c.isAlphanum
  | "upper" => c.isUpper
  | "lower" => c.isLower
  | "space" => c == ' ' || (9 ≤ c.toNat && c.toNat ≤ 13)
  | "blank" => c == ' ' || c == '\t'
  | "xdigit" => c.isDigit || ('a' ≤ c && c ≤ 'f') || ('A' ≤ c && c ≤ 'F')
  | "punct" => 33 ≤ c.toNat && c.toNat ≤ 126 && !c.isAlphanum
  | "print" => 32 ≤ c.toNat && c.toNat ≤ 126
  | "graph" => 33 ≤ c.toNat && c.toNat ≤ 126
  | "cntrl" => c.toNat < 32 || c.toNat == 127
  | _ => false

def hasChar (s : CharSet) (c : Char) : Bool :=
  match s with
  | .range a b => a ≤ c && c ≤ b
  | .named name => inClass name c

/-! ## reading -/

/-- the members of a set up to its closing bracket, and what follows; `isFirst` holds at its start,
where a bracket is a member -/
def readSet (isFirst : Bool) : Nat → List Glyph → Option (List CharSet × List Glyph)
  | 0, _ => none
  | n + 1, gs =>
    match gs with
    | [] => none
    | (']', false) :: rest =>
      if isFirst then (readSet false n rest).map fun (sets, rest) => (.range ']' ']' :: sets, rest)
      else some ([], rest)
    | ('[', false) :: (':', false) :: rest =>
      let name := (rest.map (·.1)).takeWhile Char.isAlpha
      match rest.drop name.length with
      | (':', _) :: (']', _) :: rest =>
        (readSet false n rest).map fun (sets, rest) => (.named (String.ofList name) :: sets, rest)
      | _ => (readSet false n ((':', false) :: rest)).map fun (sets, rest) =>
        (.range '[' '[' :: sets, rest)
    | (a, _) :: ('-', false) :: (b, q) :: rest =>
      if b = ']' ∧ q = false then
        (readSet false n (('-', true) :: (b, q) :: rest)).map fun (sets, rest) =>
          (.range a a :: sets, rest)
      else (readSet false n rest).map fun (sets, rest) => (.range a b :: sets, rest)
    | (a, _) :: rest => (readSet false n rest).map fun (sets, rest) => (.range a a :: sets, rest)

/-- the group that a character in front of a parenthesis starts -/
def groupKind? (c : Char) : Option GroupKind :=
  match c with
  | '?' => some .optional
  | '*' => some .any
  | '+' => some .some
  | '@' => some .one
  | '!' => some .none
  | _ => none

/-- the texts between the bars of a group, and what follows its closing parenthesis -/
def splitGroup : Nat → List Glyph → Option (List (List Glyph) × List Glyph)
  | _, [] => none
  | 0, (')', false) :: gs => some ([[]], gs)
  | depth, g :: gs =>
    let deeper := if g = ('(', false) then depth + 1
      else if g = (')', false) then depth - 1 else depth
    (splitGroup deeper gs).map fun (parts, rest) =>
      if depth = 0 ∧ g = ('|', false) then ([] :: parts, rest)
      else match parts with
        | [] => ([[g]], rest)
        | p :: ps => ((g :: p) :: ps, rest)

/-- the wildcards that at most `n` characters write -/
def readUpTo (hasGroups : Bool) : Nat → List Glyph → List Wildcard
  | 0, _ => []
  | n + 1, gs =>
    let group? : Option (GroupKind × List (List Glyph) × List Glyph) := match gs with
      | (c, false) :: ('(', false) :: rest =>
        if hasGroups then
          (groupKind? c).bind fun kind => (splitGroup 0 rest).map fun (parts, rest) =>
            (kind, parts, rest)
        else none
      | _ => none
    match group? with
    | some (kind, parts, rest) =>
      .group kind (parts.map (readUpTo hasGroups n)) :: readUpTo hasGroups n rest
    | none =>
      match gs with
      | [] => []
      | ('*', false) :: rest => .any :: readUpTo hasGroups n rest
      | ('?', false) :: rest => .one :: readUpTo hasGroups n rest
      | ('[', false) :: rest =>
        let (negated, inside) := match rest with
          | ('!', false) :: inside => (true, inside)
          | ('^', false) :: inside => (true, inside)
          | inside => (false, inside)
        match readSet true (inside.length + 1) inside with
        | some (sets, rest) => .oneOf negated sets :: readUpTo hasGroups n rest
        | none => .char '[' :: readUpTo hasGroups n rest
      | (c, _) :: rest => .char c :: readUpTo hasGroups n rest

def read (hasGroups : Bool) (gs : List Glyph) : List Wildcard := readUpTo hasGroups gs.length gs

/-- the wildcards of a text without quotes -/
def ofText (text : String) : List Wildcard := read false (text.toList.map fun c => (c, false))

/-- whether a field may be more than its text, going by its characters -/
def isMarked (hasGroups : Bool) : List Glyph → Bool
  | [] => false
  | (c, false) :: gs =>
    c == '*' || c == '?' || c == '[' ||
      (hasGroups && (groupKind? c).isSome && gs.head? == some ('(', false)) ||
      isMarked hasGroups gs
  | _ :: gs => isMarked hasGroups gs

/-- whether a wildcard is more than a character -/
def isWide : Wildcard → Bool
  | .char _ => false
  | _ => true

/-- whether a field is more than its text -/
def isActive (hasGroups : Bool) (gs : List Glyph) : Bool :=
  isMarked hasGroups gs && (read hasGroups gs).any isWide

/-! ## matching -/

/-- the ways to cut a text in two, the shortest first part first -/
def cuts (cs : List Char) : List (List Char × List Char) :=
  (List.range (cs.length + 1)).map fun n => (cs.take n, cs.drop n)

/-- a text and its ends, the longest first -/
def ends : List Char → List (List Char)
  | [] => [[]]
  | c :: cs => (c :: cs) :: ends cs

/-- whether wildcards match a whole text, looked at in at most `n` steps into the depth -/
def fitsUpTo : Nat → List Wildcard → List Char → Bool
  | _, [], cs => cs.isEmpty
  | 0, _, _ => false
  | n + 1, .any :: ws, cs => ws.isEmpty || (ends cs).any (fitsUpTo n ws)
  | n + 1, .char x :: ws, c :: cs => x == c && fitsUpTo n ws cs
  | n + 1, .one :: ws, _ :: cs => fitsUpTo n ws cs
  | n + 1, .oneOf negated sets :: ws, c :: cs =>
    (sets.any (hasChar · c) != negated) && fitsUpTo n ws cs
  | n + 1, .group kind alternatives :: ws, cs =>
    let isOne (p : List Char) : Bool := alternatives.any fun a => fitsUpTo n a p
    let once : Bool := (cuts cs).any fun (p, q) => isOne p && fitsUpTo n ws q
    let more : Bool := (cuts cs).any fun (p, q) =>
      !p.isEmpty && isOne p && fitsUpTo n (.group .any alternatives :: ws) q
    match kind with
    | .optional => fitsUpTo n ws cs || once
    | .any => fitsUpTo n ws cs || more
    | .some => more || once
    | .one => once
    | .none => (cuts cs).any fun (p, q) => !(isOne p) && fitsUpTo n ws q
  | _ + 1, _ :: _, [] => false

mutual

/-- the number of wildcards, those in groups too -/
def size : Wildcard → Nat
  | .group _ alternatives => sizeOfAll alternatives + 1
  | _ => 1

def sizeOf : List Wildcard → Nat
  | [] => 0
  | w :: ws => w.size + sizeOf ws

def sizeOfAll : List (List Wildcard) → Nat
  | [] => 0
  | ws :: more => sizeOf ws + sizeOfAll more

end

/-! ## matching without groups

Wildcards without groups are followed side by side: what may still have to match is a list of ends of
the pattern, the longest first.  So a text is read once. -/

/-- whether a wildcard is no group -/
def isSingle : Wildcard → Bool
  | .group _ _ => false
  | _ => true

/-- an end of the pattern, and those that remain if the wildcards for anything in front match nothing -/
def opened : List Wildcard → List (List Wildcard)
  | .any :: ws => (.any :: ws) :: opened ws
  | ws => [ws]

/-- what remains of an end of the pattern after a character -/
def after (c : Char) : List Wildcard → List (List Wildcard)
  | .any :: ws => opened (.any :: ws)
  | .char x :: ws => if x == c then opened ws else []
  | .one :: ws => opened ws
  | .oneOf negated sets :: ws => if sets.any (hasChar · c) != negated then opened ws else []
  | _ => []

/-- add an end of the pattern to others, the longest first; ends of one length are the same -/
def withEnd (ws : List Wildcard) : List (List Wildcard) → List (List Wildcard)
  | [] => [ws]
  | vs :: more =>
    if vs.length < ws.length then ws :: vs :: more
    else if vs.length = ws.length then vs :: more
    else vs :: withEnd ws more

/-- what remains after a character -/
def next (c : Char) (open_ : List (List Wildcard)) : List (List Wildcard) :=
  (open_.flatMap (after c)).foldl (fun found ws => withEnd ws found) []

/-- whether nothing need follow -/
def isDone (open_ : List (List Wildcard)) : Bool := open_.any List.isEmpty

/-- the lengths of the parts at the front of a text that match, the longest first; `n` characters were
read and `found` are the lengths up to there -/
def lengthsFrom (open_ : List (List Wildcard)) (n : Nat) (found : List Nat) : List Char → List Nat
  | [] => if isDone open_ then n :: found else found
  | c :: cs =>
    let found := if isDone open_ then n :: found else found
    if open_.isEmpty then found else lengthsFrom (next c open_) (n + 1) found cs

/-! ## whole texts and their parts -/

/-- whether wildcards match a whole text -/
def fits (ws : List Wildcard) (cs : List Char) : Bool :=
  if ws.all isSingle then isDone (cs.foldl (fun open_ c => next c open_) (opened ws))
  else fitsUpTo (sizeOf ws + cs.length + 1) ws cs

/-- the lengths of the parts at the front of a text that wildcards match, the longest first -/
def fitLengths (ws : List Wildcard) (cs : List Char) : List Nat :=
  if ws.all isSingle then lengthsFrom (opened ws) 0 [] cs
  else (List.range (cs.length + 1)).reverse.filter fun n => fits ws (cs.take n)

/-- the lengths of the parts at the end of a text that wildcards match, the longest first -/
def fitLengthsAtEnd (ws : List Wildcard) (cs : List Char) : List Nat :=
  if ws.all isSingle then lengthsFrom (opened ws.reverse) 0 [] cs.reverse
  else (List.range (cs.length + 1)).reverse.filter fun n => fits ws (cs.drop (cs.length - n))

/-- the text without a part that the pattern matches at its start or end -/
def cut (ws : List Wildcard) (atEnd longest : Bool) (cs : List Char) : List Char :=
  let lengths := if atEnd then fitLengthsAtEnd ws cs else fitLengths ws cs
  match (if longest then lengths.head? else lengths.getLast?) with
  | some n => if atEnd then cs.take (cs.length - n) else cs.drop n
  | none => cs

/-- the length of the longest part at the front of a text that wildcards match -/
def longestFit? (ws : List Wildcard) (cs : List Char) : Option Nat := (fitLengths ws cs).head?

end Wildcard

/-! ## names of files -/

/-- how patterns are taken for names of files -/
structure NameRules where
  /-- patterns in parentheses are known -/
  hasGroups : Bool
  /-- names that start with a dot are like others -/
  showsHidden : Bool
  /-- the names `.` and `..` are among those that start with a dot -/
  hasDots : Bool
  /-- a part `**` stands for directories of any depth -/
  goesDeep : Bool
  /-- upper and lower letters are the same -/
  ignoresCase : Bool
  deriving DecidableEq, Repr

/-- the parts of a field between slashes -/
def fieldParts : List Glyph → List (List Glyph)
  | [] => [[]]
  | (c, q) :: gs =>
    if c = '/' then [] :: fieldParts gs
    else match fieldParts gs with
      | [] => [[(c, q)]]
      | p :: ps => ((c, q) :: p) :: ps

/-- the directories below a path, with the path itself, down to a depth -/
def dirsBelow (showsHidden : Bool) (d : Disk) : Nat → String → List String
  | 0, base => [base]
  | n + 1, base =>
    let names := ((d.list (if base = "" then "." else base)).toOption.getD []).filter fun name =>
      (showsHidden || !name.startsWith ".") && d.isDir (base ++ name) && !d.isLink (base ++ name)
    base :: names.flatMap fun name => dirsBelow showsHidden d n (base ++ name ++ "/")

/-- the paths below `base` that match the parts -/
def namesBelow (r : NameRules) (d : Disk) (base : String) : List (List Glyph) → List String
  | [] => if d.isThere base then [base] else []
  | part :: parts =>
    let goOn (base name : String) : List String :=
      namesBelow r d (base ++ name ++ (if parts.isEmpty then "" else "/")) parts
    let listed (base : String) : List String :=
      (d.list (if base = "" then "." else base)).toOption.getD []
    if r.goesDeep && part = [('*', false), ('*', false)] then
      let bases := dirsBelow r.showsHidden d d.nodes.entries.length base
      if parts.isEmpty then
        (if base = "" then [] else [base]) ++ bases.flatMap fun b =>
          ((listed b).filter fun n => r.showsHidden || !n.startsWith ".").map (b ++ ·)
      else bases.flatMap fun b => namesBelow r d b parts
    else if Wildcard.isActive r.hasGroups part then
      let fold (c : Char) : Char := if r.ignoresCase then c.toLower else c
      let ws := Wildcard.read r.hasGroups (part.map fun (c, q) => (fold c, q))
      let wantsDot := part.head?.any (·.1 = '.')
      let dots := if r.hasDots && wantsDot then [".", ".."] else []
      let names := (dots ++ listed base).filter fun n =>
        (wantsDot || r.showsHidden || !n.startsWith ".") && Wildcard.fits ws (n.toList.map fold)
      names.flatMap fun n =>
        if parts.isEmpty || d.isDir (base ++ n) then goOn base n else []
    else goOn base (String.ofList (part.map (·.1)))

/-- the paths that a field matches, ascending -/
def fileNames (r : NameRules) (d : Disk) (field : List Glyph) : List String :=
  (namesBelow r d "" (fieldParts field)).mergeSort fun a b => !decide (b < a)

end PatternBuild.Shell
