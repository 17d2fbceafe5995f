import PatternBuild.Shell.Escape
import PatternBuild.Shell.Wildcard

/-!
# Regular expressions

`Regex.read` reads an expression in one of the spellings that programs know, and `Regex.find?` finds
the leftmost of its matches that is the longest.  The matcher computes the set of all places where a
match from a given place may end (`Regex.ends`), so it never tries a choice twice; what the groups
match is read off afterwards, group by group from the left, each as long as possible.  An
expression that asks for the text of a group again is matched choice by choice instead.
-/

namespace PatternBuild.Shell

/-- a condition on a place of a text, which takes no characters -/
inductive PlaceTest where
  | lineStart
  | lineEnd
  | textStart
  | textEnd
  | wordStart
  | wordEnd
  | wordEdge
  | noWordEdge
  deriving DecidableEq, Repr

inductive Regex where
  | empty
  | char (c : Char)
  | any
  | oneOf (negated : Bool) (sets : List CharSet)
  | place (test : PlaceTest)
  | group (number : Nat) (inner : Regex)
  /-- what a group matched -/
  | again (number : Nat)
  | append (first second : Regex)
  | either (first second : Regex)
  | repeated (inner : Regex) (least : Nat) (most : Option Nat)
  deriving DecidableEq, Repr

/-- why a text is no expression -/
inductive RegexFault where
  | openBracket
  | openParenthesis
  | closingParenthesis
  | openBrace
  | badCount
  | countTooBig
  | badRange
  | badClass
  | badCollation
  | badReference
  | trailingBackslash
  | missingOperand
  deriving DecidableEq, Repr

def RegexFault.message : RegexFault → String
  | .openBracket => "Unmatched [, [^, [:, [., or [="
  | .openParenthesis => "Unmatched ( or \\("
  | .closingParenthesis => "Unmatched ) or \\)"
  | .openBrace => "Unmatched \\\x7b"
  | .badCount => "Invalid content of \\\x7b\\\x7d"
  | .countTooBig => "Regular expression too big"
  | .badRange => "Invalid range end"
  | .badClass => "Invalid character class name"
  | .badCollation => "Invalid collation character"
  | .badReference => "Invalid back reference"
  | .trailingBackslash => "Trailing backslash"
  | .missingOperand => "Invalid preceding regular expression"

/-- what becomes of an operator that has nothing in front of it -/
inductive LoneOperator where
  /-- it repeats nothing -/
  | skipped
  | refused
  deriving DecidableEq, Repr

/-- what a brace means that no count follows -/
inductive BraceRule where
  | refused
  /-- it stands for itself -/
  | kept
  /-- it stands for itself, and no counts are known at all -/
  | uncounted
  deriving DecidableEq, Repr

/-- how expressions are written -/
structure RegexSpelling where
  /-- operators have no backslash in front -/
  isExtended : Bool
  /-- a backslash and a letter stand for a control character -/
  hasLetters : Bool
  /-- a backslash in brackets is no member of the set by itself -/
  escapesInSets : Bool
  /-- a backslash and a letter stand for words, blanks and their edges, and one with a digit for what
  a group matched -/
  hasClasses : Bool
  loneOperator : LoneOperator
  /-- a closing parenthesis that nothing opened stands for itself -/
  keepsClosing : Bool
  braces : BraceRule
  /-- nothing may stand for a part of an expression -/
  allowsEmpty : Bool
  /-- a range whose end comes before its start is turned round -/
  turnsRanges : Bool
  deriving DecidableEq, Repr

namespace RegexSpelling

/-- expressions whose operators have a backslash in front -/
def basic : RegexSpelling := ⟨false, false, false, true, .skipped, false, .refused, true, false⟩
/-- expressions whose operators stand alone -/
def extended : RegexSpelling := ⟨true, false, false, true, .skipped, true, .kept, true, false⟩
/-- the spellings of the stream editor -/
def editor (isExtended : Bool) : RegexSpelling :=
  ⟨isExtended, true, false, true, if isExtended then .refused else .skipped, false, .refused, true,
    false⟩
/-- the spelling of the language for records -/
def records : RegexSpelling := ⟨true, true, true, false, .refused, true, .uncounted, false, true⟩
/-- the spelling of conditions in scripts -/
def conditions : RegexSpelling := ⟨true, false, false, true, .refused, true, .refused, true, false⟩

end RegexSpelling

namespace Regex

/-! ## reading -/

/-- a reader of expressions: the rest, and the number of groups so far -/
abbrev Parsed := Regex × List Char × Nat

/-- the largest count that a brace may hold -/
def largestCount : Nat := 32767

/-- what a brace says -/
inductive Count where
  | bounds (least : Nat) (most : Option Nat) (rest : List Char)
  | none

/-- the counts behind an opening brace -/
def readCount (s : RegexSpelling) (cs : List Char) : Except RegexFault Count :=
  let low := cs.takeWhile Char.isDigit
  let rest := cs.drop low.length
  let least := (numeral? 10 low).getD 0
  let invalid (rest : List Char) : Except RegexFault Count :=
    if s.braces ≠ .refused then .ok .none
    else if rest.isEmpty then .error .openBrace else .error .badCount
  let close (most : Option Nat) (rest : List Char) : Except RegexFault Count :=
    let stop (rest : List Char) : Except RegexFault Count :=
      match most with
      | some m =>
        if m < least then .error .badCount
        else if largestCount < m then .error .countTooBig else .ok (.bounds least most rest)
      | Option.none => if largestCount < least then .error .countTooBig else .ok (.bounds least most rest)
    match rest with
    | '}' :: rest => if s.isExtended then stop rest else invalid ('}' :: rest)
    | '\\' :: '}' :: rest => if s.isExtended then invalid rest else stop rest
    | rest => invalid rest
  match rest with
  | ',' :: rest =>
    let high := rest.takeWhile Char.isDigit
    close (numeral? 10 high) (rest.drop high.length)
  | rest => if low.isEmpty then invalid rest else close (some least) rest

/-- the repetitions that are written after an expression -/
def readRepeats (s : RegexSpelling) (r : Regex) : Nat → List Char → Except RegexFault (Regex × List Char)
  | 0, cs => .ok (r, cs)
  | n + 1, cs =>
    let counted (rest : List Char) : Except RegexFault (Regex × List Char) := do
      match ← readCount s rest with
      | .bounds least most rest => readRepeats s (.repeated r least most) n rest
      | .none => return (r, cs)
    match s.isExtended, cs with
    | _, '*' :: cs => readRepeats s (.repeated r 0 none) n cs
    | true, '+' :: cs => readRepeats s (.repeated r 1 none) n cs
    | true, '?' :: cs => readRepeats s (.repeated r 0 (some 1)) n cs
    | false, '\\' :: '+' :: cs => readRepeats s (.repeated r 1 none) n cs
    | false, '\\' :: '?' :: cs => readRepeats s (.repeated r 0 (some 1)) n cs
    | true, '{' :: rest => if s.braces = .uncounted then .ok (r, cs) else counted rest
    | false, '\\' :: '{' :: rest => counted rest
    | _, cs => .ok (r, cs)

/-- the classes of characters that a backslash and a letter name -/
def classLetter? : Char → Option Regex
  | 'w' => some (.oneOf false [.named "alnum", .range '_' '_'])
  | 'W' => some (.oneOf true [.named "alnum", .range '_' '_'])
  | 's' => some (.oneOf false [.named "space"])
  | 'S' => some (.oneOf true [.named "space"])
  | 'b' => some (.place .wordEdge)
  | 'B' => some (.place .noWordEdge)
  | '<' => some (.place .wordStart)
  | '>' => some (.place .wordEnd)
  | '`' => some (.place .textStart)
  | '\'' => some (.place .textEnd)
  | _ => none

/-- the character that a backslash and a letter, with digits perhaps, stand for -/
def letter? : List Char → Option (Char × List Char)
  | 'n' :: cs => some ('\n', cs)
  | 't' :: cs => some ('\t', cs)
  | 'f' :: cs => some ('\x0c', cs)
  | 'v' :: cs => some ('\x0b', cs)
  | 'a' :: cs => some ('\x07', cs)
  | 'r' :: cs => some ('\r', cs)
  | 'x' :: cs =>
    let (digits, rest) := takeDigits isHexDigit 2 cs
    (numeral? 16 digits).map fun n => (octetOf n, rest)
  | 'o' :: cs =>
    let (digits, rest) := takeDigits isOctal 3 cs
    (numeral? 8 digits).map fun n => (octetOf n, rest)
  | 'd' :: cs =>
    let (digits, rest) := takeDigits Char.isDigit 3 cs
    (numeral? 10 digits).map fun n => (octetOf n, rest)
  | _ => none

/-- the characters of a set, those after a backslash quoted -/
def setGlyphs (s : RegexSpelling) : Nat → List Char → List Glyph
  | 0, _ => []
  | n + 1, cs =>
    match cs with
    | [] => []
    | '\\' :: rest =>
      match if s.hasLetters then letter? rest else none with
      | some (c, rest) => (c, true) :: setGlyphs s n rest
      | none =>
        if s.escapesInSets then
          match rest with
          | c :: rest => (c, true) :: setGlyphs s n rest
          | [] => [('\\', true)]
        else ('\\', true) :: setGlyphs s n rest
    | c :: rest => (c, false) :: setGlyphs s n rest

/-- what follows a set, given how many of its glyphs are left -/
def restAfterSet (s : RegexSpelling) (inside : List Char) (left : Nat) : List Char :=
  match (List.range (inside.length + 1)).find? fun n =>
      (setGlyphs s inside.length (inside.drop n)).length = left with
  | some n => inside.drop n
  | none => []

/-- the classes that sets may name -/
def classNames : List String :=
  ["alpha", "digit", "alnum", "upper", "lower", "space", "blank", "punct", "print", "graph", "cntrl",
    "xdigit"]

/-- a set as it is looked at: names that there are, and ranges that are the right way round -/
def checkedSet (s : RegexSpelling) : CharSet → Except RegexFault CharSet
  | .named name => if classNames.contains name then .ok (.named name) else .error .badClass
  | .range a b =>
    if a ≤ b then .ok (.range a b)
    else if s.turnsRanges then .ok (.range b a) else .error .badRange

/-- a set of characters and what follows it, from behind its opening bracket -/
def readBracket (s : RegexSpelling) (cs : List Char) : Except RegexFault (Regex × List Char) := do
  let (negated, inside) := match cs with
    | '^' :: inside => (true, inside)
    | inside => (false, inside)
  match Wildcard.readSet true (inside.length + 1) (setGlyphs s inside.length inside) with
  | none => throw .openBracket
  | some (sets, rest) =>
    -- what follows the set is found by its length: escapes in the rest stay as they are
    return (.oneOf negated (← sets.mapM (checkedSet s)), restAfterSet s inside rest.length)

/-- a character behind a backslash that is no operator, and what follows -/
def readEscaped (s : RegexSpelling) (groups : Nat) (c : Char) (cs : List Char) :
    Except RegexFault (Regex × List Char) :=
  if '1' ≤ c && c ≤ '9' && s.hasClasses then
    if groups < c.toNat - 48 then .error .badReference else .ok (.again (c.toNat - 48), cs)
  else
    match if s.hasClasses then classLetter? c else none with
    | some r => .ok (r, cs)
    | none =>
      match if s.hasLetters then letter? (c :: cs) else none with
      | some (c, cs) => .ok (.char c, cs)
      | none =>
        match if s.escapesInSets then octalEscape? .threeDigits (c :: cs) else none with
        | some (x, rest) => .ok (.char x, rest)
        | none => .ok (.char c, cs)

/-- whether a part of an expression ends here; `depth` groups are open -/
def endsPart (s : RegexSpelling) (depth : Nat) : List Char → Bool
  | [] => true
  | '\\' :: c :: _ => !s.isExtended && (c == '|' || c == ')')
  | c :: _ => s.isExtended && (c == '|' || c == ')' && (0 < depth || !s.keepsClosing))

/-- whether an operator that repeats stands here -/
def startsRepeat (s : RegexSpelling) : List Char → Bool
  | '*' :: _ => true
  | '+' :: _ => s.isExtended
  | '?' :: _ => s.isExtended
  | '{' :: cs =>
    s.isExtended && s.braces ≠ .uncounted && match readCount s cs with
      | .ok .none => false
      | _ => true
  | _ => false

mutual

/-- expressions with bars between them -/
def alternatives (s : RegexSpelling) (depth groups : Nat) : Nat → List Char → Except RegexFault Parsed
  | 0, _ => .error .countTooBig
  | n + 1, cs => do
    let (a, cs, groups) ← pieces s depth groups true s.allowsEmpty n cs
    match s.isExtended, cs with
    | true, '|' :: cs =>
      let (b, cs, groups) ← alternatives s depth groups n cs
      return (.either a b, cs, groups)
    | false, '\\' :: '|' :: cs =>
      let (b, cs, groups) ← alternatives s depth groups n cs
      return (.either a b, cs, groups)
    | _, cs => return (a, cs, groups)
termination_by structural n => n

/-- pieces one after the other; there may be none if `mayBeEmpty` holds -/
def pieces (s : RegexSpelling) (depth groups : Nat) (isFirst mayBeEmpty : Bool) :
    Nat → List Char → Except RegexFault Parsed
  | 0, _ => .error .countTooBig
  | n + 1, cs => do
    if endsPart s depth cs then
      if !mayBeEmpty then throw (if cs.isEmpty && 0 < depth then .openParenthesis else .missingOperand)
      return (.empty, cs, groups)
    let (a, cs, groups) ← piece s depth groups isFirst n cs
    let isAnchor := a == .place .lineStart
    let (a, cs) ← if isAnchor && !s.isExtended then pure (a, cs) else readRepeats s a n cs
    let (b, cs, groups) ← pieces s depth groups (isAnchor && !s.isExtended) true n cs
    return (if b == .empty then a else .append a b, cs, groups)
termination_by structural n => n

/-- one piece, without what repeats it -/
def piece (s : RegexSpelling) (depth groups : Nat) (isFirst : Bool) :
    Nat → List Char → Except RegexFault Parsed
  | 0, _ => .error .countTooBig
  | n + 1, cs => do
    let group (cs : List Char) : Except RegexFault Parsed := do
      let (r, cs, after) ← alternatives s (depth + 1) (groups + 1) n cs
      match s.isExtended, cs with
      | true, ')' :: cs => return (.group (groups + 1) r, cs, after)
      | false, '\\' :: ')' :: cs => return (.group (groups + 1) r, cs, after)
      | _, _ => throw .openParenthesis
    if s.isExtended && startsRepeat s cs then
      if s.loneOperator = .refused then throw .missingOperand
      -- an operator without an operand repeats nothing
      return (.empty, cs, groups)
    match cs with
    | [] => return (.empty, [], groups)
    | '.' :: cs => return (.any, cs, groups)
    | '^' :: cs =>
      if s.isExtended || isFirst then return (.place .lineStart, cs, groups)
      else return (.char '^', cs, groups)
    | '$' :: cs =>
      let ends := cs.isEmpty || ("\\)".toList).isPrefixOf cs || ("\\|".toList).isPrefixOf cs
      if s.isExtended || ends then return (.place .lineEnd, cs, groups)
      else return (.char '$', cs, groups)
    | '[' :: cs =>
      let (r, cs) ← readBracket s cs
      return (r, cs, groups)
    | '(' :: cs => if s.isExtended then group cs else return (.char '(', cs, groups)
    | ['\\'] => if s.escapesInSets then return (.char '\\', [], groups) else throw .trailingBackslash
    | '\\' :: c :: cs =>
      if !s.isExtended && c == '(' then group cs
      else if !s.isExtended && isFirst && c == '{' then
        if s.hasLetters then throw .missingOperand else return (.char '{', cs, groups)
      else
        let (r, cs) ← readEscaped s groups c cs
        return (r, cs, groups)
    | c :: cs => return (.char c, cs, groups)
termination_by structural n => n

end

/-- the expression that a text writes -/
def read (s : RegexSpelling) (text : List Char) : Except RegexFault Regex := do
  match ← alternatives s 0 0 (8 * text.length + 16) text with
  | (r, [], _) => return r
  | (_, _, _) => throw .closingParenthesis

/-- the expression of a text without special characters -/
def ofText (text : List Char) : Regex :=
  text.foldr (fun c r => if r == .empty then .char c else .append (.char c) r) .empty

/-- the number of groups -/
def groupCount : Regex → Nat
  | .group _ r => r.groupCount + 1
  | .append a b => a.groupCount + b.groupCount
  | .either a b => a.groupCount + b.groupCount
  | .repeated r _ _ => r.groupCount
  | _ => 0

/-- whether the text of a group is asked for again -/
def asksAgain : Regex → Bool
  | .again _ => true
  | .group _ r => r.asksAgain
  | .append a b => a.asksAgain || b.asksAgain
  | .either a b => a.asksAgain || b.asksAgain
  | .repeated r _ _ => r.asksAgain
  | _ => false

/-! ## places -/

/-- a text in which an expression is looked for -/
structure Subject where
  text : Array Char
  ignoresCase : Bool
  /-- lines inside the text have starts and ends of their own -/
  isMultiline : Bool

def isWordChar (c : Char) : Bool := c.isAlphanum || c == '_'

namespace Subject

def wordAt (s : Subject) (i : Nat) : Bool := (s.text[i]?).any isWordChar

/-- whether the character before a place belongs to a word -/
def wordBefore (s : Subject) (i : Nat) : Bool := i ≠ 0 && s.wordAt (i - 1)

def holds (s : Subject) (i : Nat) : PlaceTest → Bool
  | .lineStart => i == 0 || (s.isMultiline && s.text[i - 1]? == some '\n')
  | .lineEnd => i == s.text.size || (s.isMultiline && s.text[i]? == some '\n')
  | .textStart => i == 0
  | .textEnd => i == s.text.size
  | .wordStart => s.wordAt i && !s.wordBefore i
  | .wordEnd => s.wordBefore i && !s.wordAt i
  | .wordEdge => s.wordAt i != s.wordBefore i
  | .noWordEdge => s.wordAt i == s.wordBefore i

/-- whether a character is one that an expression for one character takes -/
def takes (s : Subject) (r : Regex) (c : Char) : Bool :=
  match r with
  | .char x => x == c || (s.ignoresCase && x.toLower == c.toLower)
  | .any => !(s.isMultiline && c == '\n')
  | .oneOf negated sets =>
    let hit (x : Char) : Bool := sets.any (Wildcard.hasChar · x)
    let isHit := hit c || (s.ignoresCase && (hit c.toLower || hit c.toUpper))
    isHit != negated && !(negated && s.isMultiline && c == '\n')
  | _ => false

end Subject

/-! ## sets of ends -/

/-- the union of two descending lists without repetition -/
def union : List Nat → List Nat → List Nat
  | [], ys => ys
  | xs, [] => xs
  | x :: xs, y :: ys =>
    if x = y then x :: union xs ys
    else if y < x then x :: union xs (y :: ys)
    else y :: union (x :: xs) ys
termination_by xs ys => xs.length + ys.length

/-- the places reached from those of a list -/
def unionOf (step : Nat → List Nat) (places : List Nat) : List Nat :=
  places.foldl (fun found i => union found (step i)) []

/-- the places reached from those of a list by a number of steps -/
def stepTimes (step : Nat → List Nat) : Nat → List Nat → List Nat
  | 0, places => places
  | n + 1, places => stepTimes step n (unionOf step places)

/-- the places reached by at most `n` steps; `seen` were reached before -/
def stepUpTo (step : Nat → List Nat) : Nat → List Nat → List Nat → List Nat
  | 0, seen, _ => seen
  | n + 1, seen, frontier =>
    let next := (unionOf step frontier).filter fun i => !seen.contains i
    if next.isEmpty then seen else stepUpTo step n (union seen next) next

/-- the ends of a run of characters that a test takes, the farthest first -/
def runEnds (s : Subject) (r : Regex) : Nat → Nat → List Nat → List Nat
  | 0, _, found => found
  | n + 1, i, found =>
    match s.text[i]? with
    | some c => if s.takes r c then runEnds s r n (i + 1) ((i + 1) :: found) else found
    | none => found

/-- whether an expression takes exactly one character -/
def isSingle : Regex → Bool
  | .char _ => true
  | .any => true
  | .oneOf _ _ => true
  | _ => false

/-- the places where a match that starts at `i` may end, the farthest first; a group that is asked
for again is no part of this -/
def ends (s : Subject) : Regex → Nat → List Nat
  | .empty, i => [i]
  | .place t, i => if s.holds i t then [i] else []
  | .group _ r, i => ends s r i
  | .again _, _ => []
  | .append a b, i => unionOf (ends s b) (ends s a i)
  | .either a b, i => union (ends s a i) (ends s b i)
  | .repeated r least most, i =>
    if isSingle r then
      let limit := match most with
        | some m => m
        | none => s.text.size
      (runEnds s r limit i [i]).filter fun j => least ≤ j - i
    else
      let first := stepTimes (ends s r) least [i]
      let limit := match most with
        | some m => m - least
        | none => s.text.size + 1
      stepUpTo (ends s r) limit first first
  | r, i =>
    match s.text[i]? with
    | some c => if s.takes r c then [i + 1] else []
    | none => []

/-! ## groups -/

/-- what groups match, by number, as places -/
abbrev Spans := List (Nat × Nat × Nat)

/-- what the groups of an expression match if the whole matches from `i` to `j` -/
def spans (s : Subject) : Nat → Regex → Nat → Nat → Option Spans
  | 0, _, _, _ => none
  | n + 1, r, i, j =>
    match r with
    | .group k inner => (spans s n inner i j).map ((k, i, j) :: ·)
    | .append a b => (ends s a i).findSome? fun k =>
        if k ≤ j && (ends s b k).contains j then do
          let left ← spans s n a i k
          let right ← spans s n b k j
          return right ++ left
        else none
    | .either a b =>
      if (ends s a i).contains j then spans s n a i j
      else if (ends s b i).contains j then spans s n b i j else none
    | .repeated inner least most =>
      if inner.groupCount = 0 then (if (ends s r i).contains j then some [] else none)
      else if i = j then
        if (ends s inner i).contains i && most != some 0 then spans s n inner i i else some []
      else
        let rest := Regex.repeated inner (least - 1) (most.map (· - 1))
        (ends s inner i).findSome? fun k =>
          if i < k && k ≤ j && (k = j && least ≤ 1 || (ends s rest k).contains j) then do
            let left ← spans s n inner i k
            let right ← if k = j then some [] else spans s n rest k j
            return right ++ left
          else none
    | r => if (ends s r i).contains j then some [] else none

/-! ## matching choice by choice -/

/-- match from a place and go on with `k`; the bound is never reached by expressions as small as
given -/
def tryFrom (s : Subject) : Nat → Regex → Nat → Spans → (Nat → Spans → Option (Nat × Spans)) →
    Option (Nat × Spans)
  | 0, _, _, _, _ => none
  | n + 1, r, i, found, k =>
    match r with
    | .empty => k i found
    | .place t => if s.holds i t then k i found else none
    | .group m inner => tryFrom s n inner i found fun j found => k j ((m, i, j) :: found)
    | .again m =>
      match found.lookup m with
      | none => none
      | some (a, b) =>
        let size := b - a
        let same := (List.range size).all fun d =>
          match s.text[a + d]?, s.text[i + d]? with
          | some x, some y => x == y || (s.ignoresCase && x.toLower == y.toLower)
          | _, _ => false
        if same then k (i + size) found else none
    | .append a b => tryFrom s n a i found fun j found => tryFrom s n b j found k
    | .either a b =>
      match tryFrom s n a i found k with
      | some m => some m
      | none => tryFrom s n b i found k
    | .repeated inner least most =>
      let stop : Option (Nat × Spans) := if least = 0 then k i found else none
      if most = some 0 then stop
      else
        let once := tryFrom s n inner i found fun j found =>
          if j = i && least = 0 then none
          else tryFrom s n (.repeated inner (least - 1) (most.map (· - 1))) j found k
        match once with
        | some m => some m
        | none => stop
    | r =>
      match s.text[i]? with
      | some c => if s.takes r c then k (i + 1) found else none
      | none => none

/-- the number of nodes, repetitions counted out -/
def size : Regex → Nat
  | .group _ r => r.size + 1
  | .append a b => a.size + b.size + 1
  | .either a b => a.size + b.size + 1
  | .repeated r least _ => r.size * (least + 1) + 1
  | _ => 1

/-! ## finding -/

/-- the longest match from a place, with the groups if `wantsGroups` holds -/
def matchAt? (r : Regex) (s : Subject) (wantsGroups : Bool) (i : Nat) : Option Spans :=
  let bound := (r.size + 2) * (s.text.size + 2)
  if r.asksAgain then
    (tryFrom s bound r i [] fun j found => some (j, found)).map fun (j, found) => (0, i, j) :: found
  else
    match ends s r i with
    | [] => none
    | j :: _ =>
      if wantsGroups && r.groupCount ≠ 0 then
        some ((0, i, j) :: (spans s bound r i j).getD [])
      else some [(0, i, j)]

/-- the first match at a place or after it, of at most `n` places -/
def findUpTo (r : Regex) (s : Subject) (wantsGroups : Bool) : Nat → Nat → Option Spans
  | 0, _ => none
  | n + 1, i =>
    match matchAt? r s wantsGroups i with
    | some found => some found
    | none => findUpTo r s wantsGroups n (i + 1)

/-- the first match at a place or after it; group 0 is the whole match -/
def find? (r : Regex) (s : Subject) (wantsGroups : Bool) (start : Nat) : Option Spans :=
  findUpTo r s wantsGroups (s.text.size + 1 - start) start

/-- a text to look for an expression in -/
def subject (ignoresCase : Bool) (text : List Char) : Subject := ⟨text.toArray, ignoresCase, false⟩

/-- whether an expression occurs in a text -/
def occurs (r : Regex) (ignoresCase : Bool) (text : List Char) : Bool :=
  (find? r (subject ignoresCase text) false 0).isSome

/-- the text between two places -/
def Subject.slice (s : Subject) (i j : Nat) : List Char := (s.text.extract i j).toList

/-- the text of a group; one that matched nothing has none -/
def groupText (s : Subject) (found : Spans) (k : Nat) : List Char :=
  match found.lookup k with
  | some (i, j) => s.slice i j
  | none => []

end Regex

end PatternBuild.Shell
