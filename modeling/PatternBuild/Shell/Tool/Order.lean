import PatternBuild.Shell.Decimal
import PatternBuild.Shell.Tool.Quantity
import PatternBuild.Shell.Wildcard

/-!
# Order: lines sorted by keys

A line is compared by the keys that are written, each with its own rules, and as a whole if they do
not decide.
-/

namespace PatternBuild.Shell.Tool

open Activity

/-! ## comparing texts -/

/-- compare two texts octet by octet -/
def compareOctets : List Char → List Char → Ordering
  | [], [] => .eq
  | [], _ => .lt
  | _, [] => .gt
  | a :: as, b :: bs => if a < b then .lt else if b < a then .gt else compareOctets as bs

/-- a number in front of a text: whether it is negative, its digits and those after its point -/
def leadingNumber (cs : List Char) : Bool × List Char × List Char :=
  let cs := cs.dropWhile fun c => c == ' ' || c == '\t' || c == '\n'
  let (isNegative, cs) := match cs with
    | '-' :: cs => (true, cs)
    | cs => (false, cs)
  let whole := cs.takeWhile Char.isDigit
  let part := match cs.drop whole.length with
    | '.' :: rest => rest.takeWhile Char.isDigit
    | _ => []
  (isNegative, whole, part)

/-- the value of a number in front of a text, as a fraction with a power of ten below -/
def numericValue (cs : List Char) : Int × Nat :=
  let (isNegative, whole, part) := leadingNumber cs
  let part := (part.reverse.dropWhile (· == '0')).reverse
  let n : Int := (numeral? 10 (whole ++ part)).getD 0
  (if isNegative then -n else n, part.length)

def compareNumbers (a b : List Char) : Ordering :=
  let (m, k) := numericValue a
  let (n, l) := numericValue b
  compare (m * Nat.pow 10 l) (n * Nat.pow 10 k)

/-- the power of the letter behind a number -/
def sizePower (cs : List Char) : Nat :=
  let cs := cs.dropWhile fun c => c == ' ' || c == '\t'
  let cs := (if cs.head? == some '-' then cs.drop 1 else cs).dropWhile Char.isDigit
  match if cs.head? == some '.' then (cs.drop 1).dropWhile Char.isDigit else cs with
  | c :: _ => (("KMGTPEZY".toList.idxOf? (if c == 'k' then 'K' else c)).map (· + 1)).getD 0
  | [] => 0

/-- compare numbers with letters behind them, by their signs, the letters and the numbers -/
def compareSizes (a b : List Char) : Ordering :=
  let sign (cs : List Char) : Int :=
    let (n, _) := numericValue cs
    if n < 0 then -1 else if n = 0 then 0 else 1
  let rank (cs : List Char) : Int := sign cs * (sizePower cs : Int)
  (compare (sign a) (sign b)).then ((compare (rank a) (rank b)).then (compareNumbers a b))

/-- the number of a month, by the first letters of its name -/
def monthNumber (cs : List Char) : Nat :=
  let name := ((cs.dropWhile fun c => c == ' ' || c == '\t').take 3).map Char.toUpper
  let names := ["JAN", "FEB", "MAR", "APR", "MAY", "JUN", "JUL", "AUG", "SEP", "OCT", "NOV", "DEC"]
  ((names.idxOf? (String.ofList name)).map (· + 1)).getD 0

/-- a number with a fraction or a power; a text without one comes before all numbers -/
def floatingValue (cs : List Char) : Int × Float :=
  let cs := cs.dropWhile fun c => c == ' ' || c == '\t'
  match Floating.read? 53 cs with
  | some (.nan _, _) => (1, 0.0)
  | some (x, _) => (2, x.toFloat)
  | none => (0, 0.0)

def compareFloating (a b : List Char) : Ordering :=
  let (k, x) := floatingValue a
  let (l, y) := floatingValue b
  (compare k l).then (if x < y then .lt else if y < x then .gt else .eq)

/-! ### versions -/

/-- the rank of a character that is no digit, and of the end of a text -/
def versionRank : Option Char → Int
  | none => -1
  | some c =>
    if c.isDigit then 0
    else if c.isAlpha then c.toNat
    else if c == '~' then -2 else c.toNat + 256

/-- compare the digits and the rest of two texts by turns -/
def compareParts : Nat → List Char → List Char → Ordering
  | 0, _, _ => .eq
  | n + 1, a, b =>
    if a.isEmpty && b.isEmpty then .eq
    else
      let isOther (cs : List Char) : Bool := cs.head?.any fun c => !c.isDigit
      if isOther a || isOther b then
        match compare (versionRank a.head?) (versionRank b.head?) with
        | .eq => compareParts n (a.drop 1) (b.drop 1)
        | o => o
      else
        let digits (cs : List Char) : List Char := (cs.takeWhile Char.isDigit).dropWhile (· == '0')
        match compare (digits a).length (digits b).length with
        | .eq =>
          match compareOctets (digits a) (digits b) with
          | .eq => compareParts n (a.dropWhile Char.isDigit) (b.dropWhile Char.isDigit)
          | o => o
        | o => o

/-- a text without the endings that follow its name -/
def withoutEndings (cs : List Char) : List Char :=
  let isEnding (part : List Char) : Bool := match part with
    | c :: rest => (c.isAlpha || c == '~') && rest.all fun c => c.isAlphanum || c == '~'
    | [] => false
  let parts := (String.ofList cs).splitOn "."
  let kept := (parts.drop 1).reverse.dropWhile fun part => isEnding part.toList
  (".".intercalate (parts.take 1 ++ kept.reverse)).toList

/-- compare two texts as versions -/
def compareVersions (a b : List Char) : Ordering :=
  if a == b then .eq
  else if a.isEmpty then .lt
  else if b.isEmpty then .gt
  else
    let rank (cs : List Char) : Nat :=
      if cs == ['.'] then 0 else if cs == ['.', '.'] then 1 else if cs.head? == some '.' then 2 else 3
    let bound := a.length + b.length + 2
    match compare (rank a) (rank b) with
    | .eq =>
      let (p, q) := (withoutEndings a, withoutEndings b)
      (compareParts bound p q).then (compareParts bound a b)
    | o => o

/-! ## keys -/

/-- how texts are compared -/
structure OrderRules where
  skipsBlanks : Bool
  skipsEndBlanks : Bool
  dictionary : Bool
  ignoresCase : Bool
  ignoresHidden : Bool
  /-- the letters of the kinds of comparison -/
  kinds : List Char
  reverses : Bool
  deriving DecidableEq, Repr

def OrderRules.plain : OrderRules := ⟨false, false, false, false, false, [], false⟩

/-- rules without any that can be inherited -/
def OrderRules.isPlain (r : OrderRules) : Bool := decide (r = .plain)

/-- rules with the one of a letter more; `isEnd` holds for letters behind the end of a key -/
def OrderRules.with? (r : OrderRules) (isEnd : Option Bool) (c : Char) : Option OrderRules :=
  match c with
  | 'b' => some (match isEnd with
    | some true => { r with skipsEndBlanks := true }
    | some false => { r with skipsBlanks := true }
    | none => { r with skipsBlanks := true, skipsEndBlanks := true })
  | 'd' => some { r with dictionary := true }
  | 'f' => some { r with ignoresCase := true }
  | 'i' => some { r with ignoresHidden := true }
  | 'r' => some { r with reverses := true }
  | c =>
    if !"ghMnRV".toList.contains c then none
    else if r.kinds.contains c then some r
    else some { r with kinds := c :: r.kinds }

/-- the letters of the rules that cannot go with one another -/
def OrderRules.clash? (r : OrderRules) : Option String :=
  let numbers := r.kinds.filter fun c => c ≠ 'R' && c ≠ 'V'
  let isText := numbers.length < r.kinds.length || r.dictionary || r.ignoresHidden
  if numbers.length + isText.toNat ≤ 1 then none
  else
    let kind (c : Char) : List Char := if r.kinds.contains c then [c] else []
    let letter (isGiven : Bool) (c : Char) : List Char := if isGiven then [c] else []
    some (String.ofList (letter r.dictionary 'd' ++ letter r.ignoresCase 'f' ++ kind 'g' ++ kind 'h' ++
      letter (r.ignoresHidden && !r.dictionary) 'i' ++ kind 'M' ++ kind 'n' ++ kind 'R' ++ kind 'V'))

/-- a part of lines that is compared: its first field and character, and its last ones -/
structure SortKey where
  field : Nat
  char : Nat
  endField : Option Nat
  endChar : Nat
  rules : OrderRules
  deriving Repr

def isBlankChar (c : Char) : Bool := c == ' ' || c == '\t' || c == '\n'

/-- a line behind some fields -/
def skipFields (mark : Option Char) : Nat → List Char → List Char
  | 0, cs => cs
  | _, [] => []
  | n + 1, cs =>
    match mark with
    | some m => skipFields mark n ((cs.dropWhile (· ≠ m)).drop 1)
    | none => skipFields mark n ((cs.dropWhile isBlankChar).dropWhile fun c => !isBlankChar c)

/-- the length of a line up to the end of a field, or of some characters of one -/
def endOf (mark : Option Char) (skips : Bool) (field chars : Nat) (line : List Char) : Nat :=
  if chars = 0 then
    match mark with
    | some m =>
      let before := skipFields mark (field - 1) line
      line.length - before.length + (before.takeWhile (· ≠ m)).length
    | none => line.length - (skipFields none field line).length
  else
    let rest := skipFields mark (field - 1) line
    let rest := if skips then rest.dropWhile isBlankChar else rest
    min line.length (line.length - rest.length + chars)

/-- the part of a line that a key means -/
def SortKey.textOf (k : SortKey) (mark : Option Char) (line : List Char) : List Char :=
  let rest := skipFields mark (k.field - 1) line
  let rest := if k.rules.skipsBlanks then rest.dropWhile isBlankChar else rest
  let start := min line.length (line.length - rest.length + (k.char - 1))
  let stop := match k.endField with
    | none => line.length
    | some field => endOf mark k.rules.skipsEndBlanks field k.endChar line
  (line.take stop).drop start

/-- compare two texts by some rules -/
def OrderRules.compare (r : OrderRules) (a b : List Char) : Ordering :=
  let folded (cs : List Char) : List Char :=
    let cs := if r.dictionary then cs.filter fun c => c.isAlphanum || isBlankChar c
      else if r.ignoresHidden then cs.filter fun c => !isHidden c else cs
    if r.ignoresCase then cs.map Char.toUpper else cs
  let o :=
    if r.kinds.contains 'n' then compareNumbers a b
    else if r.kinds.contains 'g' then compareFloating a b
    else if r.kinds.contains 'h' then compareSizes a b
    else if r.kinds.contains 'M' then Ord.compare (monthNumber a) (monthNumber b)
    else if r.kinds.contains 'V' && !r.kinds.contains 'R' then
      compareVersions (folded a) (folded b)
    else compareOctets (folded a) (folded b)
  if r.reverses then o.swap else o

/-- how lines are sorted -/
structure SortOrder where
  mark : Option Char
  keys : List SortKey
  reverses : Bool
  /-- lines with equal keys stay as they are -/
  isStable : Bool

/-- a line with the texts of its keys -/
structure KeyedLine where
  line : List Char
  keys : List (List Char)

def SortOrder.keyed (o : SortOrder) (line : List Char) : KeyedLine :=
  ⟨line, o.keys.map fun k => k.textOf o.mark line⟩

/-- compare two lines by their keys -/
def SortOrder.compareKeys (o : SortOrder) (a b : KeyedLine) : Ordering :=
  (o.keys.zip (a.keys.zip b.keys)).foldl (fun found (k, x, y) =>
    found.then (k.rules.compare x y)) .eq

def SortOrder.compare (o : SortOrder) (a b : KeyedLine) : Ordering :=
  (o.compareKeys a b).then
    (if o.isStable then .eq
    else
      let last := compareOctets a.line b.line
      if o.reverses then last.swap else last)

/-- why keys cannot be read -/
abbrev KeyProblem := String

/-- the number in front of a key -/
def keyNumber (cs : List Char) : Nat × List Char :=
  let digits := cs.takeWhile Char.isDigit
  ((numeral? 10 digits).getD 0, cs.drop digits.length)

/-- the letters in front of a text, added to rules -/
def keyLetters (isEnd : Bool) : OrderRules → List Char → OrderRules × List Char
  | r, c :: cs =>
    match r.with? (some isEnd) c with
    | some r => keyLetters isEnd r cs
    | none => (r, c :: cs)
  | r, [] => (r, [])

/-- the key that a text writes -/
def readKey (text : String) : Except KeyProblem SortKey := do
  let bad (reason : String) : KeyProblem := s!"{reason}: invalid field specification {cited text}"
  let cs := text.toList
  if !(cs.head?.any Char.isDigit) then
    throw s!"invalid number at field start: invalid count at start of {cited text}"
  let (field, cs) := keyNumber cs
  if field = 0 then throw (bad "field number is zero")
  let (char, cs) ← match cs with
    | '.' :: rest =>
      if !(rest.head?.any Char.isDigit) then
        throw s!"invalid number after '.': invalid count at start of {cited (String.ofList rest)}"
      let (n, cs) := keyNumber rest
      if n = 0 then throw (bad "character offset is zero")
      pure (n, cs)
    | cs => pure (1, cs)
  let (rules, cs) := keyLetters false .plain cs
  match cs with
  | [] => return ⟨field, char, none, 0, rules⟩
  | ',' :: cs =>
    if !(cs.head?.any Char.isDigit) then
      throw s!"invalid number after ',': invalid count at start of {cited (String.ofList cs)}"
    let (endField, cs) := keyNumber cs
    if endField = 0 then throw (bad "field number is zero")
    let (endChar, cs) ← match cs with
      | '.' :: rest =>
        if !(rest.head?.any Char.isDigit) then
          throw s!"invalid number after '.': invalid count at start of {cited (String.ofList rest)}"
        pure (keyNumber rest)
      | cs => pure (0, cs)
    let (rules, cs) := keyLetters true rules cs
    if !cs.isEmpty then throw (bad "stray character in field spec")
    return ⟨field, char, some endField, endChar, rules⟩
  | _ => throw (bad "stray character in field spec")

end PatternBuild.Shell.Tool
