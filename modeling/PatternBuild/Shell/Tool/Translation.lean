import PatternBuild.Shell.Tool.Quantity
import PatternBuild.Shell.Wildcard

/-!
# Translation: characters put in place of others

`tr` takes sets of characters, written one by one or as ranges, classes and repetitions.
-/

namespace PatternBuild.Shell.Tool

open Activity

/-- a member of a written set -/
inductive SetItem where
  | one (c : Char)
  | range (low high : Char)
  | named (name : String)
  /-- a character so many times, or as often as there is room -/
  | again (c : Char) (count : Option Nat)
  deriving DecidableEq, Repr

/-- characters of a written set, and whether a backslash stands in front of them -/
def unescaped : Nat → List Char → List (Char × Bool)
  | 0, _ => []
  | n + 1, cs =>
    match cs with
    | [] => []
    | ['\\'] => [('\\', false)]
    | '\\' :: c :: rest =>
      let digits := ((c :: rest).take 3).takeWhile isOctal
      match numeral? 8 digits with
      | some k =>
        if k < 256 then (octetOf k, true) :: unescaped n ((c :: rest).drop digits.length)
        else (octetOf (k / 8), true) :: unescaped n ((c :: rest).drop 2)
      | none =>
        let x := match c with
          | 'a' => '\x07'
          | 'b' => '\x08'
          | 'f' => '\x0c'
          | 'n' => '\n'
          | 'r' => '\r'
          | 't' => '\t'
          | 'v' => '\x0b'
          | c => c
        (x, true) :: unescaped n rest
    | c :: rest => (c, false) :: unescaped n rest

/-- the names of classes -/
def classNames : List String :=
  ["alnum", "alpha", "blank", "cntrl", "digit", "graph", "lower", "print", "punct", "space", "upper",
    "xdigit"]

/-- a repetition after an opening bracket: the character, how often, and what follows -/
def repetition? (c : Char) (rest : List (Char × Bool)) :
    Option (SetItem × List (Char × Bool)) :=
  let digits := (rest.map (·.1)).takeWhile Char.isDigit
  match rest.drop digits.length with
  | (']', false) :: rest =>
    match numeral? (if digits.head? == some '0' then 8 else 10) digits with
    | some 0 => some (.again c none, rest)
    | some n => some (.again c (some n), rest)
    | none => if digits.isEmpty then some (.again c none, rest) else none
  | _ => none

/-- the members of a written set -/
def setItems : Nat → List (Char × Bool) → Except String (List SetItem)
  | 0, _ => .ok []
  | n + 1, gs =>
    match gs with
    | [] => .ok []
    | ('[', false) :: (':', false) :: rest =>
      let name := String.ofList ((rest.map (·.1)).takeWhile (· ≠ ':'))
      match rest.drop name.length with
      | (':', false) :: (']', false) :: after =>
        if classNames.contains name then do return .named name :: (← setItems n after)
        else .error s!"invalid character class {cited name}"
      | _ => do return .one '[' :: (← setItems n ((':', false) :: rest))
    | ('[', false) :: ('=', false) :: (c, _) :: ('=', false) :: (']', false) :: rest => do
      return .one c :: (← setItems n rest)
    | ('[', false) :: (c, q) :: ('*', false) :: rest =>
      match repetition? c rest with
      | some (item, rest) => do return item :: (← setItems n rest)
      | none => do return .one '[' :: (← setItems n ((c, q) :: ('*', false) :: rest))
    | (a, _) :: ('-', false) :: (b, _) :: rest =>
      if b < a then
        .error s!"range-endpoints of '{a}-{b}' are in reverse collating sequence order"
      else do return .range a b :: (← setItems n rest)
    | (c, _) :: rest => do return .one c :: (← setItems n rest)

/-- the characters of a range or a class, ascending -/
def allChars : List Char := (List.range 256).map Char.ofNat

def SetItem.chars (fill : Nat) : SetItem → List Char
  | .one c => [c]
  | .range a b => allChars.filter fun c => a ≤ c && c ≤ b
  | .named name => allChars.filter (Wildcard.inClass name)
  | .again c count => List.replicate (count.getD fill) c

/-- the characters of a set; a repetition without a number fills it up to a size -/
def charsOf (size : Nat) (items : List SetItem) : List Char :=
  let counted := (items.flatMap (SetItem.chars 0)).length
  items.flatMap (SetItem.chars (size - counted))

/-- how characters are changed -/
structure Translation where
  removed : Char → Bool
  changed : Char → Char
  squeezed : Char → Bool

/-- translate a text; `last` is the last character that was printed -/
def Translation.apply (t : Translation) (last : Option Char) (cs : List Char) :
    Option Char × List Char :=
  let (last, found) := cs.foldl (fun (last, found) c =>
    if t.removed c then (last, found)
    else
      let c := t.changed c
      if last == some c && t.squeezed c then (last, found) else (some c, c :: found))
    (last, ([] : List Char))
  (last, found.reverse)

/-- the characters of a set, each with the one in its place; the last of these is used again -/
def pairsOf (truncates : Bool) (first second : List Char) : List (Char × Char) :=
  first.zip (if truncates then second
    else second ++ List.replicate (first.length - second.length) (second.getLast?.getD ' '))

/-- read the octets of the standard input and print them translated -/
def translateInput (t : Translation) : Nat → Option Char → Activity Unit
  | 0, _ => return
  | n + 1, last => do
    match ← readSome 0 with
    | .error f => Tool.complain "tr" s!"read error: {f.message}"
    | .ok [] => return
    | .ok cs =>
      let (last, text) := t.apply last cs
      Tool.out text
      if cs.length < 65536 then discard flush
      translateInput t n last

/-- the places of the classes of letters in a set, counted in characters -/
def casePlaces (items : List SetItem) : List Nat :=
  let sizes := items.map fun item => (SetItem.chars 0 item).length
  let starts := (List.range items.length).map fun k => (sizes.take k).foldl (· + ·) 0
  ((items.zip starts).filter fun (item, _) => match item with
    | .named name => name = "lower" || name = "upper"
    | _ => false).map (·.2)

/-- whether a text ends with a backslash that quotes nothing -/
def endsOpen (text : String) : Bool :=
  (text.toList.reverse.takeWhile (· == '\\')).length % 2 = 1

def tr (args : List String) : Activity Nat :=
  withOptions "tr" { OptionRules.of "cCdst" "" [("complement", "c", .never), ("delete", "d", .never),
    ("squeeze-repeats", "s", .never), ("truncate-set1", "t", .never)] with mixes := false } 1 args
    fun g => do
  let complement := g.has "c" || g.has "C"
  let deletes := g.has "d"
  let squeezes := g.has "s"
  let least := if deletes != squeezes then 1 else 2
  let most := if deletes && !squeezes then 1 else 2
  match g.operands with
  | [] => misuse "tr" "missing operand" 1
  | first :: rest =>
    if g.operands.length < least then
      Tool.complain "tr" s!"missing operand after {cited first}"
      tell (if squeezes then "Two strings must be given when both deleting and squeezing repeats.\n"
        else "Two strings must be given when translating.\n")
      tryHelp "tr"
      return 1
    else if most < g.operands.length then
      Tool.complain "tr" s!"extra operand {cited (firstOf (g.operands.drop most))}"
      if most = 1 && g.operands.length = 2 then
        tell "Only one string may be given when deleting without squeezing repeats.\n"
      tryHelp "tr"
      return 1
    else
      for text in first :: rest do
        if endsOpen text then
          Tool.complain "tr" "warning: an unescaped backslash at end of string is not portable"
      let items (text : String) : Except String (List SetItem) :=
        setItems (text.length + 1) (unescaped (text.length + 1) text.toList)
      match items first, (rest.head?.map items).getD (.ok []) with
      | .error message, _ => refuse "tr" message 1
      | _, .error message => refuse "tr" message 1
      | .ok a, .ok b =>
        let plain := charsOf 0 a
        let firstChars := if complement then allChars.filter (!plain.contains ·) else plain
        let isMember (chars : List Char) : Char → Bool :=
          let members := (allChars.map chars.contains).toArray
          fun c => (members[c.toNat]?).getD false
        let translates := !deletes && !rest.isEmpty
        let isWrong := b.any fun item => match item with
          | .named name => translates && name ≠ "lower" && name ≠ "upper"
          | _ => false
        if isWrong then
          refuse "tr" "when translating, the only character classes that may appear in\nstring2 are 'upper' and 'lower'" 1
        else if a.any (fun item => match item with
            | .again _ _ => true
            | _ => false) then
          refuse "tr" "the [c*] repeat construct may not appear in string1" 1
        else if translates && b.isEmpty && !g.has "t" then
          refuse "tr" "when not truncating set1, string2 must be non-empty" 1
        else if translates && !complement && (casePlaces b).any (!(casePlaces a).contains ·) then
          refuse "tr" "misaligned [:upper:] and/or [:lower:] construct" 1
        else
          let second := charsOf firstChars.length b
          let pairs := if translates then pairsOf (g.has "t") firstChars second else []
          let targets := (allChars.map fun c =>
            ((pairs.reverse.find? (·.1 == c)).map (·.2)).getD c).toArray
          let t : Translation := {
            removed := if deletes then isMember firstChars else fun _ => false
            changed := fun c => (targets[c.toNat]?).getD c
            squeezed := if !squeezes then fun _ => false
              else isMember (if rest.isEmpty then firstChars else second) }
          translateInput t endless none
          return 0

end PatternBuild.Shell.Tool
